import TypedSql.Json.Basic
import TypedSql.Settings.Basic

/-!
Settings as a JSON document. A document is an object, whose members have a default each and may
come in any order among others that mean nothing, or an array that gives the first few of them by
position. No member is given twice.
-/

namespace TypedSql

def OpenMode.name : OpenMode → String
  | .readWrite => "read_write"
  | .readOnly => "read_only"

/-- The mode that code units name. -/
def OpenMode.named? (units : List Nat) : Option OpenMode :=
  match Json.text? units with
  | some "read_write" => some .readWrite
  | some "read_only" => some .readOnly
  | _ => none

namespace Settings

/-- A path, or `null`. -/
def readPath : Json → Option (Option String)
  | .null => some none
  | .string units => some <$> Json.text? units
  | _ => none

/-- A mode by name, or an object with the name as its only key and `null` for its value. -/
def readMode : Json → Option OpenMode
  | .string units => OpenMode.named? units
  | .object [(key, .null)] => OpenMode.named? key
  | _ => none

/-- A natural number of 64 bits, or `null`. -/
def readTimeout : Json → Option (Option UInt64)
  | .null => some none
  | .number text => do
      let n ← Json.natural? text
      if n < UInt64.size then some (some (UInt64.ofNat n)) else none
  | _ => none

def readBool : Json → Option Bool
  | .bool b => some b
  | _ => none

/-- The names of the members, in the order in which they are written. -/
def memberNames : List String := ["path", "mode", "busy_timeout_ms", "foreign_keys"]

/-- The settings with one member read; a name that is no member's changes nothing. -/
def readMember (s : Settings) (name : String) (v : Json) : Option Settings :=
  match name with
  | "path" => do some { s with path := ← readPath v }
  | "mode" => do some { s with mode := ← readMode v }
  | "busy_timeout_ms" => do some { s with busyTimeout := ← readTimeout v }
  | "foreign_keys" => do some { s with foreignKeys := ← readBool v }
  | _ => some s

/-- The settings with members read in order; `given` are the names before them. -/
def readMembers (s : Settings) (given : List String) : List (List Nat × Json) → Option Settings
  | [] => some s
  | (key, v) :: rest => do
      let name ← Json.text? key
      if name ∈ given ∧ name ∈ memberNames then none
      else (← s.readMember name v).readMembers (name :: given) rest

/-- The settings with members read by position. -/
def readItems (s : Settings) : List String → List Json → Option Settings
  | _, [] => some s
  | name :: names, v :: rest => do (← s.readMember name v).readItems names rest
  | [], _ :: _ => none

def ofJson? : Json → Option Settings
  | .object members => Settings.inMemory.readMembers [] members
  | .array items => Settings.inMemory.readItems memberNames items
  | _ => none

def parse? (document : String) : Option Settings := (Json.parse? document).bind ofJson?

def document (s : Settings) : String :=
  let values :=
    [(s.path.map Json.quoted).getD "null", Json.quoted s.mode.name,
      (s.busyTimeout.map fun n => toString n.toNat).getD "null",
      if s.foreignKeys then "true" else "false"]
  let members := (memberNames.zip values).map fun (name, v) => Json.quoted name ++ ":" ++ v
  "\x7b" ++ String.intercalate "," members ++ "\x7d"

end Settings

end TypedSql
