import TypedSql.Json.Token

namespace TypedSql

/-- A JSON value. Strings are kept as code units and numbers as written. -/
inductive Json where
  | null
  | bool (b : Bool)
  | number (text : List Char)
  | string (units : List Nat)
  | array (items : List Json)
  | object (members : List (List Nat × Json))

namespace Json

/-- The characters of code units: the two halves of a surrogate pair are one character, and a half
alone is none. -/
def chars? : List Nat → Option (List Char)
  | [] => some []
  | unit :: rest =>
      if 0xD800 ≤ unit ∧ unit < 0xDC00 then
        match rest with
        | low :: rest =>
            if 0xDC00 ≤ low ∧ low < 0xE000 then
              (Char.ofNat (0x10000 + (unit - 0xD800) * 0x400 + (low - 0xDC00)) :: ·) <$> chars? rest
            else none
        | [] => none
      else if 0xDC00 ≤ unit ∧ unit < 0xE000 then none
      else (Char.ofNat unit :: ·) <$> chars? rest

def text? (units : List Nat) : Option String := String.ofList <$> chars? units

/-- One or more digits, and what follows them. -/
def dropDigits? (s : List Char) : Option (List Char) :=
  match s with
  | c :: rest => if c.isDigit then some (rest.dropWhile Char.isDigit) else none
  | [] => none

/-- The digits before a fraction: a leading zero stands alone. -/
def dropWhole? : List Char → Option (List Char)
  | '0' :: rest => some rest
  | s => dropDigits? s

def dropFraction? : List Char → Option (List Char)
  | '.' :: rest => dropDigits? rest
  | s => some s

def dropExponent? : List Char → Option (List Char)
  | c :: rest =>
      if c = 'e' ∨ c = 'E' then
        match rest with
        | '+' :: rest => dropDigits? rest
        | '-' :: rest => dropDigits? rest
        | _ => dropDigits? rest
      else some (c :: rest)
  | [] => some []

def isNumber (s : List Char) : Bool :=
  let unsigned := match s with
    | '-' :: rest => rest
    | _ => s
  ((dropWhole? unsigned).bind dropFraction?).bind dropExponent? == some []

/-- The natural number that is written, unless there is a sign, a fraction or an exponent. -/
def natural? (text : List Char) : Option Nat :=
  if text.all Char.isDigit then some (text.foldl (fun n c => n * 10 + (c.toNat - '0'.toNat)) 0)
  else none

/-- An array or object that is still open, with its last part first. -/
inductive Open where
  | array (items : List Json)
  | object (members : List (List Nat × Json))
  /-- An object that waits for the value of a key. -/
  | member (members : List (List Nat × Json)) (key : List Nat)

/-- What the next token has to be. -/
inductive Expected where
  | value
  /-- A value, or the end of an array with nothing in it. -/
  | firstItem
  /-- A key, or the end of an object with nothing in it. -/
  | firstKey
  | key
  | colon
  /-- What may follow a value. -/
  | following (v : Json)

/-- The value of a token that is one by itself. -/
def ofToken? : Token → Option Json
  | .string units => some (.string units)
  | .number text => if isNumber text then some (.number text) else none
  | .word text =>
      match String.ofList text with
      | "null" => some .null
      | "true" => some (.bool true)
      | "false" => some (.bool false)
      | _ => none
  | _ => none

abbrev Stack := List Open × Expected

def startValue (stack : List Open) : Token → Option Stack
  | .openBracket => some (.array [] :: stack, .firstItem)
  | .openBrace => some (.object [] :: stack, .firstKey)
  | t => (fun v => (stack, .following v)) <$> ofToken? t

def startMember : List Open → Token → Option Stack
  | .object members :: stack, .string key => some (.member members key :: stack, .colon)
  | _, _ => none

def next : Stack → Token → Option Stack
  | (stack, .value), t => startValue stack t
  | (stack, .firstItem), t =>
      match stack, t with
      | .array items :: stack, .closeBracket => some (stack, .following (.array items))
      | _, _ => startValue stack t
  | (stack, .firstKey), t =>
      match stack, t with
      | .object members :: stack, .closeBrace => some (stack, .following (.object members))
      | _, _ => startMember stack t
  | (stack, .key), t => startMember stack t
  | (stack, .colon), t => if t = .colon then some (stack, .value) else none
  | (stack, .following v), t =>
      match stack, t with
      | .array items :: stack, .comma => some (.array (v :: items) :: stack, .value)
      | .array items :: stack, .closeBracket =>
          some (stack, .following (.array (v :: items).reverse))
      | .member members key :: stack, .comma => some (.object ((key, v) :: members) :: stack, .key)
      | .member members key :: stack, .closeBrace =>
          some (stack, .following (.object ((key, v) :: members).reverse))
      | _, _ => none

def parse? (s : String) : Option Json := do
  match ← (← tokens? s).foldlM next ([], .value) with
  | ([], .following v) => some v
  | _ => none

/-- A character inside a written string. -/
def escape (c : Char) : List Char :=
  match c with
  | '"' => ['\\', '"']
  | '\\' => ['\\', '\\']
  | '\x08' => ['\\', 'b']
  | '\x0c' => ['\\', 'f']
  | '\n' => ['\\', 'n']
  | '\r' => ['\\', 'r']
  | '\t' => ['\\', 't']
  | c =>
      if c < ' ' then
        ['\\', 'u', '0', '0'] ++ [Nat.digitChar (c.toNat / 16), Nat.digitChar (c.toNat % 16)]
      else [c]

def quoted (s : String) : String := String.ofList ('"' :: (s.toList.flatMap escape ++ ['"']))

end Json

end TypedSql
