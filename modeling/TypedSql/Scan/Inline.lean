import TypedSql.Scan.Piece
import TypedSql.Stored

/-!
Inlining: every parameter token of a text replaced by the literal of the cell bound to it.

Positional tokens are numbered from left to right. A question mark with digits takes the number
it names, a bare one takes the number after the largest so far. Named tokens are looked up by
their whole text, sigil included. Each of the two leaves the other's tokens as they stand.
-/

namespace TypedSql

inductive BindingError where
  | countMismatch (expected found : Nat)
  | unknownName (name : String)
  | duplicateName (name : String)
  | invalidIndex (token : String)
deriving DecidableEq, Repr

def BindingError.message : BindingError → String
  | .countMismatch expected found =>
      "statement expects " ++ toString expected ++ " binding(s), " ++ toString found ++ " supplied"
  | .unknownName name => "statement has no parameter named \x60" ++ name ++ "\x60"
  | .duplicateName name => "parameter \x60" ++ name ++ "\x60 is bound more than once"
  | .invalidIndex token => "\x60" ++ token ++ "\x60 is not a valid parameter number"

/-- The largest number that a numbered parameter may have. -/
def maxParameter : Nat := 32766

def digitsValue (digits : List Char) : Nat :=
  digits.foldl (fun n c => n * 10 + (c.toNat - '0'.toNat)) 0

/-- The number of a positional token when `highest` is the largest number before it. -/
def positionalNumber (highest : Nat) (digits : List Char) : Except BindingError Nat :=
  if digits.isEmpty then .ok (highest + 1)
  else
    let n := digitsValue digits
    if 1 ≤ n ∧ n ≤ maxParameter then .ok n
    else .error (.invalidIndex (String.ofList (Parameter.positional digits).text))

/-- The text of a cell in SQL, or nothing where no cell is given. -/
def literalAt (cells : List Cell) (number : Nat) : List Char :=
  match cells[number - 1]? with
  | some cell => cell.literal.toList
  | none => []

/-- Replaces positional tokens; also gives the largest number among them and `highest`. -/
def replacePositional (cells : List Cell) (highest : Nat) :
    List Piece → Except BindingError (Nat × List Char)
  | [] => .ok (highest, [])
  | .parameter (.positional digits) :: rest => do
      let n ← positionalNumber highest digits
      let (top, out) ← replacePositional cells (max highest n) rest
      .ok (top, literalAt cells n ++ out)
  | piece :: rest => do
      let (top, out) ← replacePositional cells highest rest
      .ok (top, piece.text ++ out)

/-- The text with each positional token replaced by the literal of the cell of its number. -/
def inlinePositional (sql : String) (cells : List Cell) : Except BindingError String := do
  let (highest, out) ← replacePositional cells 0 (scan sql.toList)
  if highest = cells.length then .ok (String.ofList out)
  else .error (.countMismatch highest cells.length)

/-- The first name that repeats an earlier one. -/
def firstDuplicate (seen : List String) : List String → Option String
  | [] => none
  | name :: rest => if name ∈ seen then some name else firstDuplicate (name :: seen) rest

def replaceNamed (pairs : List (String × Cell)) : List Piece → Except BindingError (List Char)
  | [] => .ok []
  | .parameter (.named sigil chars) :: rest =>
      let name := String.ofList (sigil :: chars)
      match pairs.lookup name with
      | none => .error (.unknownName name)
      | some cell => do
          let out ← replaceNamed pairs rest
          .ok (cell.literal.toList ++ out)
  | piece :: rest => do
      let out ← replaceNamed pairs rest
      .ok (piece.text ++ out)

/-- The text with each named token replaced by the literal of the cell paired with it. -/
def inlineNamed (sql : String) (pairs : List (String × Cell)) : Except BindingError String :=
  match firstDuplicate [] (pairs.map (·.1)) with
  | some name => .error (.duplicateName name)
  | none => do
      let out ← replaceNamed pairs (scan sql.toList)
      .ok (String.ofList out)

/-- The values given to a statement, by position or by name. -/
inductive Bindings where
  | positional (cells : List Cell)
  | named (pairs : List (String × Cell))
deriving DecidableEq, Repr

namespace Bindings

def none : Bindings := .positional []

def size : Bindings → Nat
  | .positional cells => cells.length
  | .named pairs => pairs.length

def isEmpty (b : Bindings) : Bool := b.size == 0

def inline (b : Bindings) (sql : String) : Except BindingError String :=
  match b with
  | .positional cells => inlinePositional sql cells
  | .named pairs => inlineNamed sql pairs

end Bindings

end TypedSql
