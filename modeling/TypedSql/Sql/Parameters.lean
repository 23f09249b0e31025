import TypedSql.Engine.Error
import TypedSql.Sql.Token

namespace TypedSql.Sql

/-- The largest number so far, and the names with theirs, the latest first. -/
structure Parameters where
  count : Nat := 0
  names : List (String × Nat) := []
deriving DecidableEq, Repr

namespace Parameters

def number? (p : Parameters) (name : String) : Option Nat := p.names.lookup name

def isNamed (p : Parameters) (number : Nat) : Bool := p.names.any fun (_, n) => n == number

/-- Reads a bare question mark. -/
def addNext (p : Parameters) : Nat × Parameters := (p.count + 1, { p with count := p.count + 1 })

/-- Reads a numbered mark; its text is a name of the number if it is the first. -/
def addNumber (p : Parameters) (text : String) (number : Nat) : Nat × Parameters :=
  (number,
    { count := max p.count number
      names := if p.isNamed number then p.names else (text, number) :: p.names })

def addName (p : Parameters) (name : String) : Nat × Parameters :=
  match p.number? name with
  | some number => (number, p)
  | none => (p.count + 1, { count := p.count + 1, names := (name, p.count + 1) :: p.names })

def add (p : Parameters) (t : Token) : Except Fault (Nat × Parameters) :=
  let within (next : Nat × Parameters) : Except Fault (Nat × Parameters) :=
    if next.1 ≤ maxParameter then .ok next else .error ⟨.tooManyParameters, some t.offset⟩
  match t.lexeme with
  | .positional [] => within p.addNext
  | .positional digits =>
      let number := digitsNumber 10 digits
      if 1 ≤ number ∧ number ≤ maxParameter then .ok (p.addNumber (String.ofList t.text) number)
      else .error ⟨.parameterRange, some t.offset⟩
  | _ => within (p.addName (String.ofList t.text))

end Parameters

end TypedSql.Sql
