import TypedSql.Connection.Basic

namespace TypedSql

namespace Connection

/-- Fails for a name that nothing can be registered under. -/
def checkName (what : Registered) (name : String) : Except ConfigurationError Unit :=
  if name.isEmpty then .error (.emptyName what)
  else if '\x00' ∈ name.toList then .error (.nulInName what name)
  else if maxNameBytes < name.utf8ByteSize then .error (.longName what name.utf8ByteSize)
  else .ok ()

/-- The number of arguments that a number stands for: -1 is any. -/
def arity (function : String) (arguments : Int) : Except ConfigurationError Arity :=
  if arguments < -1 ∨ maxArguments < arguments then .error (.argumentRange function arguments)
  else if arguments = -1 then .ok .any
  else .ok (.exactly arguments.toNat)

/-- A registration on the engine, or why there is none. -/
def register (change : Except ConfigurationError (Engine → Engine)) : Act Unit :=
  match change with
  | .ok change => modify fun c => { c with engine := change c.engine }
  | .error e => throw (.configuration e)

def registerFunction (name : String) (arguments : Int) (f : List Cell → Cell) : Act Unit :=
  register do
    checkName .function name
    let arity ← arity name arguments
    .ok (·.registerFunction (.ofCells name arity f))

def registerCollation (name : String) (compareText : String → String → Ordering) : Act Unit :=
  register do
    checkName .collation name
    .ok (·.registerCollation ⟨name, .ofText compareText⟩)

end Connection

end TypedSql
