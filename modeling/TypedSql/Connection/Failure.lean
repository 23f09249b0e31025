import TypedSql.Engine.Error
import TypedSql.Text.Escaped
import TypedSql.Value

namespace TypedSql

/-- What is registered under a name. -/
inductive Registered where
  | function
  | collation
deriving DecidableEq, Repr

def Registered.name : Registered → String
  | .function => "function"
  | .collation => "collation"

/-- The largest name of a function or collation, in bytes. -/
def maxNameBytes : Nat := 255

/-- The largest number of arguments that a function may be registered for. -/
def maxArguments : Int := 127

inductive ConfigurationError where
  | emptyName (what : Registered)
  | nulInName (what : Registered) (name : String)
  | longName (what : Registered) (bytes : Nat)
  | argumentRange (function : String) (arguments : Int)
  /-- A reason that a caller gives. -/
  | other (reason : String)
deriving DecidableEq, Repr

def ConfigurationError.message : ConfigurationError → String
  | .emptyName what => what.name ++ " name is empty"
  | .nulInName what name => what.name ++ " name \x60" ++ escaped name ++ "\x60 contains NUL"
  | .longName what bytes =>
      what.name ++ " name is " ++ toString bytes ++ " bytes, at most " ++ toString maxNameBytes
        ++ " allowed"
  | .argumentRange function arguments =>
      "function \x60" ++ function ++ "\x60 arity " ++ toString arguments ++ " is outside -1..="
        ++ toString maxArguments
  | .other reason => reason

/-- Why the engine did not do what a text says. -/
inductive Refusal where
  | fault (f : Fault)
  /-- A NUL character, at a place counted in bytes, where there can be none. -/
  | nul (position : Nat)
deriving DecidableEq, Repr

namespace Refusal

def ofError (e : EngineError) : Refusal := .fault ⟨e, none⟩

def code : Refusal → Option Nat
  | .fault f => f.code
  | .nul _ => none

def message (r : Refusal) (sql : String) : String :=
  match r with
  | .fault f => f.message sql
  | .nul position => "nul byte found in provided data at position: " ++ toString position

end Refusal

inductive Failure where
  | binding (e : BindingError)
  | opening (path : String) (reason : Refusal)
  | preparing (sql : String) (fault : Fault)
  | executing (sql : String) (reason : Refusal)
  | configuration (e : ConfigurationError)
  | decoding (e : DecodeError)
  /-- A failure, and that of the rollback that followed it. -/
  | rollback (cause rollback : Failure)
deriving DecidableEq, Repr

namespace Failure

/-- The code that the engine reported; of a rollback that failed, that of its cause. -/
def code : Failure → Option Nat
  | .opening _ reason | .executing _ reason => reason.code
  | .preparing _ fault => fault.code
  | .rollback cause _ => cause.code
  | .binding _ | .configuration _ | .decoding _ => none

/-- The text that was prepared or executed; of a rollback that failed, that of its cause. -/
def sql : Failure → Option String
  | .preparing sql _ | .executing sql _ => some sql
  | .rollback cause _ => cause.sql
  | .binding _ | .opening _ _ | .configuration _ | .decoding _ => none

def message : Failure → String
  | .binding e => e.message
  | .opening path reason => "failed to open \x60" ++ path ++ "\x60: " ++ reason.message path
  | .preparing sql fault => "failed to prepare \x60" ++ sql ++ "\x60: " ++ fault.message sql
  | .executing sql reason => "failed to execute \x60" ++ sql ++ "\x60: " ++ reason.message sql
  | .configuration e => "configuration error: " ++ e.message
  | .decoding e => e.message
  | .rollback cause second => cause.message ++ "; rollback failed: " ++ second.message

end Failure

end TypedSql
