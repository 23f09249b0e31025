import TypedSql.Connection.Call

/-!
Transactions and savepoints around a body. A bracket is the statement before the body, the one after
it and the one that undoes it. Where the body fails, or the statement after it, the work is undone
and that failure is given.
-/

namespace TypedSql

def Sql.TransactionMode.keyword : Sql.TransactionMode → String
  | .deferred => "DEFERRED"
  | .immediate => "IMMEDIATE"
  | .exclusive => "EXCLUSIVE"

/-- The statements around a body. -/
structure Bracket where
  enter : String
  leave : String
  undo : String
deriving DecidableEq, Repr

namespace Bracket

def transaction (mode : Sql.TransactionMode) : Bracket :=
  { enter := "BEGIN " ++ mode.keyword ++ " TRANSACTION"
    leave := "COMMIT TRANSACTION"
    undo := "ROLLBACK TRANSACTION" }

def savepoint (name : String) : Bracket :=
  { enter := "SAVEPOINT " ++ quoteLiteral name
    leave := "RELEASE SAVEPOINT " ++ quoteLiteral name
    undo := "ROLLBACK TO SAVEPOINT " ++ quoteLiteral name }

/-- Undoes the work after a failure. What is given is that failure, with the failure of the undoing
if this fails too. -/
def rollBack (b : Bracket) (cause : Failure) : StateM Connection Failure := do
  match ← (Connection.run b.undo .none).attempt with
  | .ok () => pure cause
  | .error second => pure (.rollback cause second)

/-- Leaves a bracket after a body that gave a result. -/
def close {α : Type} (b : Bracket) : Except Failure α → StateM Connection (Except Failure α)
  | .error cause => .error <$> b.rollBack cause
  | .ok a => do
      match ← (Connection.run b.leave .none).attempt with
      | .ok () => pure (.ok a)
      | .error cause => .error <$> b.rollBack cause

/-- Runs a body in a bracket. The body gives an account of itself, which is there even if it
fails; there is none if it was never run. -/
def around {α β : Type} (b : Bracket) (body : StateM Connection (β × Except Failure α)) :
    StateM Connection (Option β × Except Failure α) := do
  match ← (Connection.run b.enter .none).attempt with
  | .error failure => pure (none, .error failure)
  | .ok () =>
      let (account, result) ← body
      pure (some account, ← b.close result)

end Bracket

namespace Connection

def within {α : Type} (b : Bracket) (body : Act α) : Act α :=
  ExceptT.mk do
    let (_, result) ← b.around ((fun result => ((), result)) <$> body.attempt)
    pure result

def transaction {α : Type} (mode : Sql.TransactionMode) (body : Act α) : Act α :=
  within (.transaction mode) body

/-- The bracket of a savepoint. Without a name it is given the next number, none of which is ever
given twice. -/
def savepointBracket (name : Option String) : StateM Connection Bracket :=
  match name with
  | some name => pure (.savepoint name)
  | none =>
      modifyGet fun c =>
        (.savepoint (toString (c.savepoints + 1)), { c with savepoints := c.savepoints + 1 })

def savepoint {α : Type} (name : Option String) (body : Act α) : Act α := do
  within (← savepointBracket name) body

end Connection

end TypedSql
