import TypedSql.Engine.Table
import TypedSql.Engine.Error

/-!
Transactions and savepoints. Both keep the content that going back restores. Savepoints are named,
and of several with one name the innermost is meant; a savepoint outside any transaction opens one,
which is committed when that savepoint is released. A step that is refused changes nothing.
-/

namespace TypedSql

/-- A savepoint and what going back to it restores. -/
structure Savepoint where
  name : String
  content : Content
  /-- The violations of deferred references at the time. -/
  deferred : Int
deriving DecidableEq, Repr

structure Transaction where
  /-- The content before it. -/
  start : Content
  /-- The savepoints in it, the innermost first. -/
  savepoints : List Savepoint := []
  /-- Whether its outermost savepoint opened it. -/
  bySavepoint : Bool := false
deriving DecidableEq, Repr

namespace Transaction

/-- The savepoint that a name means and those around it. -/
def savepointsFrom (t : Transaction) (name : String) : List Savepoint :=
  t.savepoints.dropWhile fun p => !sameName p.name name

end Transaction

structure Store where
  content : Content := {}
  transaction : Option Transaction := none
  /-- Violations of deferred references. -/
  deferred : Int := 0
deriving DecidableEq, Repr

namespace Store

/-- Whether no transaction is open. -/
def isAutocommit (s : Store) : Bool := s.transaction.isNone

/-- The savepoints, the innermost first. -/
def savepoints (s : Store) : List Savepoint :=
  match s.transaction with
  | some t => t.savepoints
  | none => []

/-- The content and no transaction. -/
def settled (content : Content) : Store := { content }

def begin (s : Store) : Except EngineError Store :=
  match s.transaction with
  | some _ => .error .nestedTransaction
  | none => .ok { s with transaction := some { start := s.content } }

/-- Ends the transaction; its content stays, unless a deferred reference is violated. -/
def commit (s : Store) : Except EngineError Store :=
  match s.transaction with
  | none => .error .nothingToCommit
  | some _ => if 0 < s.deferred then .error .foreignKeyViolation else .ok (settled s.content)

/-- Ends the transaction and goes back to the content before it. -/
def rollback (s : Store) : Except EngineError Store :=
  match s.transaction with
  | none => .error .nothingToRollBack
  | some t => .ok (settled t.start)

/-- Sets a savepoint in the transaction, or in a new one. -/
def savepoint (s : Store) (name : String) : Store :=
  let t := s.transaction.getD { start := s.content, bySavepoint := true }
  { s with
    transaction := some { t with savepoints := ⟨name, s.content, s.deferred⟩ :: t.savepoints } }

/-- Drops a savepoint and those inside it. The outermost one of a transaction that it opened ends
the transaction. -/
def release (s : Store) (name : String) : Except EngineError Store :=
  match s.transaction with
  | none => .error (.noSuchSavepoint name)
  | some t =>
      match t.savepointsFrom name with
      | [] => .error (.noSuchSavepoint name)
      | [_] =>
          if t.bySavepoint then s.commit
          else .ok { s with transaction := some { t with savepoints := [] } }
      | _ :: outer => .ok { s with transaction := some { t with savepoints := outer } }

/-- Goes back to the content at a savepoint, which stays; those inside it are dropped. -/
def rollbackTo (s : Store) (name : String) : Except EngineError Store :=
  match s.transaction with
  | none => .error (.noSuchSavepoint name)
  | some t =>
      match t.savepointsFrom name with
      | [] => .error (.noSuchSavepoint name)
      | point :: outer =>
          .ok
            { content := point.content
              transaction := some { t with savepoints := point :: outer }
              deferred := point.deferred }

def control (s : Store) : Sql.Control → Except EngineError Store
  | .begin _ => s.begin
  | .commit => s.commit
  | .rollback => s.rollback
  | .savepoint name => .ok (s.savepoint name)
  | .release name => s.release name
  | .rollbackTo name => s.rollbackTo name

end Store

end TypedSql
