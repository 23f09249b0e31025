import TypedSql.Connection.Bracket
import TypedSql.Connection.Registration

/-!
Scripts: steps that are taken on a connection one after another, some of them with a body of steps
in a transaction or a savepoint. A step is reported with its result, the texts that were traced
during it and the counters after it.
-/

namespace TypedSql

inductive StatementCall where
  | bind (given : Bindings)
  | run (given : Bindings)
  | scalar (type : ValueType) (given : Bindings)
  | rows (given : Bindings) (limit : Option Nat)
  | expanded
deriving DecidableEq, Repr

inductive Step where
  | run (sql : String) (given : Bindings)
  | batch (sql : String)
  | scalar (type : ValueType) (sql : String) (given : Bindings)
  | query (sql : String) (given : Bindings)
  /-- A fragment that is executed with its values inlined. -/
  | inlined (x : Fragment)
  | statement (sql : String) (given : Bindings) (calls : List StatementCall)
  | userVersion
  | setUserVersion (n : Int32)
  | foreignKeys
  | setForeignKeys (b : Bool)
  | function (name : String) (arguments : Int) (f : List Cell → Cell)
  | collation (name : String) (compareText : String → String → Ordering)
  | tracing (b : Bool)
  | fail (reason : String)
  | transaction (mode : Sql.TransactionMode) (body : List Step)
  | savepoint (name : Option String) (body : List Step)
  /-- A step whose failure does not end the body that it is in. -/
  | attempt (s : Step)

inductive StatementResult where
  | done
  | value (v : Option Value)
  | rows (columns : List String) (rows : List ResultRow)
  | text (s : String)
deriving DecidableEq, Repr

/-- A call on a prepared statement: its result, the text with its values afterwards, and the texts
that were traced. -/
structure StatementReport where
  result : Except Failure StatementResult
  expanded : String
  traced : List String

inductive StepResult where
  | done
  | value (v : Option Value)
  | rows (rows : List ResultRow)
  | statement (s : Prepared) (calls : List StatementReport)

/-- What was traced at the end of a step, and the counters after it. -/
structure Afterwards where
  traced : List String
  status : Status
deriving DecidableEq, Repr

/-- A step that was taken. -/
inductive Report where
  | simple (result : Except Failure StepResult) (after : Afterwards)
  /-- A body in a bracket: the texts traced before it and the steps of it that were taken. -/
  | bracket (before : List String) (body : List Report) (failure : Option Failure)
      (after : Afterwards)

def Report.failure? : Report → Option Failure
  | .simple (.error failure) _ => some failure
  | .simple (.ok _) _ => none
  | .bracket _ _ failure _ => failure

end TypedSql
