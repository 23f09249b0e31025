import TypedSql.Connection.Prepared
import TypedSql.Fragment

namespace TypedSql

def Fragment.bindings (x : Fragment) : Bindings := .positional x.cells

def Fragment.selected (x : Fragment) : Fragment := .raw "SELECT " ++ x

namespace Connection

def prepareText (sql : String) : Act Prepared := fun c =>
  match c.engine.prepare sql with
  | .ok (s, engine) => (.ok (.ofStatement sql s), { c with engine })
  | .error fault => (.error (.preparing sql fault), c)

def prepare (sql : String) (given : Bindings) : Act Prepared := do
  let s ← prepareText sql
  if given.isEmpty then pure s else Act.ofExcept (s.bind given)

/-- Prepares a text and binds values to all its parameters. -/
def prepareBound (sql : String) (given : Bindings) : Act Prepared := do
  let s ← prepareText sql
  Act.ofExcept do
    let s ← s.bind given
    s.ready .none

def run (sql : String) (given : Bindings) : Act Unit := do
  (← prepareBound sql given).run

def scalar (type : ValueType) (sql : String) (given : Bindings) : Act (Option Value) := do
  (← prepareBound sql given).scalar type

def query (sql : String) (given : Bindings) : Act (List ResultRow) := do
  let before := (← get).engine.lastRowid
  let rows ← (← prepareBound sql given).rows none
  modify (·.noteInsert sql before)
  pure rows

/-- Executes a fragment with its values inlined, for texts that take no parameters. -/
def runInlined (x : Fragment) : Act Unit := do
  match x.compile with
  | .ok sql => run sql .none
  | .error e => throw (.binding e)

/-- Executes statements one after another, up to the first that fails. The engine takes the first
step of each, so what fails only after a row is not noticed. -/
def runStatements (sql : String) : List (Except Fault Sql.Parsed) → Act Unit
  | [] => pure ()
  | .error fault :: _ => throw (.executing sql (.fault fault))
  | .ok parsed :: rest => do
      match (← get).engine.compile parsed with
      | .error fault => throw (.executing sql (.fault fault))
      | .ok (s, engine) =>
          let (engine, outcome) := engine.execute s []
          modify fun c => { c with engine }
          match outcome.first with
          | .error e => throw (.executing sql (.ofError e))
          | .ok _ => runStatements sql rest

/-- Executes all statements of a text, which have no values bound. -/
def batch (sql : String) : Act Unit := do
  modify (·.trace sql)
  let before := (← get).engine.lastRowid
  runStatements sql (Sql.statements (Sql.tokens sql))
  modify fun c => if c.engine.lastRowid ≠ before then { c with inserted := true } else c

/-- Sets a setting of the database to a number, which cannot be a parameter. -/
def setPragma (p : Sql.Pragma) (n : Int64) : Act Unit :=
  runInlined ⟨"PRAGMA " ++ p.name ++ " = ?", [some (.integer n)]⟩

/-- The number that the owner of a database keeps in it. -/
def userVersion : Act (Option Value) := do
  let v ← scalar .integer32 ("PRAGMA " ++ Sql.Pragma.userVersion.name) .none
  pure (some (v.getD (.integer32 0)))

def setUserVersion (n : Int32) : Act Unit := setPragma .userVersion n.toInt64

def foreignKeys : Act (Option Value) := do
  let v ← scalar .boolean ("PRAGMA " ++ Sql.Pragma.foreignKeys.name) .none
  pure (some (v.getD (.boolean false)))

/-- Has references enforced or not; within a transaction nothing changes. -/
def setForeignKeys (b : Bool) : Act Unit := setPragma .foreignKeys (if b then 1 else 0)

end Connection

end TypedSql
