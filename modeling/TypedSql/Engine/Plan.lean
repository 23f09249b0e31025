import TypedSql.Engine.Select
import TypedSql.Engine.Write

/-!
Plans: statements with their names decided over the tables that are there. A statement that names
something that is not there has no plan. Which fault is reported follows the order in which the
parts of a statement are looked at: its table first, then the expressions, then how they fit.
-/

namespace TypedSql

open Sql (Expr TableName ColumnDefinition Control Pragma)

/-- What a query takes its rows from. -/
inductive RowSource where
  /-- One row of no columns. -/
  | single
  | table (name : String)
  | query (source : RowSource) (plan : SelectPlan)

namespace RowSource

def answer (content : Content) (parameters : List Datum) (plan : SelectPlan) :
    RowSource → Except EngineError (List (List Datum))
  | .single => plan.answer parameters [[]]
  | .table name =>
      match content.table? name with
      | some t =>
          plan.answer parameters
            ((t.visited plan.used plan.condition plan.wantedColumn?).map (·.values))
      | none => .error (.noSuchTable name)
  | .query source inner => do
      plan.answer parameters (← answer content parameters inner source)

end RowSource

inductive Plan where
  | select (source : RowSource) (query : SelectPlan)
  | insert (p : InsertPlan)
  | update (p : UpdatePlan)
  | delete (p : DeletePlan)
  | createTable (t : Table)
  | control (c : Control)
  /-- A setting that is read, or set to a number. -/
  | pragma (p : Pragma) (value : Option Int)
  /-- A table that may be there is. -/
  | nothing
  /-- There is no statement. -/
  | empty

/-- What statements are planned over. -/
structure Planner where
  names : Names
  content : Content
  foreignKeys : Bool

namespace Planner

def table (p : Planner) (name : String) : Except Fault Table :=
  match p.content.table? name with
  | some t => .ok t
  | none => .error ⟨.noSuchTable name, none⟩

/-- The names in sight of a table that goes by a label. -/
def inside (p : Planner) (t : Table) (label : String) : Names :=
  { p.names with columns := (SourceColumns.ofTable t label).columns }

def tableSource (p : Planner) : Option TableName → Except Fault (RowSource × SourceColumns)
  | none => .ok (.single, .none)
  | some name => do
      let t ← p.table name.name
      .ok (.table t.name, .ofTable t name.label)

def source (p : Planner) : Option Sql.Source → Except Fault (RowSource × SourceColumns)
  | none => .ok (.single, .none)
  | some (.table name) => p.tableSource (some name)
  | some (.rows q) => do
      let (source, columns) ← p.tableSource q.source
      let plan ← SelectPlan.of p.names columns q
      .ok (.query source plan, .ofNames plan.names)

def select (p : Planner) (q : Sql.Select) : Except Fault Plan := do
  let (source, columns) ← p.source q.source
  .ok (.select source (← SelectPlan.of p.names columns q))

/-- The places of the columns that an insert names. -/
def places (t : Table) (label : String) (columns : List String) : Except Fault (List Nat) :=
  columns.mapM fun column =>
    match t.columnIndex? column with
    | some i => .ok i
    | none => .error ⟨.notInTable label column, none⟩

/-- Rows of values, all of one length. The fault of a later row comes before that of an earlier
one. -/
def valueRows (n : Names) : List (List Expr) → Except Fault (List (List Formula))
  | [] => .ok []
  | row :: rest => do
      let later ← valueRows n rest
      let values ← n.formulas row
      if later.head?.any (·.length ≠ values.length) then .error ⟨.unequalRows, none⟩
      else .ok (values :: later)

/-- What a column is given where a row has no value for it. -/
def defaultOf (c : ColumnDefinition) : Formula :=
  .constant (if c.primaryKey then .null else c.default)

/-- The formulas of all columns, from values for those at some places. -/
def complete (t : Table) (places : List Nat) (values : List Formula) : List Formula :=
  t.columns.zipIdx.map fun (c, i) =>
    match (places.idxOf? i).bind (values[·]?) with
    | some f => f
    | none => defaultOf c

/-- The rows of an insert; as many values as columns are wanted in each. -/
def insertRows (p : Planner) (t : Table) (i : Sql.Insert) : Except Fault (List (List Formula)) := do
  let places ← i.columns.mapM (places t i.table.label)
  match i.rows with
  | none => .ok [t.columns.map defaultOf]
  | some rows => do
      let rows ← valueRows p.names rows
      let count := (rows.head?.map (·.length)).getD 0
      match places with
      | some places =>
          if count = places.length then .ok (rows.map (complete t places))
          else .error ⟨.valueCount count places.length, none⟩
      | none =>
          if count = t.columns.length then .ok rows
          else .error ⟨.tableValueCount i.table.label t.columns.length count, none⟩

/-- Assignments to columns of a table, in which names are in sight. -/
def assignments (n : Names) (t : Table) (xs : List (String × Expr)) :
    Except Fault (List (Nat × Formula)) :=
  xs.mapM fun (column, x) => do
    let f ← n.formula x
    match t.columnIndex? column with
    | some i => .ok (i, f)
    | none => .error ⟨.noSuchColumn column, none⟩

/-- What is unique by the columns that an upsert names; nothing where it names none. -/
def targets (t : Table) (columns : List Formula) : Except Fault (List Write.Uniqueness) :=
  match columns with
  | [] => .ok []
  | [.column i] =>
      if t.keyIndex? = some i then .ok [.key]
      else if .column i ∈ Write.uniquenesses t then .ok [.column i]
      else .error ⟨.noConflictTarget, none⟩
  | _ => .error ⟨.noConflictTarget, none⟩

/-- An upsert. The new values go by the name `excluded`. -/
def upsert (p : Planner) (t : Table) (label : String) (u : Sql.Upsert) :
    Except Fault UpsertPlan := do
  let inside := p.inside t label
  let targets ← targets t (← inside.formulas u.targets)
  let new := columnNames "excluded" (t.columns.map (·.name)) t.columns.length true
  let update ← u.update.mapM (assignments { inside with columns := inside.columns ++ new } t)
  .ok ⟨targets, update⟩

/-- Fails where a row of a table refers to a table that is not there. -/
def requireReferred (p : Planner) (columns : List ColumnDefinition) : Except Fault Unit :=
  if p.foreignKeys then
    columns.forM fun c =>
      match c.reference with
      | some r =>
          if (p.content.table? r.table).isSome then .ok ()
          else .error ⟨.noSuchTable ("main." ++ r.table), none⟩
      | none => .ok ()
  else .ok ()

/-- Whether an insert gives the key of the table a value. -/
def givesKey (t : Table) (i : Sql.Insert) : Bool :=
  i.rows.isSome && t.keyIndex?.any fun key =>
    match i.columns with
    | some names => names.any fun name => t.columnIndex? name == some key
    | none => true

def insert (p : Planner) (i : Sql.Insert) : Except Fault Plan := do
  let t ← p.table i.table.name
  let rows ← p.insertRows t i
  let upsert ← i.upsert.mapM (p.upsert t i.table.label)
  p.requireReferred t.columns
  let returning ←
    SelectPlan.items (p.inside t i.table.label) (.ofTable t i.table.label) i.returning
  .ok <| .insert
    { table := t.name, conflict := i.conflict, givesKey := givesKey t i, rows, upsert, returning }

def update (p : Planner) (u : Sql.Update) : Except Fault Plan := do
  let t ← p.table u.table.name
  let inside := p.inside t u.table.label
  let assignments ← assignments inside t u.assignments
  let condition ← inside.formula? u.condition
  p.requireReferred (assignments.filterMap fun (i, _) => t.columns[i]?)
  .ok (.update { table := t.name, assignments, condition })

def delete (p : Planner) (d : Sql.Delete) : Except Fault Plan := do
  let t ← p.table d.table.name
  let condition ← (p.inside t d.table.label).formula? d.condition
  p.requireReferred t.columns
  .ok (.delete { table := t.name, condition })

def createTable (p : Planner) (d : Sql.TableDefinition) : Except Fault Plan :=
  match p.content.table? d.name with
  | some _ =>
      if d.ifNotExists then (fun _ => .nothing) <$> d.columns
      else .error ⟨.tableExists d.nameText, some d.nameOffset⟩
  | none => (fun columns => .createTable { name := d.name, columns }) <$> d.columns

def plan (p : Planner) : Sql.Statement → Except Fault Plan
  | .select q => p.select q
  | .insert i => p.insert i
  | .update u => p.update u
  | .delete d => p.delete d
  | .createTable d => p.createTable d
  | .control c => .ok (.control c)
  | .pragma setting value => .ok (.pragma setting value)
  | .empty => .ok .empty

end Planner

def Sql.Pragma.name : Pragma → String
  | .userVersion => "user_version"
  | .foreignKeys => "foreign_keys"

namespace Plan

/-- The names of the result columns. -/
def columns : Plan → List String
  | .select _ q => q.names
  | .insert p => p.returning.map (·.1)
  | .pragma p none => [p.name]
  | _ => []

end Plan

end TypedSql
