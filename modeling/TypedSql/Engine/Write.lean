import TypedSql.Engine.Resolve

/-!
Changes of rows. A statement writes row by row to a copy of the content; what becomes of the copy
when it fails is decided by who runs it. A row that refers to another, or is referred to, is counted
as a violation as long as the other is missing. Violations of references that are not deferred must
be gone when the statement ends, the others when the transaction does. A row that is referred to can
go only if something else makes up for it: no reference has an action that would delete or change the
rows that refer to it.
-/

namespace TypedSql

open Sql (ColumnDefinition)

/-- What a statement has done so far. -/
structure Writing where
  content : Content
  /-- Violations of deferred references in the transaction. -/
  deferred : Int
  /-- Violations of the other references in the statement. -/
  immediate : Int := 0
  lastRowid : Int64
  changes : Nat := 0
  /-- The results, the last first. -/
  returned : List (List Datum) := []

/-- A step of writing. What was done before it fails is kept. -/
abbrev Write (α : Type) := ExceptT EngineError (StateM Writing) α

namespace Write

def table (name : String) : Write Table := do
  match (← get).content.table? name with
  | some t => pure t
  | none => throw (.noSuchTable name)

def setTable (t : Table) : Write Unit :=
  modify fun w => { w with content := w.content.setTable t }

def violations (deferred : Bool) : Write Int := do
  let w ← get
  pure (if deferred then w.deferred else w.immediate)

def addViolations (deferred : Bool) (n : Int) : Write Unit :=
  modify fun w =>
    if deferred then { w with deferred := w.deferred + n } else { w with immediate := w.immediate + n }

/-- Whether the row that a value refers to is there. -/
def isThere (content : Content) (table : String) (value : Datum) : Bool :=
  match content.table? table, value with
  | some t, .integer n => (t.row? n).isSome
  | _, _ => false

/-- The columns of a row that refer to a row that is not there, and whether each is deferred. -/
def missing (content : Content) (t : Table) (values : List Datum) : List Bool :=
  (t.columns.zip values).filterMap fun (column, value) =>
    match column.reference with
    | some r =>
        if value.isNull || isThere content r.table value then none else some r.deferred
    | none => none

/-- Counts the references of a new row that are missing. Where `atOnce`, a reference that is not
deferred fails here. -/
def enterReferring (t : Table) (values : List Datum) (atOnce : Bool) : Write Unit := do
  for deferred in missing (← get).content t values do
    if atOnce && !deferred then throw .foreignKeyViolation
    addViolations deferred 1

/-- No longer counts the references of a row that goes, as far as violations are counted. -/
def leaveReferring (t : Table) (values : List Datum) : Write Unit := do
  for deferred in missing (← get).content t values do
    if (← violations deferred) ≠ 0 then addViolations deferred (-1)

/-- The numbers of references to a row of a table, and whether they are deferred. -/
def referring (content : Content) (table : String) (id : Int64) : List (Bool × Nat) :=
  (content.referrers table).map fun (t, column, deferred) =>
    (deferred, t.countValue column (.integer id))

/-- Counts the references to a row that goes. -/
def leaveReferred (t : Table) (id : Int64) : Write Unit := do
  for (deferred, n) in referring (← get).content t.name id do
    addViolations deferred n

/-- No longer counts the references to a new row, as far as violations are counted. -/
def enterReferred (t : Table) (id : Int64) : Write Unit := do
  for (deferred, n) in referring (← get).content t.name id do
    if (← violations deferred) ≠ 0 then addViolations deferred (-n)

def deleteRow (foreignKeys : Bool) (table : String) (row : Row) : Write Unit := do
  let t ← Write.table table
  if foreignKeys then
    leaveReferring t row.values
    leaveReferred t row.id
  setTable (t.erase row.id)

/-- What no two rows of a table may have in common: their id, or the value of a column. -/
inductive Uniqueness where
  | key
  | column (index : Nat)
deriving DecidableEq, Repr

/-- What is unique in a table, its key first. -/
def uniquenesses (t : Table) : List Uniqueness :=
  .key :: (t.columns.zipIdx.filterMap fun (column, i) =>
    if column.unique && !column.primaryKey then some (.column i) else none)

/-- The row that has the same id or value as a new one. -/
def conflicting? (t : Table) (id : Int64) (values : List Datum) (self : Option Int64) :
    Uniqueness → Option Row
  | .key => if self == some id then none else t.row? id
  | .column i => t.withValue? i (values[i]?.getD .null) self

def violation (t : Table) : Uniqueness → EngineError
  | .key =>
      .uniqueViolation t.name
        (((t.keyIndex?.bind fun i => t.columns[i]?).map (·.name)).getD "rowid") true
  | .column i => .uniqueViolation t.name ((t.columns[i]?.map (·.name)).getD "") false

/-- The id that the value of the key asks for. -/
def idOf (t : Table) (values : List Datum) (absent : Int64) : Write Int64 :=
  match t.keyIndex? with
  | none => pure absent
  | some key =>
      match values[key]?.getD .null with
      | .integer n => pure n
      | _ => throw .typeMismatch

def withKey (t : Table) (id : Int64) (values : List Datum) : List Datum :=
  match t.keyIndex? with
  | some key => values.set key (.integer id)
  | none => values

/-- Puts new values in the place of a row's, where `assigned` are the columns that are given one. -/
def updateRow (foreignKeys : Bool) (table : String) (row : Row) (values : List Datum)
    (assigned : List Nat) : Write Row := do
  let t ← Write.table table
  let id ← idOf t values row.id
  for u in uniquenesses t do
    if (conflicting? t id values (some row.id) u).isSome then throw (violation t u)
  let refers := foreignKeys && t.columns.zipIdx.any fun (c, i) => c.reference.isSome && i ∈ assigned
  let referred := foreignKeys && t.columns.zipIdx.any fun (c, i) => c.primaryKey && i ∈ assigned
  if refers then leaveReferring t row.values
  if referred then leaveReferred t row.id
  setTable (t.erase row.id)
  if refers then enterReferring t values false
  if referred then enterReferred t id
  let new : Row := ⟨id, values⟩
  setTable ((t.erase row.id).erase id |>.insert new)
  pure new

end Write

/-- An insertion that gives way to an update, or to nothing, where the row that is there has the same
value in one of some columns; of all unique columns where none is named. -/
structure UpsertPlan where
  targets : List Write.Uniqueness
  /-- The columns that are set, over the values of the row that is there and the new ones. -/
  update : Option (List (Nat × Formula))

namespace UpsertPlan

def covers (u : UpsertPlan) (c : Write.Uniqueness) : Bool := u.targets.isEmpty || c ∈ u.targets

end UpsertPlan

structure InsertPlan where
  table : String
  conflict : Conflict
  /-- Whether the key of the table is among the columns that are given values. -/
  givesKey : Bool
  /-- A formula for every column of every row. -/
  rows : List (List Formula)
  upsert : Option UpsertPlan
  returning : List (String × Formula)

namespace InsertPlan

/-- Whether rows may have to be deleted for the new ones. -/
def mayReplace (p : InsertPlan) (t : Table) : Bool :=
  p.conflict == .replace &&
    (p.givesKey || t.columns.any fun c => c.unique && !c.primaryKey)

/-- Whether a missing reference fails at once: where one row is inserted and nothing else is done. -/
def failsAtOnce (p : InsertPlan) (t : Table) : Bool :=
  p.rows.length == 1 && p.returning.isEmpty && !p.mayReplace t

/-- The values of a row after assignments over a scope. -/
def assigned (values : List Datum) (s : Scope) (assignments : List (Nat × Formula)) : List Datum :=
  assignments.foldl (fun vs (i, f) => vs.set i (f.eval s)) values

/-- Sees to the rows that conflict with a new one. Gives the row that was updated instead, and
whether the new one is still to be inserted. -/
def clear (p : InsertPlan) (foreignKeys : Bool) (parameters : List Datum) (id : Int64)
    (values : List Datum) : List Write.Uniqueness → Write (Option Row × Bool)
  | [] => pure (none, true)
  | u :: rest => do
      let t ← Write.table p.table
      match Write.conflicting? t id values none u with
      | none => clear p foreignKeys parameters id values rest
      | some row =>
          match p.upsert.filter (·.covers u) with
          | some { update := none, .. } => pure (none, false)
          | some { update := some assignments, .. } =>
              let s : Scope := { parameters, row := row.values ++ values }
              let row ← Write.updateRow foreignKeys p.table row
                (assigned row.values s assignments) (assignments.map (·.1))
              pure (some row, false)
          | none =>
              match p.conflict with
              | .ignore => pure (none, false)
              | .replace =>
                  Write.deleteRow foreignKeys p.table row
                  clear p foreignKeys parameters id values rest
              | _ => throw (Write.violation t u)

/-- What is unique in a table in the order in which it is looked at: what an upsert is about comes
first. -/
def order (p : InsertPlan) (t : Table) : List Write.Uniqueness :=
  let (first, rest) := (Write.uniquenesses t).partition fun u =>
    (p.upsert.map (·.covers u)).getD false
  first ++ rest

/-- Counts a row that was written, and gives its results. -/
def written (p : InsertPlan) (parameters : List Datum) (row : Row) : Write Unit :=
  modify fun w =>
    { w with
      changes := w.changes + 1
      returned :=
        if p.returning.isEmpty then w.returned
        else Formula.evalAll { parameters, row := row.values } (p.returning.map (·.2)) :: w.returned }

def insertRow (p : InsertPlan) (foreignKeys : Bool) (parameters : List Datum)
    (formulas : List Formula) : Write Unit := do
  let t ← Write.table p.table
  let given := Formula.evalAll { parameters } formulas
  let key := (t.keyIndex?.bind (given[·]?)).getD .null
  let id ← if key.isNull then pure t.nextId else Write.idOf t given t.nextId
  let values := Write.withKey t id given
  match ← p.clear foreignKeys parameters id values (p.order t) with
  | (some row, _) => p.written parameters row
  | (none, false) => pure ()
  | (none, true) =>
      let t ← Write.table p.table
      if foreignKeys then
        Write.enterReferring t values (p.failsAtOnce t)
        Write.enterReferred t id
      Write.setTable (t.insert ⟨id, values⟩)
      modify fun w => { w with lastRowid := id }
      p.written parameters ⟨id, values⟩

def perform (p : InsertPlan) (foreignKeys : Bool) (parameters : List Datum) : Write Unit :=
  p.rows.forM (p.insertRow foreignKeys parameters)

end InsertPlan

structure UpdatePlan where
  table : String
  assignments : List (Nat × Formula)
  condition : Option Formula

def Table.matching (t : Table) (parameters : List Datum) (condition : Option Formula) : List Row :=
  t.rows.filter fun row => Formula.holds { parameters, row := row.values } condition

namespace UpdatePlan

/-- Updates a row, unless it is gone. -/
def updateRow (p : UpdatePlan) (foreignKeys : Bool) (parameters : List Datum) (id : Int64) :
    Write Unit := do
  match (← Write.table p.table).row? id with
  | none => pure ()
  | some row =>
      let values := InsertPlan.assigned row.values { parameters, row := row.values } p.assignments
      let _ ← Write.updateRow foreignKeys p.table row values (p.assignments.map (·.1))
      modify fun w => { w with changes := w.changes + 1 }

def perform (p : UpdatePlan) (foreignKeys : Bool) (parameters : List Datum) : Write Unit := do
  let t ← Write.table p.table
  (t.matching parameters p.condition).forM fun row => p.updateRow foreignKeys parameters row.id

end UpdatePlan

structure DeletePlan where
  table : String
  condition : Option Formula

namespace DeletePlan

def deleteRow (p : DeletePlan) (foreignKeys : Bool) (row : Row) : Write Unit := do
  Write.deleteRow foreignKeys p.table row
  modify fun w => { w with changes := w.changes + 1 }

def perform (p : DeletePlan) (foreignKeys : Bool) (parameters : List Datum) : Write Unit := do
  let t ← Write.table p.table
  (t.matching parameters p.condition).forM (p.deleteRow foreignKeys)

end DeletePlan

end TypedSql
