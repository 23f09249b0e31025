import TypedSql.Engine.Plan
import TypedSql.Engine.Store
import TypedSql.Sql.Statement

/-!
The engine. A text is prepared into a statement, and a statement is executed with values for its
parameters. What a statement names is decided again at each execution, because the tables may have
changed in between.

A statement that fails undoes itself. Where an insert says so, a row that conflicts ends it with
what it did before, or ends the transaction.

The engine is a part of SQLite. It has one connection to one database, so nothing is ever locked or
busy, and a commit fails only for a deferred reference. Of what a table can have, there are the key
that is its row id, unique columns, defaults and references to keys; there are no NOT NULL, CHECK or
generated columns, no uniqueness of several columns, no actions of references, no indexes, triggers
or views, and no changes to a table that exists. `AUTOINCREMENT` and declared types are read and mean
nothing, so no value is converted for its column. Queries are over one table or one query, without
joins, groups, windows over rows or unions, and aggregates are `count` and `max`. Settings are those
of `Sql.Pragma`, and there is no `EXPLAIN`, `ATTACH` or `VACUUM`.
-/

namespace TypedSql

structure Engine where
  store : Store := {}
  /-- Whether references are enforced. -/
  foreignKeys : Bool := true
  readOnly : Bool := false
  /-- The id of the row that was inserted last; it is not undone. -/
  lastRowid : Int64 := 0
  /-- The rows that the last change of rows changed, and those that all of them did. -/
  changes : Nat := 0
  totalChanges : Nat := 0
  /-- Registered functions and collations, the latest first. -/
  functions : List NamedFunction := []
  collations : List NamedCollation := []

structure EngineStatement where
  statement : Sql.Statement
  parameters : Sql.Parameters
  columns : List String

/-- What an execution gives: rows, and the error that comes after them. -/
structure Outcome where
  rows : List (List Datum) := []
  failure : Option EngineError := none

namespace Outcome

def failed (e : EngineError) : Outcome := { failure := some e }

/-- The rows, where all of them are asked for. -/
def all (o : Outcome) : Except EngineError (List (List Datum)) :=
  match o.failure with
  | some e => .error e
  | none => .ok o.rows

/-- The first few rows. The error is met only where more than there are are asked for. -/
def take (o : Outcome) (n : Nat) : Except EngineError (List (List Datum)) :=
  if n ≤ o.rows.length then .ok (o.rows.take n) else o.all

def first (o : Outcome) : Except EngineError (Option (List Datum)) := List.head? <$> o.take 1

end Outcome

namespace Engine

def isAutocommit (e : Engine) : Bool := e.store.isAutocommit

def plan (e : Engine) (s : Sql.Statement) : Except Fault Plan :=
  Planner.plan
    { names := { functions := e.functions, collations := e.collations }
      content := e.store.content
      foreignKeys := e.foreignKeys } s

/-- Whether references are enforced is set as soon as a statement that says so is prepared, and
stays as it is within a transaction. -/
def preparing (e : Engine) : Sql.Statement → Engine
  | .pragma .foreignKeys (some n) =>
      if e.isAutocommit then { e with foreignKeys := decide (0 < n) } else e
  | _ => e

def compile (e : Engine) (p : Sql.Parsed) : Except Fault (EngineStatement × Engine) := do
  let plan ← e.plan p.statement
  .ok (⟨p.statement, p.parameters, plan.columns⟩, e.preparing p.statement)

/-- Prepares the first statement of a text. -/
def prepare (e : Engine) (sql : String) : Except Fault (EngineStatement × Engine) := do
  e.compile (← Sql.parse (Sql.tokens sql))

/-- The engine after a change of rows that did nothing. -/
def unchanged (e : Engine) : Engine := { e with changes := 0 }

/-- The engine after a change of rows that stays. -/
def changed (e : Engine) (w : Writing) : Engine :=
  { e with
    store :=
      { e.store with
        content := w.content
        deferred := if e.isAutocommit then 0 else w.deferred }
    changes := w.changes
    totalChanges := e.totalChanges + w.changes }

/-- The engine after a change of rows that ends the transaction. -/
def ended (e : Engine) : Engine :=
  let store := match e.store.rollback with
    | .ok store => store
    | .error _ => e.store
  { e with store, changes := 0 }

/-- The error of references that have to be there when the statement ends. -/
def violated (e : Engine) (w : Writing) : Bool :=
  decide (0 < w.immediate) || (e.isAutocommit && decide (0 < w.deferred))

/-- Ends a change of rows. A deferred reference that is missing where no transaction is open is
found after the rows were given. -/
def settle (e : Engine) (conflict : Conflict) (result : Except EngineError Unit) (w : Writing) :
    Engine × Outcome :=
  match result, conflict with
  | .ok (), _ =>
      if 0 < w.immediate then (e.unchanged, .failed .foreignKeyViolation)
      else if e.violated w then
        (e.unchanged, ⟨w.returned.reverse, some .foreignKeyViolation⟩)
      else (e.changed w, ⟨w.returned.reverse, none⟩)
  | .error (.uniqueViolation table column primary), .fail =>
      if e.violated w then (e.unchanged, .failed .foreignKeyViolation)
      else (e.changed w, .failed (.uniqueViolation table column primary))
  | .error (.uniqueViolation table column primary), .rollback =>
      (e.ended, .failed (.uniqueViolation table column primary))
  | .error error, _ => (e.unchanged, .failed error)

def write (e : Engine) (conflict : Conflict) (work : Write Unit) : Engine × Outcome :=
  if e.readOnly then (e.unchanged, .failed .readOnly)
  else
    let (result, w) := work.run.run
      { content := e.store.content, deferred := e.store.deferred, lastRowid := e.lastRowid }
    settle { e with lastRowid := w.lastRowid } conflict result w

def replaceContent (e : Engine) (content : Content) : Engine × Outcome :=
  if e.readOnly then (e, .failed .readOnly)
  else ({ e with store := { e.store with content } }, {})

/-- A number of 32 bits, or 0 where it does not fit. -/
def versionOf (n : Int) : Int :=
  if Int32.minValue.toInt ≤ n ∧ n ≤ Int32.maxValue.toInt then n else 0

def perform (e : Engine) (parameters : List Datum) : Plan → Engine × Outcome
  | .select source q =>
      match source.answer e.store.content parameters q with
      | .ok rows => (e, { rows })
      | .error error => (e, .failed error)
  | .insert p => e.write p.conflict (p.perform e.foreignKeys parameters)
  | .update p => e.write .abort (p.perform e.foreignKeys parameters)
  | .delete p => e.write .abort (p.perform e.foreignKeys parameters)
  | .createTable t => e.replaceContent (e.store.content.addTable t)
  | .control c =>
      match e.store.control c with
      | .ok store => ({ e with store }, {})
      | .error error => (e, .failed error)
  | .pragma .userVersion (some n) =>
      e.replaceContent { e.store.content with userVersion := versionOf n }
  | .pragma .userVersion none =>
      (e, { rows := [[.integer (Int64.ofInt e.store.content.userVersion)]] })
  | .pragma .foreignKeys none => (e, { rows := [[.ofBool e.foreignKeys]] })
  | .pragma .foreignKeys (some _) => (e, {})
  | .nothing => (e, {})
  | .empty => (e, .failed .noStatement)

def execute (e : Engine) (s : EngineStatement) (parameters : List Datum) : Engine × Outcome :=
  match e.plan s.statement with
  | .ok plan => e.perform parameters plan
  | .error fault => (e, .failed fault.error)

/-- Registers a function; one of the same name and number of arguments gives way. -/
def registerFunction (e : Engine) (f : NamedFunction) : Engine :=
  { e with functions := f :: e.functions }

/-- Registers a collation; one of the same name gives way. -/
def registerCollation (e : Engine) (c : NamedCollation) : Engine :=
  { e with collations := c :: e.collations }

end Engine

end TypedSql
