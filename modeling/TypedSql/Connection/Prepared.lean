import TypedSql.Connection.Basic
import TypedSql.Connection.ResultRow

namespace TypedSql

structure Prepared where
  sql : String
  statement : EngineStatement
  /-- The values of the parameters in the engine, by number. -/
  slots : List Datum
  /-- The values that were bound last. -/
  bound : Bindings := .none
  isBound : Bool := false

namespace Prepared

def ofStatement (sql : String) (s : EngineStatement) : Prepared :=
  { sql, statement := s, slots := List.replicate s.parameters.count .null }

def parameterCount (s : Prepared) : Nat := s.statement.parameters.count

def columns (s : Prepared) : List String := s.statement.columns

/-- The text with the bound values in it; as it is, where they do not fit it. -/
def expanded (s : Prepared) : String :=
  match s.bound.inline s.sql with
  | .ok text => text
  | .error _ => s.sql

/-- Fails unless as many values are given as there are parameters. -/
def checkCount (s : Prepared) (found : Nat) : Except Failure Unit :=
  if found = s.parameterCount then .ok ()
  else .error (.binding (.countMismatch s.parameterCount found))

def parameterNumber (s : Prepared) (name : String) : Except Failure Nat :=
  match Connection.nulPosition? name with
  | some position => .error (.executing s.sql (.nul position))
  | none =>
      match s.statement.parameters.number? name with
      | some number => .ok number
      | none => .error (.binding (.unknownName name))

/-- The numbers of the parameters of names, which are all different; `seen` are those before. -/
def parameterNumbers (s : Prepared) (seen : List String) : List String → Except Failure (List Nat)
  | [] => .ok []
  | name :: rest =>
      if name ∈ seen then .error (.binding (.duplicateName name))
      else do
        let number ← s.parameterNumber name
        .ok (number :: (← s.parameterNumbers (name :: seen) rest))

/-- The slots with values bound to all parameters. -/
def filled (s : Prepared) : Bindings → Except Failure (List Datum)
  | .positional cells => do
      s.checkCount cells.length
      .ok (cells.map Datum.ofCell)
  | .named pairs => do
      let numbers ← s.parameterNumbers [] (pairs.map (·.1))
      s.checkCount pairs.length
      .ok ((numbers.zip pairs).foldl
        (fun slots (number, _, cell) => slots.set (number - 1) (.ofCell cell)) s.slots)

def bind (s : Prepared) (given : Bindings) : Except Failure Prepared := do
  .ok { s with slots := ← s.filled given, bound := given, isBound := true }

/-- Makes a statement ready to be executed: values that are given are bound, and without any the
statement needs to have been bound before, or to have no parameters. -/
def ready (s : Prepared) (given : Bindings) : Except Failure Prepared :=
  if !given.isEmpty then s.bind given
  else if !s.isBound && 0 < s.parameterCount then
    .error (.binding (.countMismatch s.parameterCount 0))
  else .ok s

def announce (s : Prepared) : Act Unit := modify (·.trace s.expanded)

def execute (s : Prepared) : StateM Connection Outcome := fun c =>
  let (engine, outcome) := c.engine.execute s.statement s.slots
  (outcome, { c with engine })

/-- What the engine gives, or its failure. -/
def orRefused {α : Type} (s : Prepared) : Except EngineError α → Act α
  | .ok a => pure a
  | .error e => throw (.executing s.sql (.ofError e))

def resultRow (s : Prepared) (values : List Datum) : ResultRow :=
  ⟨s.columns, values.map Datum.cell⟩

/-- Executes a statement that is ready and passes over its rows. -/
def run (s : Prepared) : Act Unit := do
  s.announce
  let before := (← get).engine.lastRowid
  let outcome ← s.execute
  let _ ← s.orRefused outcome.all
  modify (·.noteInsert s.sql before)

/-- Executes a statement that is ready and reads the first cell of the first row. -/
def scalar (s : Prepared) (type : ValueType) : Act (Option Value) := do
  s.announce
  let before := (← get).engine.lastRowid
  let outcome ← s.execute
  let row ← s.orRefused outcome.first
  modify (·.noteInsert s.sql before)
  match type.readCell true ((row.bind List.head?).bind Datum.cell) with
  | .ok v => pure v
  | .error e => throw (.decoding e)

/-- Executes a statement that is ready and gives its rows, at most as many as asked for. Nothing
is executed before the first row is asked for. -/
def rows (s : Prepared) (limit : Option Nat) : Act (List ResultRow) := do
  s.announce
  if limit = some 0 then pure []
  else
    let outcome ← s.execute
    let rows ← s.orRefused (match limit with
      | some n => outcome.take n
      | none => outcome.all)
    pure (rows.map s.resultRow)

end Prepared

end TypedSql
