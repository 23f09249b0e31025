import TypedSql.Engine.Collation
import TypedSql.Sql.Syntax

/-!
Stored tables. A table keeps its rows in the order of their ids; where a column is the key of the
table, the id is that column's value. `Content` is all that a transaction can undo.
-/

namespace TypedSql

open Sql (ColumnDefinition)

/-- A stored row: its id and the values of the columns. -/
structure Row where
  id : Int64
  values : List Datum
deriving DecidableEq, Repr

structure Table where
  name : String
  columns : List ColumnDefinition
  rows : List Row := []
deriving DecidableEq, Repr

namespace Table

def columnIndex? (t : Table) (name : String) : Option Nat :=
  t.columns.findIdx? fun c => sameName c.name name

def keyIndex? (t : Table) : Option Nat := t.columns.findIdx? (·.primaryKey)

def row? (t : Table) (id : Int64) : Option Row := t.rows.find? (·.id == id)

/-- The id after the largest, or 1 in an empty table. Past the largest number there is, the
smallest one that is free. -/
def nextId (t : Table) : Int64 :=
  match t.rows.getLast? with
  | none => 1
  | some last =>
      if last.id < Int64.maxValue then last.id + 1
      else
        let free := (List.range (t.rows.length + 1)).find? fun n =>
          (t.row? (Int64.ofNat (n + 1))).isNone
        Int64.ofNat (free.getD 0 + 1)

def erase (t : Table) (id : Int64) : Table := { t with rows := t.rows.filter (·.id != id) }

/-- A row at its place among others. -/
def insertRow (row : Row) : List Row → List Row
  | [] => [row]
  | r :: rest => if row.id < r.id then row :: r :: rest else r :: insertRow row rest

def insert (t : Table) (row : Row) : Table := { t with rows := insertRow row t.rows }

/-- The first row other than `self` with a value in a column; `NULL` is no value. -/
def withValue? (t : Table) (column : Nat) (value : Datum) (self : Option Int64) : Option Row :=
  if value.isNull then none
  else
    t.rows.find? fun row =>
      some row.id != self &&
        (row.values[column]?.getD .null).order .binary value == .eq

def countValue (t : Table) (column : Nat) (value : Datum) : Nat :=
  (t.rows.filter fun row => (row.values[column]?.getD .null).order .binary value == .eq).length

end Table

/-- The tables of a database and the number its owner keeps in it. -/
structure Content where
  tables : List Table := []
  userVersion : Int := 0
deriving DecidableEq, Repr

namespace Content

def table? (c : Content) (name : String) : Option Table := c.tables.find? (sameName ·.name name)

/-- The content with a table in the place of the one of its name. -/
def setTable (c : Content) (t : Table) : Content :=
  { c with tables := c.tables.map fun u => if sameName u.name t.name then t else u }

def addTable (c : Content) (t : Table) : Content := { c with tables := c.tables ++ [t] }

/-- The columns that refer to a table: each with its table, its place and whether the reference is
deferred. -/
def referrers (c : Content) (name : String) : List (Table × Nat × Bool) :=
  c.tables.flatMap fun t =>
    t.columns.zipIdx.filterMap fun (column, i) =>
      match column.reference with
      | some r => if sameName r.table name then some (t, i, r.deferred) else none
      | none => none

end Content

end TypedSql
