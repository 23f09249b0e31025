import TypedSql.Engine.Formula

/-!
The order in which a query visits the rows of a table. It shows where a query does not say which
order it wants, and among rows that its order holds equal.

Rows are visited by id, unless the table has a unique column and the query is better served by
going along that column: when its order is that column's, when a condition bounds the column and
not the id, or when it looks at no column but that one and the key.
-/

namespace TypedSql

/-- How a condition bounds a column: to single values, or to a range. -/
inductive Bound where
  | points
  | range
deriving DecidableEq, Repr

namespace Formula

/-- The conditions that all have to hold. -/
def conjuncts : Formula → List Formula
  | .binary .and _ l r => conjuncts l ++ conjuncts r
  | f => [f]

/-- Whether a formula is a column. -/
def isColumn (f : Formula) (column : Nat) : Bool :=
  match f with
  | .column index => index == column
  | _ => false

/-- Whether one formula is a column and the other has the same value in every row. -/
def isColumnAndConstant (column : Nat) (l r : Formula) : Bool :=
  l.isColumn column && r.columns.isEmpty || r.isColumn column && l.columns.isEmpty

/-- How a condition bounds a column. -/
def bound? (column : Nat) : Formula → Option Bound
  | .binary .equal c l r =>
      if c.isBinary && isColumnAndConstant column l r then some .points else none
  | .same false c l r =>
      if c.isBinary && isColumnAndConstant column l r then some .points else none
  | .binary .or _ l r =>
      if bound? column l = some .points ∧ bound? column r = some .points then some .points else none
  | .isNull false x => if x.isColumn column then some .points else none
  | .inList false c x items =>
      if c.isBinary && x.isColumn column && (Formula.allColumns items).isEmpty then some .points
      else none
  | .between false lowCollation highCollation x low high =>
      if lowCollation.isBinary && highCollation.isBinary && x.isColumn column
          && low.columns.isEmpty && high.columns.isEmpty then
        some .range
      else none
  | .binary op c l r =>
      if op ∈ [BinaryOperator.less, .lessEqual, .greater, .greaterEqual] ∧ c.isBinary
          ∧ isColumnAndConstant column l r then
        some .range
      else none
  | _ => none

/-- How a condition with parts that all have to hold bounds a column. -/
def bounds (column : Nat) (condition : Option Formula) : List Bound :=
  match condition with
  | some f => f.conjuncts.filterMap (bound? column)
  | none => []

end Formula

namespace Table

/-- The rows in the order of a column; rows with one value, `NULL` among them, stay by id. -/
def rowsBy (t : Table) (column : Nat) : List Row :=
  t.rows.mergeSort fun a b =>
    (a.values[column]?.getD .null).order .binary (b.values[column]?.getD .null) != .gt

/-- Whether a query that looks at `used` columns goes along a unique column. -/
def goesAlong (t : Table) (column : Nat) (used : List Nat) (condition : Option Formula) : Bool :=
  let covered := used.all (fun i => i == column || some i == t.keyIndex?)
    && 2 < t.columns.length
  let keyBounds := match t.keyIndex? with
    | some key => Formula.bounds key condition
    | none => []
  let bounds := Formula.bounds column condition
  if .points ∈ keyBounds then false
  else if .points ∈ bounds then true
  else if .range ∈ keyBounds then .range ∈ bounds && covered
  else .range ∈ bounds || covered

/-- The rows in the order in which a query visits them. `wanted` is the column whose order the query
asks for, and whether it asks for it backwards. -/
def visited (t : Table) (used : List Nat) (condition : Option Formula)
    (wanted : Option (Nat × Bool)) : List Row :=
  match t.columns.findIdx? (fun c => c.unique && !c.primaryKey) with
  | none => t.rows
  | some column =>
      let keyPoints := match t.keyIndex? with
        | some key => .points ∈ Formula.bounds key condition
        | none => false
      match wanted with
      | some (index, backwards) =>
          if index = column ∧ !keyPoints then
            if backwards then (t.rowsBy column).reverse else t.rowsBy column
          else if t.goesAlong column used condition then t.rowsBy column
          else t.rows
      | none => if t.goesAlong column used condition then t.rowsBy column else t.rows

end Table

end TypedSql
