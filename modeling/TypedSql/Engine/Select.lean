import TypedSql.Engine.Resolve
import TypedSql.Engine.Visit

namespace TypedSql

open Sql (Expr ResultItem OrderTerm SelectFrom TableName)

structure OrderKey where
  formula : Formula
  collation : NamedCollation
  descending : Bool

/-- A query with its names decided. -/
structure SelectPlan where
  names : List String
  outputs : List Formula
  /-- Where equal results are kept once, the collation of each column. -/
  distinct : Option (List NamedCollation)
  condition : Option Formula
  order : List OrderKey
  limit : Option Formula
  offset : Option Formula

/-- The columns a query is over: what they are called outside, and what they are called in it. -/
structure SourceColumns where
  names : List String
  columns : List ColumnName

namespace SourceColumns

def none : SourceColumns := ⟨[], []⟩

def ofTable (t : Table) (label : String) : SourceColumns :=
  let names := t.columns.map (·.name)
  ⟨names, columnNames label names 0 false⟩

/-- The columns of the rows of a query. -/
def ofNames (names : List String) : SourceColumns := ⟨names, columnNames "" names 0 false⟩

end SourceColumns

namespace SelectPlan

/-- A result column without an alias is called as the column it is, or else as it is written. -/
def itemName (source : SourceColumns) (f : Formula) (text : String) : String :=
  match f with
  | .column index => source.names[index]?.getD text
  | _ => text

def item (names : Names) (source : SourceColumns) :
    ResultItem → Except Fault (List (String × Formula))
  | .star => .ok (source.names.zipIdx.map fun (name, i) => (name, .column i))
  | .column x aliasName text => do
      let f ← names.formula x
      .ok [(aliasName.getD (itemName source f text), f)]

def items (names : Names) (source : SourceColumns) (xs : List ResultItem) :
    Except Fault (List (String × Formula)) := do
  .ok (← xs.mapM (item names source)).flatten

/-- The aliases among items, with what they stand for. -/
def aliases (names : Names) (xs : List ResultItem) : Except Fault (List (String × Formula)) := do
  let found ← xs.mapM fun
    | .column x (some name) _ => (fun f => [(name, f)]) <$> names.formula x
    | _ => .ok []
  .ok found.flatten

def itemCollations (names : Names) (source : SourceColumns) :
    ResultItem → Except Fault (List NamedCollation)
  | .star => .ok (source.names.map fun _ => .binary)
  | .column x _ _ => do .ok [← names.collationOf [x]]

/-- The collations by which results are held equal, if equal ones are kept once. -/
def distinctCollations {Source : Type} (names : Names) (source : SourceColumns)
    (q : SelectFrom Source) : Except Fault (Option (List NamedCollation)) :=
  if q.distinct then do
    .ok (some (← q.items.mapM (itemCollations names source)).flatten)
  else .ok none

/-- An expression without the collations around it. -/
def withoutCollation : Expr → Expr
  | .collate x _ => withoutCollation x
  | x => x

/-- A term of an order: the number of a result, an alias, or any expression. -/
def orderKey (names : Names) (outputs : List Formula) (t : OrderTerm) : Except Fault OrderKey := do
  let formula ← match withoutCollation t.x with
    | .literal (.integer n) =>
        match outputs[n.toInt.toNat - 1]? with
        | some f => if 1 ≤ n then .ok f else .error ⟨.orderPosition, none⟩
        | none => .error ⟨.orderPosition, none⟩
    | .name none name inQuotes offset =>
        match names.aliases.find? fun (known, _) => sameName known name with
        | some (_, f) => .ok f
        | none => names.nameFormula none name inQuotes offset
    | x => names.formula x
  .ok ⟨formula, ← names.collationOf [t.x], t.descending⟩

/-- A query over a source, with its names decided. -/
def of {Source : Type} (names : Names) (source : SourceColumns) (q : SelectFrom Source) :
    Except Fault SelectPlan := do
  let outside := { names with columns := [], aliases := [] }
  let limit ← outside.formula? q.limit
  let offset ← outside.formula? q.offset
  let inside := { names with columns := source.columns, aliases := [] }
  let results ← items inside source q.items
  let withAliases := { inside with aliases := ← aliases inside q.items }
  let condition ← withAliases.formula? q.condition
  let order ← q.order.mapM (orderKey withAliases (results.map (·.2)))
  .ok
    { names := results.map (·.1), outputs := results.map (·.2),
      distinct := ← distinctCollations inside source q, condition, order, limit, offset }

/-- Whether the answer is one row over all rows. -/
def isAggregate (p : SelectPlan) : Bool := Formula.anyAggregate p.outputs

/-- The columns that a query looks at. -/
def used (p : SelectPlan) : List Nat :=
  Formula.allColumns p.outputs ++ (p.condition.map Formula.columns).getD []
    ++ Formula.allColumns (p.order.map (·.formula))

/-- The column whose own order the query asks for, and whether backwards. -/
def wantedColumn? (p : SelectPlan) : Option (Nat × Bool) :=
  match p.order with
  | [⟨.column index, collation, descending⟩] =>
      if collation.isBinary then some (index, descending) else none
  | _ => none

/-- Whether the first of two lists of values does not come after the second. -/
def inOrder : List OrderKey → List Datum → List Datum → Bool
  | key :: keys, a :: as, b :: bs =>
      match a.order key.collation.compareText b with
      | .lt => !key.descending
      | .gt => key.descending
      | .eq => inOrder keys as bs
  | _, _, _ => true

/-- Whether two rows are the same, each column in its collation. -/
def sameRow : List NamedCollation → List Datum → List Datum → Bool
  | c :: cs, a :: as, b :: bs => Formula.isSame c.compareText a b && sameRow cs as bs
  | _, _, _ => true

/-- Results without those whose row is the same as an earlier one. -/
def withoutRepeats {α : Type} (collations : List NamedCollation) (row : α → List Datum) :
    List α → List α → List α
  | [], _ => []
  | a :: rest, seen =>
      if seen.any fun b => sameRow collations (row a) (row b) then
        withoutRepeats collations row rest seen
      else a :: withoutRepeats collations row rest (a :: seen)

/-- A number of rows; a negative one is none given. -/
def count (parameters : List Datum) (f : Option Formula) : Except EngineError (Option Nat) :=
  match f with
  | none => .ok none
  | some f =>
      match f.eval { parameters } with
      | .integer n => .ok (if n.toInt < 0 then none else some n.toInt.toNat)
      | _ => .error .typeMismatch

/-- The results over the rows of the source, in their order. -/
def results (p : SelectPlan) (parameters : List Datum) (rows : List (List Datum)) :
    List (List Datum) :=
  let kept := rows.filter fun row => Formula.holds { parameters, row } p.condition
  let scopes : List Scope :=
    if p.isAggregate then [{ parameters, row := kept.getLastD [], group := kept }]
    else kept.map fun row => { parameters, row }
  let results := scopes.map fun s =>
    (Formula.evalAll s (p.order.map (·.formula)), Formula.evalAll s p.outputs)
  let results : List (List Datum × List Datum) := match p.distinct with
    | some collations => withoutRepeats collations (·.2) results []
    | none => results
  let results := results.mergeSort fun a b => inOrder p.order a.1 b.1
  results.map (·.2)

/-- The answer over the rows of the source: the results that are wanted. Where none is wanted the
offset is not looked at. -/
def answer (p : SelectPlan) (parameters : List Datum) (rows : List (List Datum)) :
    Except EngineError (List (List Datum)) := do
  let limit ← count parameters p.limit
  if limit = some 0 then return []
  let offset ← count parameters p.offset
  let later := (p.results parameters rows).drop (offset.getD 0)
  .ok (match limit with
    | some n => later.take n
    | none => later)

end SelectPlan

end TypedSql
