import TypedSql.Term.Build

namespace TypedSql

/-- A table and the clauses gathered against it. -/
structure Query where
  table : String
  aliasName : Option String := none
  filter : Option Term := none
  columns : List Term := []
  distinct : Bool := false
  groupBy : List Term := []
  having : Option Term := none
  orderBy : List Term := []
  limit : Option UInt64 := none
  offset : Option UInt64 := none
deriving Repr

/-- A clause to add to a query. -/
inductive Clause where
  | aliased (name : String)
  | filter (condition : Term)
  | select (columns : List Term)
  | distinct
  | groupBy (columns : List Term)
  | having (condition : Term)
  | orderBy (terms : List Term)
  | limit (n : UInt64)
  | offset (n : UInt64)
deriving Repr

/-- Conditions are boolean and all other expressions have some type. -/
def Clause.wellTyped : Clause → Bool
  | .filter condition | .having condition => condition.isCondition
  | .select terms | .groupBy terms | .orderBy terms => terms.all Term.wellTyped
  | .aliased _ | .distinct | .limit _ | .offset _ => true

namespace Query

def ofTable (table : String) : Query := { table }

/-- Adds one condition to those given before. -/
def both (earlier : Option Term) (condition : Term) : Term :=
  match earlier with
  | none => condition
  | some e => .binary .and e condition

def add (q : Query) : Clause → Query
  | .aliased name => { q with aliasName := some name }
  | .filter condition => { q with filter := some (both q.filter condition) }
  | .select columns => { q with columns }
  | .distinct => { q with distinct := true }
  | .groupBy columns => { q with groupBy := columns }
  | .having condition => { q with having := some condition }
  | .orderBy terms => { q with orderBy := terms }
  | .limit n => { q with limit := some n }
  | .offset n => { q with offset := some n }

def build (table : String) (clauses : List Clause) : Query := clauses.foldl add (ofTable table)

end Query

end TypedSql
