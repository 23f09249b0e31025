import TypedSql.Term.Build
import TypedSql.Term.Render

namespace TypedSql

structure Assignment where
  column : Term
  value : Term
deriving Repr

namespace Assignment

def render (a : Assignment) : Fragment := .joined " = " [a.column.render, a.value.render]

end Assignment

namespace Term

/-- Sets a column to an operand of its type; only a nullable column takes a nullable one. -/
def assign? (column : Term) (r : Operand) : Option Assignment :=
  let value := column.operand r
  match column.type?, value.type? with
  | some (.value t n), some (.value u m) => if t = u ∧ (m → n) then some ⟨column, value⟩ else none
  | _, _ => none

/-- Sets a column to a combination of its present value, if that has a type. -/
def modify? (column value : Term) : Option Assignment :=
  if value.wellTyped then some ⟨column, value⟩ else none

/-- Sets an integer column to the sum or difference of its present value and one. -/
def stepBy (op : BinaryOperator) (column : Term) : Term :=
  .binary op column (.verbatim "1" [] (.value .integer false))

end Term

end TypedSql
