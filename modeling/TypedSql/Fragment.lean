import TypedSql.Scan.Inline

namespace TypedSql

/-- SQL text and the cells bound to its question marks. -/
structure Fragment where
  sql : String
  cells : List Cell
deriving DecidableEq, Repr

namespace Fragment

/-- Text that binds nothing. -/
def raw (sql : String) : Fragment := ⟨sql, []⟩

/-- A question mark and its cell. -/
def bound (cell : Cell) : Fragment := ⟨"?", [cell]⟩

def append (a b : Fragment) : Fragment := ⟨a.sql ++ b.sql, a.cells ++ b.cells⟩

instance : Append Fragment := ⟨append⟩

def enclosed (before : String) (x : Fragment) (after : String) : Fragment :=
  raw before ++ x ++ raw after

/-- Two operands with an operator between them, in parentheses. -/
def infixed (operator : String) (l r : Fragment) : Fragment :=
  raw "(" ++ l ++ raw (" " ++ operator ++ " ") ++ r ++ raw ")"

/-- A function or prefix operator applied to an argument in parentheses. -/
def applied (function : String) (x : Fragment) : Fragment := enclosed (function ++ "(") x ")"

def joined (separator : String) : List Fragment → Fragment
  | [] => raw ""
  | [x] => x
  | x :: xs => x ++ raw separator ++ joined separator xs

def commas (xs : List Fragment) : Fragment := joined ", " xs

def concat (xs : List Fragment) : Fragment := joined "" xs

/-- The text with every cell inlined. -/
def compile (x : Fragment) : Except BindingError String := inlinePositional x.sql x.cells

@[simp] theorem sql_append (a b : Fragment) : (a ++ b).sql = a.sql ++ b.sql := rfl

@[simp] theorem cells_append (a b : Fragment) : (a ++ b).cells = a.cells ++ b.cells := rfl

@[simp] theorem sql_raw (s : String) : (raw s).sql = s := rfl

@[simp] theorem cells_raw (s : String) : (raw s).cells = [] := rfl

@[simp] theorem sql_bound (c : Cell) : (bound c).sql = "?" := rfl

@[simp] theorem cells_bound (c : Cell) : (bound c).cells = [c] := rfl

end Fragment

end TypedSql
