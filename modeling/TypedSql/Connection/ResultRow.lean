import TypedSql.Text.Quoted
import TypedSql.Value

namespace TypedSql

/-- A row of a result: the names of the columns and the cells. -/
structure ResultRow where
  columns : List String
  cells : List Cell
deriving DecidableEq, Repr

namespace ResultRow

def size (r : ResultRow) : Nat := r.cells.length

def isEmpty (r : ResultRow) : Bool := r.cells.isEmpty

/-- The place of the leftmost column of a name. -/
def position? (columns : List String) (name : String) : Option Nat := columns.idxOf? name

/-- The place of the column that an expression is read from. -/
def resolve? (columns : List String) (sql : String) : Option Nat :=
  (position? columns sql).or ((identifierTail sql).bind (position? columns))

def get (r : ResultRow) (index : Nat) (type : ValueType) (nullable : Bool) :
    Except DecodeError (Option Value) :=
  match r.cells[index]? with
  | some cell => type.readCell nullable cell
  | none => .error (.indexOutOfRange index)

def getNamed (r : ResultRow) (name : String) (type : ValueType) (nullable : Bool) :
    Except DecodeError (Option Value) :=
  match position? r.columns name with
  | some index => r.get index type nullable
  | none => .error (.unknownColumn name)

def getColumn (r : ResultRow) (sql : String) (type : ValueType) (nullable : Bool) :
    Except DecodeError (Option Value) :=
  match resolve? r.columns sql with
  | some index => r.get index type nullable
  | none => .error (.unknownColumn sql)

end ResultRow

end TypedSql
