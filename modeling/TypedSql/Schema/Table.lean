import TypedSql.Value

namespace TypedSql

/-- A column as a table declares it; a default is kept as SQL text. -/
structure ColumnSchema where
  name : String
  type : ValueType
  nullable : Bool
  primaryKey : Bool := false
  unique : Bool := false
  autoincrement : Bool := false
  defaultText : Option String := none
deriving DecidableEq, Repr

structure TableSchema where
  name : String
  columns : List ColumnSchema
deriving DecidableEq, Repr

namespace TableSchema

def columnNames (t : TableSchema) : List String := t.columns.map ColumnSchema.name

/-- The first column with a name. -/
def column? (t : TableSchema) (name : String) : Option ColumnSchema :=
  t.columns.find? (·.name == name)

/-- The name of the first primary key column. -/
def primaryKey? (t : TableSchema) : Option String :=
  (t.columns.find? (·.primaryKey)).map ColumnSchema.name

end TableSchema

end TypedSql
