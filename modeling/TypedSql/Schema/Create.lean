import TypedSql.Schema.Table
import TypedSql.Term.Render
import TypedSql.Term.Typing

namespace TypedSql

structure ColumnOptions where
  primaryKey : Bool := false
  autoincrement : Bool := false
  unique : Bool := false
  default : Option Value := none
  check : Option Term := none
  references : Option (String × String) := none
deriving Repr

namespace ColumnOptions

def withPrimaryKey (o : ColumnOptions) : ColumnOptions := { o with primaryKey := true }

/-- A column that increments by itself is also the primary key. -/
def withAutoincrement (o : ColumnOptions) : ColumnOptions :=
  { o with primaryKey := true, autoincrement := true }

def withUnique (o : ColumnOptions) : ColumnOptions := { o with unique := true }

def withDefault (o : ColumnOptions) (v : Value) : ColumnOptions := { o with default := some v }

def withCheck (o : ColumnOptions) (condition : Term) : ColumnOptions :=
  { o with check := some condition }

def withReference (o : ColumnOptions) (table column : String) : ColumnOptions :=
  { o with references := some (table, column) }

/-- The default has the column's type and the check is a condition. -/
def wellTyped (o : ColumnOptions) (type : ValueType) : Bool :=
  o.default.all (·.type == type) && o.check.all Term.isCondition

end ColumnOptions

/-- The part of a column definition that both ways of declaring a column share, after the name or the
expression. With the clauses that are asked for, a schema gives
`type [PRIMARY KEY] [AUTOINCREMENT] [NOT NULL] [UNIQUE] [DEFAULT text]`, and an expression
`type [PRIMARY KEY] [AUTOINCREMENT] [NOT NULL] [UNIQUE] [CHECK (condition)] [DEFAULT mark]
[REFERENCES table (column)]`. -/
def declaration (type : ValueType) (nullable primaryKey autoincrement unique : Bool) : String :=
  " " ++ type.declared ++ (if primaryKey then " PRIMARY KEY" else "") ++
    (if autoincrement then " AUTOINCREMENT" else "") ++
    (if nullable then "" else " NOT NULL") ++ (if unique then " UNIQUE" else "")

/-- A column of a schema, its default as the text recorded there. -/
def ColumnSchema.definition (c : ColumnSchema) : Fragment :=
  .raw (quoteIdentifier c.name ++
    declaration c.type c.nullable c.primaryKey c.autoincrement c.unique ++
    (match c.defaultText with
    | some text => " DEFAULT " ++ text
    | none => ""))

namespace ColumnOptions

/-- A column given as an expression of a type. Only the text of the expression is taken. -/
def definition (o : ColumnOptions) (column : Term) (type : ValueType) (nullable : Bool) :
    Fragment :=
  .raw (column.sql ++ declaration type nullable o.primaryKey o.autoincrement o.unique) ++
    (match o.check with
    | some condition => .enclosed " CHECK (" condition.render ")"
    | none => .raw "") ++
    (match o.default with
    | some v => .raw " DEFAULT " ++ .bound (some v.store)
    | none => .raw "") ++
    (match o.references with
    | some (table, referenced) =>
        .raw (" REFERENCES " ++ quoteIdentifier table ++ " (" ++ quoteIdentifier referenced ++ ")")
    | none => .raw "")

end ColumnOptions

structure CreateTable where
  table : String
  ifNotExists : Bool := false
  columns : List Fragment := []
deriving DecidableEq, Repr

namespace CreateTable

def ofSchema (t : TableSchema) : CreateTable :=
  { table := t.name, columns := t.columns.map ColumnSchema.definition }

/-- Adds a column of a value type; its options must suit that type. -/
def column? (t : CreateTable) (column : Term) (o : ColumnOptions) : Option CreateTable :=
  match column.type? with
  | some (.value type nullable) =>
      if o.wellTyped type then
        some { t with columns := t.columns ++ [o.definition column type nullable] }
      else none
  | _ => none

/-- The statement with its values still bound. -/
def render (t : CreateTable) : Fragment :=
  .enclosed
    ("CREATE TABLE " ++ (if t.ifNotExists then "IF NOT EXISTS " else "") ++
      quoteIdentifier t.table ++ " (")
    (.commas t.columns) ")"

/-- The statement with its values inlined. -/
def build (t : CreateTable) : Except BindingError String := t.render.compile

end CreateTable

def dropTable (table : String) (ifExists : Bool) : Fragment :=
  .raw ("DROP TABLE " ++ (if ifExists then "IF EXISTS " else "") ++ quoteIdentifier table)

end TypedSql
