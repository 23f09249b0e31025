import TypedSql.Query.Basic
import TypedSql.Record.Attribute
import TypedSql.Schema.Create
import TypedSql.Text.Uppercase

/-!
Tables derived from record types. Attributes of the record may name the table, attributes of a
field its column and the constraints on it. Errors are reported in the order of the text: the
record's attributes first, then the kind of the item, then field by field.
-/

namespace TypedSql

structure Field where
  name : String
  type : ValueType
  nullable : Bool
  attributes : List Attribute
deriving DecidableEq, Repr

inductive Item where
  | record (fields : List Field)
  | unnamedFields
  | other
deriving DecidableEq, Repr

/-- An item with its name and attributes. -/
structure Description where
  name : String
  attributes : List Attribute
  item : Item
deriving DecidableEq, Repr

/-- The expression that reads a field's column. -/
structure Accessor where
  name : String
  type : ResultType
  column : String
deriving DecidableEq, Repr

/-- What is derived from a record: the name of the new type, and what that type provides. -/
structure DerivedTable where
  typeName : String
  tableName : String
  columns : List String
  primaryKey : Option String
  schema : TableSchema
  accessors : List Accessor
deriving DecidableEq, Repr

/-- Lower case with an underscore before every capital but the first; only ASCII letters change. -/
def snakeCase (s : List Char) : List Char :=
  let lower (c : Char) : List Char := if isUppercase c then ['_', c.toLower] else [c]
  match s with
  | [] => []
  | c :: r => (if isUppercase c then c.toLower else c) :: r.flatMap lower

/-- The names of what every table provides, which no field may take. -/
def reservedNames : List String := ["table_name", "query", "create_table"]

/-- An item of a table attribute: only the name can be set. -/
def tableItem : Items (Option String) := fun path _ tokens =>
  if path = ["name".toList] then do
    let (x, rest) ← readAssigned tokens
    match x.text? with
    | some name => .ok (some name, rest)
    | none => .error .tableName
  else .error .unknownTableItem

/-- What the attributes of a field say. -/
structure ColumnMarks where
  name : Option String := none
  primaryKey : Bool := false
  unique : Bool := false
  autoincrement : Bool := false
  defaultText : Option String := none
deriving DecidableEq, Repr

def columnItem : Items ColumnMarks := fun path marks tokens =>
  if path = ["primary_key".toList] then .ok ({ marks with primaryKey := true }, tokens)
  else if path = ["unique".toList] then .ok ({ marks with unique := true }, tokens)
  else if path = ["autoincrement".toList] then .ok ({ marks with autoincrement := true }, tokens)
  else if path = ["name".toList] then do
    let (x, rest) ← readAssigned tokens
    match x.text? with
    | some name => .ok ({ marks with name := some name }, rest)
    | none => .error .columnName
  else if path = ["default".toList] then do
    let (x, rest) ← readAssigned tokens
    match x.sql? with
    | some text => .ok ({ marks with defaultText := some text }, rest)
    | none => .error .defaultNotLiteral
  else .error .unknownColumnItem

/-- Reads a table attribute, which must have arguments in parentheses. -/
def tableAttribute (known : Option String) : Attribute → Except DeriveError (Option String)
  | .bare => .error .bareTable
  | .list arguments => readArguments tableItem known arguments
  | .assigned => .error .assignedTable

/-- Reads a column attribute; one without arguments says nothing, and one that is set to a value is
no column attribute. -/
def columnAttribute (known : ColumnMarks) : Attribute → Except DeriveError ColumnMarks
  | .bare => .ok known
  | .list arguments => readArguments columnItem known arguments
  | .assigned => .error .assignedColumn

def Field.column (f : Field) : Except DeriveError ColumnSchema :=
  if f.name ∈ reservedNames then .error (.reservedField f.name)
  else do
    let marks ← f.attributes.foldlM columnAttribute {}
    .ok
      { name := marks.name.getD f.name
        type := f.type
        nullable := f.nullable
        primaryKey := marks.primaryKey || marks.autoincrement
        unique := marks.unique
        autoincrement := marks.autoincrement
        defaultText := marks.defaultText }

/-- The columns of the fields in order; at most one is a primary key. -/
def columnsOf (fields : List Field) : Except DeriveError (List ColumnSchema) := do
  let columns ← fields.mapM Field.column
  if 1 < columns.countP (·.primaryKey) then .error .manyPrimaryKeys
  else .ok columns

def Field.accessor (f : Field) (c : ColumnSchema) : Accessor :=
  { name := f.name, type := .value f.type f.nullable, column := c.name }

def Accessor.term (a : Accessor) : Term := .column a.column a.type

/-- A name without the mark that lets a keyword be used as one. -/
def plainName (name : String) : String :=
  match name.toList with
  | 'r' :: '#' :: rest => String.ofList rest
  | _ => name

namespace Description

/-- The table that an item describes. -/
def derive (d : Description) : Except DeriveError DerivedTable := do
  let name ← d.attributes.foldlM tableAttribute none
  match d.item with
  | .other => .error .notRecord
  | .unnamedFields => .error .unnamedFields
  | .record fields => do
      let columns ← columnsOf fields
      let name := name.getD (String.ofList (snakeCase d.name.toList))
      .ok
        { typeName := plainName d.name ++ "Table"
          tableName := name
          columns := columns.map (·.name)
          primaryKey := (columns.find? (·.primaryKey)).map (·.name)
          schema := ⟨name, columns⟩
          accessors := List.zipWith Field.accessor fields columns }

end Description

namespace DerivedTable

def query (t : DerivedTable) : Query := .ofTable t.tableName

def createTable (t : DerivedTable) : CreateTable := .ofSchema t.schema

end DerivedTable

end TypedSql
