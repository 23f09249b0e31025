import TypedSql.Engine.Datum
import TypedSql.Query.Render
import TypedSql.Sql.Parameters

/-!
Statements as the engine reads them. An expression is a tree with nothing decided about its names;
where one may turn out to name nothing, its place in the text is kept. What is not among these trees,
such as `CASE`, `EXISTS` or a query in an expression, is refused as a fault of syntax.
-/

namespace TypedSql.Sql

inductive Expr where
  | literal (d : Datum)
  | parameter (number : Nat)
  /-- A column, after the name of its table if there is one. A name in double quotes that is no
  column's is a text. -/
  | name (table : Option String) (name : String) (inQuotes : Bool) (offset : Nat)
  | unary (op : UnaryOperator) (x : Expr)
  | binary (op : BinaryOperator) (l r : Expr)
  /-- Whether two values are the same, `NULL` among them. -/
  | same (negated : Bool) (l r : Expr)
  | isNull (negated : Bool) (x : Expr)
  | between (negated : Bool) (x low high : Expr)
  | inList (negated : Bool) (x : Expr) (items : List Expr)
  | collate (x : Expr) (collation : String)
  | cast (x : Expr) (type : String)
  | call (function : String) (distinct : Bool) (arguments : List Expr) (offset : Nat)
  /-- A pattern with a character that takes its meaning from the one after it. -/
  | likeEscape (x pattern escape : Expr)
  /-- A function of all rows, written with a star. -/
  | callStar (function : String) (offset : Nat)
deriving Repr

/-- What a result is made of: every column, or an expression with its alias and its text. -/
inductive ResultItem where
  | star
  | column (x : Expr) (aliasName : Option String) (text : String)
deriving Repr

/-- A table and the name it goes by in the statement. -/
structure TableName where
  name : String
  aliasName : Option String := none
deriving DecidableEq, Repr

/-- The name by which columns of the table are qualified. -/
def TableName.label (t : TableName) : String := t.aliasName.getD t.name

structure OrderTerm where
  x : Expr
  descending : Bool
deriving Repr

structure SelectFrom (Source : Type) where
  distinct : Bool
  items : List ResultItem
  source : Option Source
  condition : Option Expr
  order : List OrderTerm
  limit : Option Expr
  offset : Option Expr

/-- What rows are taken from: a table, or the rows of a query over one. -/
inductive Source where
  | table (t : TableName)
  | rows (q : SelectFrom TableName)

abbrev Select := SelectFrom Source

/-- What is done about a row that conflicts in one of the named columns: nothing, or an update of
the row that is there. -/
structure Upsert where
  targets : List Expr
  update : Option (List (String × Expr))

structure Insert where
  conflict : Conflict
  table : TableName
  columns : Option (List String)
  /-- The rows of values; none for a row of defaults. -/
  rows : Option (List (List Expr))
  upsert : Option Upsert
  returning : List ResultItem

structure Update where
  table : TableName
  assignments : List (String × Expr)
  condition : Option Expr

structure Delete where
  table : TableName
  condition : Option Expr

/-- A column another column refers to; a deferred reference is checked when the transaction ends. -/
structure Reference where
  table : String
  deferred : Bool
deriving DecidableEq, Repr

structure ColumnDefinition where
  name : String
  primaryKey : Bool := false
  unique : Bool := false
  default : Datum := .null
  reference : Option Reference := none
deriving DecidableEq, Repr

/-- A new table. Whether the name is taken is known before the columns are read, so a fault in them
is kept. -/
structure TableDefinition where
  name : String
  ifNotExists : Bool
  /-- The name as it is written, and where. -/
  nameText : String
  nameOffset : Nat
  columns : Except Fault (List ColumnDefinition)

/-- How a transaction begins. -/
inductive TransactionMode where
  | deferred
  | immediate
  | exclusive
deriving DecidableEq, Repr

inductive Control where
  | begin (mode : TransactionMode)
  | commit
  | rollback
  | savepoint (name : String)
  | release (name : String)
  | rollbackTo (name : String)
deriving DecidableEq, Repr

inductive Pragma where
  | userVersion
  | foreignKeys
deriving DecidableEq, Repr

inductive Statement where
  | select (q : Select)
  | insert (i : Insert)
  | update (u : Update)
  | delete (d : Delete)
  | createTable (t : TableDefinition)
  | control (c : Control)
  /-- A pragma that is read, or set to a value. -/
  | pragma (p : Pragma) (value : Option Int)
  /-- Nothing but blanks and comments. -/
  | empty

end TypedSql.Sql
