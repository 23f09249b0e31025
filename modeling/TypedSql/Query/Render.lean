import TypedSql.Query.Assignment
import TypedSql.Query.Basic

namespace TypedSql

/-- What an insert does about a row that conflicts with a stored one. -/
inductive Conflict where
  | replace
  | rollback
  | abort
  | fail
  | ignore
deriving DecidableEq, Repr

def Conflict.keyword : Conflict → String
  | .replace => "REPLACE"
  | .rollback => "ROLLBACK"
  | .abort => "ABORT"
  | .fail => "FAIL"
  | .ignore => "IGNORE"

def Fragment.terms (xs : List Term) : Fragment := .commas (xs.map Term.render)

def Fragment.assignments (xs : List Assignment) : Fragment := .commas (xs.map Assignment.render)

namespace Query

/-- The table as a source of rows: its quoted name and its alias. -/
def source (q : Query) : Fragment :=
  match q.aliasName with
  | some name => .name q.table ++ .raw " AS " ++ .name name
  | none => .name q.table

/-- A keyword and an expression, or nothing. -/
def optionalClause (keyword : String) : Option Term → Fragment
  | some x => .raw keyword ++ x.render
  | none => .raw ""

/-- A keyword and a list of expressions, or nothing for the empty list. -/
def listClause (keyword : String) (xs : List Term) : Fragment :=
  if xs.isEmpty then .raw "" else .raw keyword ++ .terms xs

def whereClause (q : Query) : Fragment := optionalClause " WHERE " q.filter

/-- The window of rows; an offset alone stands after a limit of -1, which bounds nothing. -/
def window (q : Query) : Fragment :=
  match q.limit, q.offset with
  | some limit, some offset => .raw (" LIMIT " ++ toString limit ++ " OFFSET " ++ toString offset)
  | some limit, none => .raw (" LIMIT " ++ toString limit)
  | none, some offset => .raw (" LIMIT -1 OFFSET " ++ toString offset)
  | none, none => .raw ""

def ordering (q : Query) : Fragment := listClause " ORDER BY " q.orderBy ++ q.window

/-- A `SELECT` of the given columns up to its ordering. -/
def selecting (q : Query) (columns : Fragment) : Fragment :=
  .raw (if q.distinct then "SELECT DISTINCT " else "SELECT ") ++ columns ++
    .raw " FROM " ++ q.source ++ q.whereClause ++
    listClause " GROUP BY " q.groupBy ++ optionalClause " HAVING " q.having

def columnList (q : Query) : Fragment :=
  if q.columns.isEmpty then .raw "*" else .terms q.columns

def statement (q : Query) : Fragment := q.selecting q.columnList ++ q.ordering

def selectValue (q : Query) (column : Term) : Fragment :=
  q.selecting column.render ++ q.ordering

/-- The number of rows. Rows of distinct columns are counted in a subquery. -/
def count (q : Query) : Fragment :=
  if q.distinct && !q.columns.isEmpty then
    .enclosed "SELECT count(*) FROM (" q.statement ")"
  else
    { q with distinct := false }.selecting Term.countRows.render

def delete (q : Query) : Fragment := .raw "DELETE FROM " ++ .name q.table ++ q.whereClause

/-- An insert of one row; without assignments every column takes its default. -/
def insertWith (verb : String) (q : Query) (row : List Assignment) : Fragment :=
  let head := .raw (verb ++ " INTO ") ++ .name q.table
  if row.isEmpty then head ++ .raw " DEFAULT VALUES"
  else
    head ++ .raw " (" ++ .terms (row.map Assignment.column) ++
      .raw ") VALUES (" ++ .terms (row.map Assignment.value) ++ .raw ")"

def insert (q : Query) (row : List Assignment) : Fragment := insertWith "INSERT" q row

def insertOr (q : Query) (conflict : Conflict) (row : List Assignment) : Fragment :=
  insertWith ("INSERT OR " ++ conflict.keyword) q row

/-- An insert that updates the row it conflicts with, or leaves it without any update. -/
def upsert (q : Query) (row : List Assignment) (target : List Term)
    (update : List Assignment) : Fragment :=
  let action :=
    if update.isEmpty then .raw ") DO NOTHING"
    else .raw ") DO UPDATE SET " ++ .assignments update
  q.insert row ++ .raw " ON CONFLICT (" ++ .terms target ++ action

/-- An update of the filtered rows; it needs at least one assignment to be a statement. -/
def update (q : Query) (first : Assignment) (others : List Assignment) : Fragment :=
  .raw "UPDATE " ++ .name q.table ++ .raw " SET " ++ .assignments (first :: others) ++ q.whereClause

end Query

end TypedSql
