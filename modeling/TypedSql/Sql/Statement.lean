import TypedSql.Sql.Expression

namespace TypedSql.Sql

namespace Parse

/-- A step after a word, where the word comes first. -/
def after {α : Type} (keyword : String) (item : Parse α) : Parse (Option α) := do
  if ← takeWord keyword then some <$> item else pure none

def aliasName : Parse (Option String) := do
  if ← takeWord "as" then some <$> nameOrText
  else
    match ← peek with
    | some { lexeme := .string s, .. } => skip; pure (some (String.ofList s))
    | some t =>
        match t.name? with
        | some n => skip; pure (some n)
        | none => pure none
    | none => pure none

def tableName : Parse TableName := do
  let name ← nameOrText
  pure { name, aliasName := ← aliasName }

/-- A table that rows are changed in: an alias needs `AS`. -/
def targetTable : Parse TableName := do
  let name ← nameOrText
  pure { name, aliasName := ← after "as" nameOrText }

def resultItem : Parse ResultItem := do
  if ← takeSymbol "*" then pure .star
  else
    let (x, text) ← withText expression
    pure (.column x (← aliasName) text)

def orderTerm : Parse OrderTerm := do
  let x ← expression
  if ← takeWord "desc" then pure ⟨x, true⟩
  else
    let _ ← takeWord "asc"
    pure ⟨x, false⟩

/-- A query, after its first word. -/
def selectFrom {Source : Type} (source : Parse Source) : Parse (SelectFrom Source) := do
  let distinct ← takeWord "distinct"
  if !distinct then let _ ← takeWord "all"
  let items ← commas resultItem
  let source ← after "from" source
  let condition ← after "where" expression
  let order ← after "order" do
    word "by"
    commas orderTerm
  let limit ← after "limit" expression
  let offset ← match limit with
    | some _ => after "offset" expression
    | none => pure none
  pure { distinct, items, source, condition, order := order.getD [], limit, offset }

def source : Parse Source := do
  if ← takeSymbol "(" then
    word "select"
    let q ← selectFrom tableName
    symbol ")"
    let _ ← aliasName
    pure (.rows q)
  else .table <$> tableName

def assignment : Parse (String × Expr) := do
  let column ← nameOrText
  symbol "="
  pure (column, ← expression)

def conflict : Parse Conflict := do
  if ← takeWord "replace" then pure .replace
  else if ← takeWord "ignore" then pure .ignore
  else if ← takeWord "abort" then pure .abort
  else if ← takeWord "fail" then pure .fail
  else if ← takeWord "rollback" then pure .rollback
  else unexpected

def upsert : Parse Upsert := do
  words ["conflict"]
  let targets ←
    if (← peek).any (·.isSymbol "(") then parenthesized (commas expression) else pure []
  word "do"
  if ← takeWord "nothing" then pure ⟨targets, none⟩
  else
    words ["update", "set"]
    pure ⟨targets, some (← commas assignment)⟩

/-- An insertion, after the words that say what it does about conflicts. -/
def insert (conflict : Conflict) : Parse Insert := do
  word "into"
  let table ← targetTable
  let columns ←
    if (← peek).any (·.isSymbol "(") then some <$> parenthesized (commas nameOrText) else pure none
  let rows ←
    if ← takeWord "default" then
      word "values"
      pure none
    else
      word "values"
      some <$> commas (parenthesized (commas expression))
  let upsert ← if rows.isSome then after "on" upsert else pure none
  let returning ← after "returning" (commas resultItem)
  pure { conflict, table, columns, rows, upsert, returning := returning.getD [] }

def update : Parse Update := do
  let table ← targetTable
  word "set"
  let assignments ← commas assignment
  pure { table, assignments, condition := ← after "where" expression }

def delete : Parse Delete := do
  word "from"
  let table ← targetTable
  pure { table, condition := ← after "where" expression }

/-- A literal with a sign, a literal in parentheses, or a name that stands for its text. -/
def defaultValue : Parse Datum := do
  match ← peek with
  | some { lexeme := .positional _, .. } => unexpected
  | some { lexeme := .named, .. } => unexpected
  | some t =>
      match t.name? with
      | some n => skip; pure (.ofText n)
      | none =>
          match ← prefixed 6 with
          | .literal d => pure d
          | _ => unexpected
  | none => unexpected

/-- The words of a declared type, which mean nothing here. -/
def typeWords : Nat → Parse Unit
  | 0 => pure ()
  | fuel + 1 => do
      if (← peek).any (·.name?.isSome) then
        skip
        typeWords fuel
      else pure ()

def reference : Parse Reference := do
  let table ← name
  if (← peek).any (·.isSymbol "(") then let _ ← parenthesized (commas name)
  if ← takeWord "deferrable" then
    if ← takeWord "initially" then
      word "deferred"
      pure ⟨table, true⟩
    else pure ⟨table, false⟩
  else pure ⟨table, false⟩

def constraints : Nat → ColumnDefinition → Parse ColumnDefinition
  | 0, c => pure c
  | fuel + 1, c => do
      if ← takeWord "primary" then
        word "key"
        let _ ← takeWord "autoincrement"
        constraints fuel { c with primaryKey := true }
      else if ← takeWord "unique" then constraints fuel { c with unique := true }
      else if ← takeWord "default" then constraints fuel { c with default := ← defaultValue }
      else if ← takeWord "references" then constraints fuel { c with reference := some (← reference) }
      else pure c

def columnDefinition : Parse ColumnDefinition := do
  let name ← nameOrText
  typeWords (← remaining)
  constraints (← remaining) { name }

/-- The end of a statement. -/
def endOfStatement : Parse Unit := do
  match ← peek with
  | none => pure ()
  | some t => if t.isSymbol ";" then skip else unexpected

/-- A step whose fault is kept for later. -/
def kept {α : Type} (item : Parse α) : Parse (Except Fault α) := fun r =>
  match item r with
  | .ok (a, r) => .ok (.ok a, r)
  | .error f => .ok (.error f, { r with rest := [] })

def tableDefinition : Parse TableDefinition := do
  word "table"
  let ifNotExists ← takeWord "if"
  if ifNotExists then words ["not", "exists"]
  match ← peek with
  | none => unexpected
  | some t =>
      let name ← nameOrText
      let columns ← kept do
        let columns ← parenthesized (commas columnDefinition)
        endOfStatement
        pure columns
      pure { name, ifNotExists, nameText := String.ofList t.text, nameOffset := t.offset, columns }

def transactionMode : Parse TransactionMode := do
  if ← takeWord "immediate" then pure .immediate
  else if ← takeWord "exclusive" then pure .exclusive
  else
    let _ ← takeWord "deferred"
    pure .deferred

def signedNumber : Parse Int := do
  let minus ← takeSymbol "-"
  if !minus then let _ ← takeSymbol "+"
  match ← peek with
  | some { lexeme := .integer n, .. } => skip; pure (if minus then -n else n)
  | _ => unexpected

def pragma : Parse (Pragma × Option Int) := do
  let p ←
    if ← takeWord "user_version" then pure Pragma.userVersion
    else if ← takeWord "foreign_keys" then pure Pragma.foreignKeys
    else unexpected
  if ← takeSymbol "=" then pure (p, some (← signedNumber)) else pure (p, none)

def statement : Parse Statement := do
  let ended (item : Parse Statement) : Parse Statement := do
    let s ← item
    endOfStatement
    pure s
  if ← takeWord "select" then ended (.select <$> selectFrom source)
  else if ← takeWord "insert" then
    ended do
      let conflict ← after "or" conflict
      .insert <$> insert (conflict.getD .abort)
  else if ← takeWord "replace" then ended (.insert <$> insert .replace)
  else if ← takeWord "update" then ended (.update <$> update)
  else if ← takeWord "delete" then ended (.delete <$> delete)
  else if ← takeWord "create" then .createTable <$> tableDefinition
  else if ← takeWord "pragma" then
    ended do
      let (p, value) ← pragma
      pure (.pragma p value)
  else if ← takeWord "begin" then
    ended do
      let mode ← transactionMode
      let _ ← takeWord "transaction"
      pure (.control (.begin mode))
  else if ← takeWord "commit" then
    ended do
      let _ ← takeWord "transaction"
      pure (.control .commit)
  else if ← takeWord "rollback" then
    ended do
      let _ ← takeWord "transaction"
      if ← takeWord "to" then
        let _ ← takeWord "savepoint"
        pure (.control (.rollbackTo (← nameOrText)))
      else pure (.control .rollback)
  else if ← takeWord "savepoint" then
    ended do pure (.control (.savepoint (← nameOrText)))
  else if ← takeWord "release" then
    ended do
      let _ ← takeWord "savepoint"
      pure (.control (.release (← nameOrText)))
  else unexpected

end Parse

/-- A statement that was read: with its parameters, and the tokens after it. -/
structure Parsed where
  statement : Statement
  parameters : Parameters
  rest : List Token

/-- The first statement of tokens; semicolons with nothing before them are passed over. -/
def parse (ts : List Token) : Except Fault Parsed :=
  match ts.dropWhile (·.isSymbol ";") with
  | [] => .ok ⟨.empty, {}, []⟩
  | ts => do
      let (statement, r) ← Parse.statement { rest := ts }
      .ok ⟨statement, r.parameters, r.rest⟩

/-- The statements of tokens, at most as many as `fuel`; nothing is read after a fault. -/
def statementsWithin : Nat → List Token → List (Except Fault Parsed)
  | 0, _ => []
  | fuel + 1, ts =>
      match parse ts with
      | .error fault => [.error fault]
      | .ok p =>
          match p.statement with
          | .empty => []
          | _ => .ok p :: statementsWithin fuel p.rest

/-- The statements of tokens, each of which takes one token at least. -/
def statements (ts : List Token) : List (Except Fault Parsed) := statementsWithin (ts.length + 1) ts

end TypedSql.Sql
