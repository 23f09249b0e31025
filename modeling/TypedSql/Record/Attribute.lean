import TypedSql.Record.Token

namespace TypedSql

inductive DeriveError where
  | notRecord
  | unnamedFields
  | reservedField (name : String)
  | manyPrimaryKeys
  | bareTable
  | assignedTable
  | assignedColumn
  | tableName
  | unknownTableItem
  | columnName
  | unknownColumnItem
  | defaultNotLiteral
  | expectedEquals
  | expectedComma
  | expectedItem
  | literalItem
  | strayItem
  | expectedName
  | expectedExpression
  | unfinished
  | unreadable
deriving DecidableEq, Repr

def DeriveError.message : DeriveError → String
  | .notRecord => "Table derive only supports structs"
  | .unnamedFields => "Table derive only supports structs with named fields"
  | .reservedField name =>
      "field name \x60" ++ name ++ "\x60 collides with a generated table method"
  | .manyPrimaryKeys => "at most one column may be marked primary_key"
  | .bareTable => "expected attribute arguments in parentheses: #[table(...)]"
  | .assignedTable => "expected parentheses: #[table(...)]"
  | .assignedColumn => "expected parentheses: #[column(...)]"
  | .tableName => "table name must be a string literal"
  | .unknownTableItem => "unsupported table attribute"
  | .columnName => "column name must be a string literal"
  | .unknownColumnItem => "unsupported column attribute"
  | .defaultNotLiteral => "default must be a string, number or boolean literal"
  | .expectedEquals => "expected \x60=\x60"
  | .expectedComma => "expected \x60,\x60"
  | .expectedItem => "expected nested attribute"
  | .literalItem => "unexpected literal in nested attribute, expected ident"
  | .strayItem => "unexpected token in nested attribute, expected ident"
  | .expectedName => "expected identifier"
  | .expectedExpression => "expected an expression"
  | .unfinished => "unexpected end of input, expected an expression"
  | .unreadable => "cannot parse string into token stream"

/-- An expression as far as attributes look at it. -/
inductive Written where
  | text (value : String)
  | integer (n : Nat)
  | decimal (digits : String)
  | boolean (b : Bool)
  | negative (x : Written)
  | other
deriving DecidableEq, Repr

namespace Written

def text? : Written → Option String
  | .text value => some value
  | _ => none

/-- A default as SQL: text as it stands, numbers in base ten, and truth as one and zero. -/
def sql? : Written → Option String
  | .text value => some value
  | .integer n => some (toString n)
  | .decimal digits => some digits
  | .boolean b => some (if b then "1" else "0")
  | .negative x => x.sql?.map ("-" ++ ·)
  | .other => none

end Written

/-- What is left from the next comma outside brackets on. -/
def fromComma (depth : Nat) : List Token → List Token
  | [] => []
  | .opening _ :: r => fromComma (depth + 1) r
  | .closing _ :: r => fromComma (depth - 1) r
  | .mark c :: r => if c = ',' ∧ depth = 0 then .mark c :: r else fromComma depth r
  | _ :: r => fromComma depth r

/-- Whether a token carries on the expression before it. -/
def continuesExpression : List Token → Bool
  | .mark c :: r =>
      if c = '=' then r.head? = some (.mark '=')
      else "+-*/%^&|<>!.?".toList.contains c
  | .opening c :: _ => c = '(' || c = '['
  | .word w :: _ => w = "as".toList
  | _ => false

/-- A literal with what follows it; an expression that goes on is no literal. -/
def closeLiteral (x : Written) (rest : List Token) : Written × List Token :=
  if continuesExpression rest then (.other, fromComma 0 rest) else (x, rest)

def readExpression : List Token → Except DeriveError (Written × List Token)
  | [] => .error .unfinished
  | .text value :: r => .ok (closeLiteral (.text (String.ofList value)) r)
  | .integer n :: r => .ok (closeLiteral (.integer n) r)
  | .decimal digits :: r => .ok (closeLiteral (.decimal (String.ofList digits)) r)
  | .other :: r => .ok (closeLiteral .other r)
  | .word w :: r =>
      if w = "true".toList then .ok (closeLiteral (.boolean true) r)
      else if w = "false".toList then .ok (closeLiteral (.boolean false) r)
      else .ok (.other, fromComma 0 r)
  | .opening c :: r => .ok (.other, fromComma 0 (.opening c :: r))
  | .closing _ :: _ => .error .expectedExpression
  | .mark c :: r =>
      if c = '-' then do
        let (x, rest) ← readExpression r
        .ok (.negative x, rest)
      else if "!*&|<.:#".toList.contains c then .ok (.other, fromComma 0 r)
      else .error .expectedExpression

/-- The names of a path after its first, each behind two colons. -/
def readPathRest : List Token → Except DeriveError (List (List Char) × List Token)
  | .mark ':' :: .mark ':' :: .word w :: r => do
      let (names, rest) ← readPathRest r
      .ok (w :: names, rest)
  | .mark ':' :: .mark ':' :: _ => .error .expectedName
  | rest => .ok ([], rest)

/-- The path of an item; one behind two colons has an empty first name. -/
def readPath : List Token → Except DeriveError (List (List Char) × List Token)
  | .mark ':' :: .mark ':' :: .word w :: r => do
      let (names, rest) ← readPathRest r
      .ok ([] :: w :: names, rest)
  | .word w :: r => do
      let (names, rest) ← readPathRest r
      .ok (w :: names, rest)
  | [] => .error .expectedItem
  | .text _ :: _ | .integer _ :: _ | .decimal _ :: _ | .other :: _ => .error .literalItem
  | _ => .error .strayItem

def readAssigned : List Token → Except DeriveError (Written × List Token)
  | .mark '=' :: r => readExpression r
  | _ => .error .expectedEquals

/-- How the items of a kind of attribute change what is known so far. -/
abbrev Items (σ : Type) :=
  List (List Char) → σ → List Token → Except DeriveError (σ × List Token)

/-- Reads items separated by commas; the count bounds how many there are. -/
def readItems {σ : Type} (item : Items σ) : Nat → σ → List Token → Except DeriveError σ
  | 0, known, _ => .ok known
  | n + 1, known, tokens => do
      let (path, rest) ← readPath tokens
      let (known, rest) ← item path known rest
      match rest with
      | [] => .ok known
      | .mark ',' :: more => if more.isEmpty then .ok known else readItems item n known more
      | _ => .error .expectedComma

/-- An attribute: without arguments, with the text between its parentheses, or set to a value that
is never looked at. -/
inductive Attribute where
  | bare
  | list (arguments : String)
  | assigned
deriving DecidableEq, Repr

def readArguments {σ : Type} (item : Items σ) (known : σ) (arguments : String) :
    Except DeriveError σ :=
  match Token.ofText? arguments with
  | none => .error .unreadable
  | some [] => .ok known
  | some tokens => readItems item tokens.length known tokens

end TypedSql
