import TypedSql.Sql.Syntax

namespace TypedSql.Sql

/-- The tokens still to be read, and the parameters read so far. -/
structure Reader where
  rest : List Token
  parameters : Parameters := {}

/-- A step of parsing. -/
abbrev Parse (α : Type) := StateT Reader (Except Fault) α

/-- The words that are no names. -/
def reservedWords : List String :=
  ["add", "all", "alter", "and", "as", "autoincrement", "between", "case", "check", "collate",
    "commit", "constraint", "create", "default", "deferrable", "delete", "distinct", "drop", "else",
    "escape", "exists", "foreign", "from", "group", "having", "in", "index", "insert", "into", "is",
    "isnull", "join", "limit", "not", "nothing", "notnull", "null", "on", "or", "order", "primary",
    "references", "returning", "select", "set", "table", "then", "to", "transaction", "union",
    "unique", "update", "using", "values", "when", "where"]

namespace Token

/-- Whether the token is a word, in letters of any case. -/
def isWord (t : Token) (word : String) : Bool :=
  t.lexeme == .word && t.text.map Char.toLower == word.toList

def isSymbol (t : Token) (symbol : String) : Bool :=
  t.lexeme == .symbol && t.text == symbol.toList

/-- The name that the token is. -/
def name? (t : Token) : Option String :=
  match t.lexeme with
  | .quotedName name => some (String.ofList name)
  | .word =>
      let word := String.ofList (t.text.map Char.toLower)
      if word ∈ reservedWords then none else some (String.ofList t.text)
  | _ => none

/-- Whether the token is a name in double quotes. -/
def inDoubleQuotes (t : Token) : Bool := t.text.head? == some '"'

/-- The token as it is written, and the space after it. -/
def source (t : Token) : List Char := t.text ++ t.space

end Token

namespace Parse

/-- The fault of a token that cannot stand here; the end of the text is one too. -/
def faultAt : List Token → Fault
  | [] => ⟨.incompleteInput, none⟩
  | t :: _ =>
      let text := String.ofList t.text
      match t.lexeme with
      | .illegal => ⟨.unrecognizedToken text, some t.offset⟩
      | _ => ⟨.unexpectedToken text, some t.offset⟩

def unexpected {α : Type} : Parse α := fun r => .error (faultAt r.rest)

def peek : Parse (Option Token) := fun r => .ok (r.rest.head?, r)

def skip : Parse Unit := fun r => .ok ((), { r with rest := r.rest.drop 1 })

/-- Takes the next token if it has a property. -/
def takeIf (p : Token → Bool) : Parse Bool := do
  match ← peek with
  | some t => if p t then skip; pure true else pure false
  | none => pure false

def takeWord (word : String) : Parse Bool := takeIf (·.isWord word)

def takeSymbol (symbol : String) : Parse Bool := takeIf (·.isSymbol symbol)

def word (word : String) : Parse Unit := do
  if ← takeWord word then pure () else unexpected

def words (ws : List String) : Parse Unit := ws.forM word

def symbol (symbol : String) : Parse Unit := do
  if ← takeSymbol symbol then pure () else unexpected

def name : Parse String := do
  match (← peek).bind Token.name? with
  | some n => skip; pure n
  | none => unexpected

/-- A name, which a text in single quotes may be too. -/
def nameOrText : Parse String := do
  match ← peek with
  | some { lexeme := .string s, .. } => skip; pure (String.ofList s)
  | _ => name

/-- Takes a parameter token, and gives it its number. -/
def parameter (t : Token) : Parse Nat := fun r => do
  let (number, parameters) ← r.parameters.add t
  .ok (number, { rest := r.rest.drop 1, parameters })

/-- One or more things with commas between them. At most `fuel` of them are read. -/
def commaList {α : Type} (item : Parse α) : Nat → Parse (List α)
  | 0 => unexpected
  | fuel + 1 => do
      let a ← item
      if ← takeSymbol "," then
        pure (a :: (← commaList item fuel))
      else pure [a]

def remaining : Parse Nat := fun r => .ok (r.rest.length, r)

def commas {α : Type} (item : Parse α) : Parse (List α) := do
  commaList item (← remaining)

def parenthesized {α : Type} (item : Parse α) : Parse α := do
  symbol "("
  let a ← item
  symbol ")"
  pure a

/-- What a step reads and the text it takes, without the space at its end. -/
def withText {α : Type} (item : Parse α) : Parse (α × String) := fun r => do
  let (a, after) ← item r
  let taken := r.rest.take (r.rest.length - after.rest.length)
  let text := (taken.flatMap Token.source).reverse.dropWhile isSpaceChar
  .ok ((a, String.ofList text.reverse), after)

end Parse

end TypedSql.Sql
