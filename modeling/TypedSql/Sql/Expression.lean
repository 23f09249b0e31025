import TypedSql.Sql.Reader

/-!
Expressions in text. Operators bind, from the loosest: `OR`; `AND`; `NOT`; one level of equality
and membership; the orderings; bit operators and shifts; sums; products; `||`; `COLLATE`; signs and
`~`. All are read from left to right, and an operand is as long as its operator allows.
-/

namespace TypedSql.Sql

/-- The levels of binding, from the loosest. -/
inductive Level where
  | or
  | and
  | not
  | equality
  | ordering
  | bits
  | sums
  | products
  | concat
  | collate
  | sign
deriving DecidableEq, Repr

def Level.rank : Level → Nat
  | .or => 0
  | .and => 1
  | .not => 2
  | .equality => 3
  | .ordering => 4
  | .bits => 5
  | .sums => 6
  | .products => 7
  | .concat => 8
  | .collate => 9
  | .sign => 10

/-- The level at which a binary operator binds. -/
def operatorLevel : BinaryOperator → Level
  | .or => .or
  | .and => .and
  | .equal | .notEqual | .like | .glob | .matches => .equality
  | .less | .lessEqual | .greater | .greaterEqual => .ordering
  | .bitAnd | .bitOr | .shiftLeft | .shiftRight => .bits
  | .add | .subtract => .sums
  | .multiply | .divide | .remainder => .products
  | .concat => .concat

/-- The binary operators with their spellings. -/
def binarySpellings : List (String × BinaryOperator) :=
  [("or", .or), ("and", .and), ("=", .equal), ("==", .equal), ("!=", .notEqual), ("<>", .notEqual),
    ("<", .less), ("<=", .lessEqual), (">", .greater), (">=", .greaterEqual), ("&", .bitAnd),
    ("|", .bitOr), ("<<", .shiftLeft), (">>", .shiftRight), ("+", .add), ("-", .subtract),
    ("*", .multiply), ("/", .divide), ("%", .remainder), ("||", .concat), ("like", .like),
    ("glob", .glob), ("match", .matches)]

/-- What may follow a finished operand. -/
inductive Infix where
  | binary (op : BinaryOperator)
  | is
  | isNull
  | notNull
  | not
  | between
  | inList
  | collate
deriving DecidableEq, Repr

def Infix.level : Infix → Level
  | .binary op => operatorLevel op
  | .collate => .collate
  | _ => .equality

/-- The operator that a token is between operands. -/
def Token.infix? (t : Token) : Option Infix :=
  if t.lexeme = .word ∨ t.lexeme = .symbol then
    match String.ofList (t.text.map Char.toLower) with
    | "is" => some .is
    | "isnull" => some .isNull
    | "notnull" => some .notNull
    | "not" => some .not
    | "between" => some .between
    | "in" => some .inList
    | "collate" => some .collate
    | spelling => (binarySpellings.lookup spelling).map .binary
  else none

/-- A minus sign before an operand. Before a number it makes the number negative. -/
def negated : Expr → Expr
  | .literal (.integer n) => .literal (.ofInt (-n.toInt))
  | .literal (.real x) => .literal (.real x.negated)
  | x => .unary .negate x

namespace Parse

mutual

/-- An expression whose operators bind no looser than a level. -/
def operand : Nat → Nat → Parse Expr
  | 0, _ => unexpected
  | fuel + 1, level => do
      let x ← prefixed fuel
      operators fuel level x

/-- The operators that follow an operand, as long as they bind no looser than a level. -/
def operators : Nat → Nat → Expr → Parse Expr
  | 0, _, x => pure x
  | fuel + 1, level, x => do
      match (← peek).bind Token.infix? with
      | none => pure x
      | some op =>
          if op.level.rank < level then pure x
          else
            skip
            let right (n : Nat) : Parse Expr := operand fuel n
            let equality := Level.equality.rank + 1
            let y ← match op with
              | .binary .like => do
                  let p ← right equality
                  if ← takeWord "escape" then pure (.likeEscape x p (← right equality))
                  else pure (.binary .like x p)
              | .binary op => do pure (.binary op x (← right ((operatorLevel op).rank + 1)))
              | .is => do
                  if ← takeWord "not" then pure (.same true x (← right equality))
                  else pure (.same false x (← right equality))
              | .isNull => pure (.isNull false x)
              | .notNull => pure (.isNull true x)
              | .between => between fuel false x
              | .inList => do pure (.inList false x (← items fuel))
              | .collate => do pure (.collate x (← nameOrText))
              | .not => do
                  if ← takeWord "null" then pure (.isNull true x)
                  else if ← takeWord "between" then between fuel true x
                  else if ← takeWord "in" then pure (.inList true x (← items fuel))
                  else if ← takeWord "like" then do
                    let p ← right equality
                    if ← takeWord "escape" then
                      pure (.unary .not (.likeEscape x p (← right equality)))
                    else pure (.unary .not (.binary .like x p))
                  else if ← takeWord "glob" then
                    pure (.unary .not (.binary .glob x (← right equality)))
                  else if ← takeWord "match" then
                    pure (.unary .not (.binary .matches x (← right equality)))
                  else unexpected
            operators fuel level y

def between : Nat → Bool → Expr → Parse Expr
  | 0, _, _ => unexpected
  | fuel + 1, negated, x => do
      let low ← operand fuel Level.not.rank
      word "and"
      let high ← operand fuel (Level.equality.rank + 1)
      pure (.between negated x low high)

def items : Nat → Parse (List Expr)
  | 0 => unexpected
  | fuel + 1 => do
      symbol "("
      if ← takeSymbol ")" then pure []
      else
        let xs ← list fuel
        symbol ")"
        pure xs

def list : Nat → Parse (List Expr)
  | 0 => unexpected
  | fuel + 1 => do
      let x ← operand fuel 0
      if ← takeSymbol "," then pure (x :: (← list fuel)) else pure [x]

/-- An operand with the signs before it. -/
def prefixed : Nat → Parse Expr
  | 0 => unexpected
  | fuel + 1 => do
      if ← takeWord "not" then pure (.unary .not (← operand fuel Level.not.rank))
      else if ← takeSymbol "-" then
        match ← peek with
        | some { lexeme := .integer n, .. } => skip; pure (.literal (.ofInt (-n)))
        | _ => pure (negated (← operand fuel Level.sign.rank))
      else if ← takeSymbol "+" then operand fuel Level.sign.rank
      else if ← takeSymbol "~" then pure (.unary .complement (← operand fuel Level.sign.rank))
      else if ← takeSymbol "(" then do
        let x ← operand fuel 0
        symbol ")"
        pure x
      else if ← takeWord "null" then pure (.literal .null)
      else
        match ← peek with
        | none => unexpected
        | some t =>
            match t.lexeme with
            | .integer n => skip; pure (.literal (.ofInt n))
            | .real x => skip; pure (.literal (.real x))
            | .string s => skip; pure (.literal (.ofText (String.ofList s)))
            | .blob bytes => skip; pure (.literal (.blob bytes))
            | .positional _ | .named => do pure (.parameter (← parameter t))
            | _ =>
                match t.name? with
                | none => unexpected
                | some name => skip; named fuel t name

/-- What a name begins: a call, a cast, a column of a table, or a column. -/
def named : Nat → Token → String → Parse Expr
  | 0, _, _ => unexpected
  | fuel + 1, t, name => do
      if ← takeSymbol "(" then
        if t.isWord "cast" then do
          let x ← operand fuel 0
          word "as"
          let type ← Parse.name
          symbol ")"
          pure (.cast x type)
        else if ← takeSymbol "*" then
          symbol ")"
          pure (.callStar name t.offset)
        else if ← takeSymbol ")" then pure (.call name false [] t.offset)
        else
          let distinct ← takeWord "distinct"
          let xs ← list fuel
          symbol ")"
          pure (.call name distinct xs t.offset)
      else if ← takeSymbol "." then
        pure (.name (some name) (← Parse.name) false t.offset)
      else pure (.name none name t.inDoubleQuotes t.offset)

end

/-- An expression. Each token is read at most at four depths of the grammar, which bounds how deep
the reading goes. -/
def expression : Parse Expr := do
  operand (4 * (← remaining) + 4) 0

end Parse

end TypedSql.Sql
