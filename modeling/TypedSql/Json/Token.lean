namespace TypedSql.Json

/-- A token. A string is kept as the numbers of its characters, with half of a surrogate pair as an
escape writes it. -/
inductive Token where
  | openBrace
  | closeBrace
  | openBracket
  | closeBracket
  | colon
  | comma
  | string (units : List Nat)
  | number (text : List Char)
  | word (text : List Char)
deriving DecidableEq, Repr

/-- What has been read of a token; lists hold the last character first. -/
inductive Pending where
  | none
  | number (chars : List Char)
  | word (chars : List Char)
  | string (units : List Nat)
  /-- A backslash inside a string. -/
  | escape (units : List Nat)
  /-- A four-digit escape inside a string. -/
  | hex (units : List Nat) (value digits : Nat)
deriving DecidableEq, Repr

def isNumberChar (c : Char) : Bool :=
  c.isDigit || c == '-' || c == '+' || c == '.' || c == 'e' || c == 'E'

/-- The value of a digit in base sixteen, in either case. -/
def hexValue? (c : Char) : Option Nat :=
  if c.isDigit then some (c.toNat - '0'.toNat)
  else if 'a' ≤ c ∧ c ≤ 'f' then some (c.toNat - 'a'.toNat + 10)
  else if 'A' ≤ c ∧ c ≤ 'F' then some (c.toNat - 'A'.toNat + 10)
  else none

/-- The character that a backslash and a letter stand for. -/
def escaped? : Char → Option Char
  | '"' => some '"'
  | '\\' => some '\\'
  | '/' => some '/'
  | 'b' => some '\x08'
  | 'f' => some '\x0c'
  | 'n' => some '\n'
  | 'r' => some '\r'
  | 't' => some '\t'
  | _ => none

namespace Pending

/-- Reads a character outside every token. -/
def start : Char → Option (List Token × Pending)
  | '\x7b' => some ([.openBrace], .none)
  | '\x7d' => some ([.closeBrace], .none)
  | '[' => some ([.openBracket], .none)
  | ']' => some ([.closeBracket], .none)
  | ':' => some ([.colon], .none)
  | ',' => some ([.comma], .none)
  | '"' => some ([], .string [])
  | c =>
      if c = ' ' ∨ c = '\t' ∨ c = '\n' ∨ c = '\r' then some ([], .none)
      else if c.isLower then some ([], .word [c])
      else if isNumberChar c then some ([], .number [c])
      else Option.none

/-- Gives a finished token and reads a character outside every token. -/
def flush (t : Token) (c : Char) : Option (List Token × Pending) := do
  let (tokens, pending) ← start c
  some (t :: tokens, pending)

def step : Pending → Char → Option (List Token × Pending)
  | .none, c => start c
  | .number chars, c =>
      if isNumberChar c then some ([], .number (c :: chars)) else flush (.number chars.reverse) c
  | .word chars, c =>
      if c.isLower then some ([], .word (c :: chars)) else flush (.word chars.reverse) c
  | .string units, c =>
      if c = '"' then some ([.string units.reverse], .none)
      else if c = '\\' then some ([], .escape units)
      else if c < ' ' then Option.none
      else some ([], .string (c.toNat :: units))
  | .escape units, c =>
      if c = 'u' then some ([], .hex units 0 0)
      else (fun d => ([], .string (d.toNat :: units))) <$> escaped? c
  | .hex units value digits, c => do
      let value := value * 16 + (← hexValue? c)
      if digits = 3 then some ([], .string (value :: units))
      else some ([], .hex units value (digits + 1))

/-- The token that the end of the text completes. -/
def finish : Pending → Option (List Token)
  | .none => some []
  | .number chars => some [.number chars.reverse]
  | .word chars => some [.word chars.reverse]
  | _ => Option.none

def tokens? : Pending → List Char → Option (List Token)
  | p, [] => p.finish
  | p, c :: cs => do
      let (tokens, p) ← p.step c
      some (tokens ++ (← p.tokens? cs))

end Pending

def tokens? (s : String) : Option (List Token) := Pending.none.tokens? s.toList

end TypedSql.Json
