import TypedSql.Text.Alphanumeric

/-!
The tokens of attribute text: words, literals, brackets and single marks.

Numbers are read in base ten, sixteen, eight or two with underscores and a type suffix; what a
token keeps is the number itself, or for a decimal its digits without underscores, suffix and
plus sign. Text literals are kept as the text that they denote.
-/

namespace TypedSql

inductive Token where
  | word (name : List Char)
  | integer (n : Nat)
  | decimal (digits : List Char)
  | text (value : List Char)
  /-- A character, byte or byte text literal, or a label. -/
  | other
  | opening (bracket : Char)
  | closing (bracket : Char)
  | mark (c : Char)
deriving DecidableEq, Repr

namespace Token

def startsWord (c : Char) : Bool := c == '_' || (isAlphanumeric c && !c.isDigit)

def continuesWord (c : Char) : Bool := c == '_' || isAlphanumeric c

/-- The rest of a text after a word that may follow a literal at once. -/
def dropSuffix : List Char → List Char
  | [] => []
  | c :: r => if startsWord c then r.dropWhile continuesWord else c :: r

/-- The value of a digit in any base up to sixteen. -/
def digitValue? (c : Char) : Option Nat :=
  if c.isDigit then some (c.toNat - '0'.toNat)
  else if 'a' ≤ c ∧ c ≤ 'f' then some (c.toNat - 'a'.toNat + 10)
  else if 'A' ≤ c ∧ c ≤ 'F' then some (c.toNat - 'A'.toNat + 10)
  else none

/-- Whether a character belongs to the digits of a number in a base. -/
def isDigitIn (base : Nat) (c : Char) : Bool :=
  c == '_' || (digitValue? c).any (· < base)

/-- The number that digits with underscores denote. -/
def numberIn (base : Nat) (digits : List Char) : Nat :=
  (digits.filterMap digitValue?).foldl (fun n d => n * base + d) 0

/-- A number in a base after its sign for that base; a decimal digit beyond the base is refused. -/
def readInteger (base : Nat) (s : List Char) : Option (Token × List Char) :=
  let digits := s.takeWhile (isDigitIn base)
  let rest := s.dropWhile (isDigitIn base)
  if (digits.filter (· != '_')).isEmpty || rest.head?.any Char.isDigit then none
  else some (.integer (numberIn base digits), dropSuffix rest)

/-- The exponent of a decimal with its letter, and what follows. -/
def readExponent : List Char → Option (List Char × List Char)
  | [] => none
  | e :: r =>
      if e = 'e' ∨ e = 'E' then
        let (sign, r) := match r with
          | '-' :: r => (['-'], r)
          | '+' :: r => ([], r)
          | r => ([], r)
        let digits := (r.takeWhile (isDigitIn 10)).filter (· != '_')
        if digits.isEmpty then none
        else some ('e' :: (sign ++ digits), r.dropWhile (isDigitIn 10))
      else none

/-- A decimal: digits with a point, an exponent or both. -/
def readDecimal (s : List Char) : Option (Token × List Char) :=
  let whole := (s.takeWhile (isDigitIn 10)).filter (· != '_')
  let rest := s.dropWhile (isDigitIn 10)
  let (fraction, rest) := match rest with
    | '.' :: r =>
        if r.head?.any (fun c => c == '.' || startsWord c) then ([], rest)
        else ('.' :: (r.takeWhile (isDigitIn 10)).filter (· != '_'), r.dropWhile (isDigitIn 10))
    | _ => ([], rest)
  match readExponent rest with
  | some (exponent, rest) => some (.decimal (whole ++ fraction ++ exponent), dropSuffix rest)
  | none => if fraction.isEmpty then none else some (.decimal (whole ++ fraction), dropSuffix rest)

def readNumber (s : List Char) : Option (Token × List Char) :=
  match s with
  | '0' :: 'x' :: r => readInteger 16 r
  | '0' :: 'o' :: r => readInteger 8 r
  | '0' :: 'b' :: r => readInteger 2 r
  | _ => (readDecimal s).orElse fun _ => readInteger 10 s

def charOfHex? (digits : List Char) : Option Char :=
  let code := numberIn 16 digits
  if digits.isEmpty || !digits.all (isDigitIn 16) then none
  else if code < 0xD800 ∨ 0xDFFF < code ∧ code < 0x110000 then some (Char.ofNat code)
  else none

/-- The character that a letter stands for after a backslash. -/
def simpleEscape? : Char → Option Char
  | 'n' => some '\n'
  | 'r' => some '\x0d'
  | 't' => some '\t'
  | '\\' => some '\\'
  | '0' => some '\x00'
  | '\'' => some '\''
  | '"' => some '"'
  | _ => none

/--
The text up to a closing quote, escapes replaced, and what follows the quote. A backslash at
the end of a line also takes the blanks of the next. The count bounds the characters read.
-/
def readText : Nat → List Char → Option (List Char × List Char)
  | 0, _ => none
  | _, [] => none
  | _ + 1, '"' :: r => some ([], r)
  | n + 1, '\\' :: 'x' :: a :: b :: r => do
      let c ← charOfHex? [a, b]
      let (chars, rest) ← readText n r
      some (c :: chars, rest)
  | n + 1, '\\' :: 'u' :: '\x7b' :: r => do
      let c ← charOfHex? (r.takeWhile (· != '\x7d'))
      let (chars, rest) ← readText n ((r.dropWhile (· != '\x7d')).drop 1)
      some (c :: chars, rest)
  | n + 1, '\\' :: '\n' :: r => readText n (r.dropWhile Char.isWhitespace)
  | n + 1, '\\' :: c :: r => do
      let c ← simpleEscape? c
      let (chars, rest) ← readText n r
      some (c :: chars, rest)
  | n + 1, c :: r => do
      let (chars, rest) ← readText n r
      some (c :: chars, rest)

/-- The text up to a quote and `hashes` number signs, with nothing replaced. -/
def readRawText (hashes : Nat) : List Char → Option (List Char × List Char)
  | [] => none
  | c :: r =>
      if c = '"' ∧ List.isPrefixOf (List.replicate hashes '#') r then some ([], r.drop hashes)
      else (readRawText hashes r).map fun (chars, rest) => (c :: chars, rest)

/-- Raw text after its letter: number signs, a quote and the text. -/
def readRaw? (s : List Char) : Option (List Char × List Char) :=
  let hashes := (s.takeWhile (· == '#')).length
  match s.drop hashes with
  | '"' :: r => readRawText hashes r
  | _ => none

/-- A character literal after its opening quote, or a label. -/
def readQuoted : List Char → Option (Token × List Char)
  | '\\' :: _ :: r => some (.other, (r.dropWhile (· != '\'')).drop 1)
  | _ :: '\'' :: r => some (.other, r)
  | c :: r => if startsWord c then some (.other, r.dropWhile continuesWord) else none
  | [] => none

/-- A text literal keeps its text only when it is no byte text. -/
def ofText (keep : Bool) : Option (List Char × List Char) → Option (Token × List Char)
  | some (chars, rest) => some (if keep then .text chars else .other, dropSuffix rest)
  | none => none

def readWord (s : List Char) : Option (Token × List Char) :=
  let word := (.word (s.takeWhile continuesWord), s.dropWhile continuesWord)
  match s with
  | 'b' :: '"' :: r | 'c' :: '"' :: r => ofText false (readText (r.length + 1) r)
  | 'b' :: '\'' :: r => readQuoted r
  | 'b' :: 'r' :: r | 'c' :: 'r' :: r =>
      match readRaw? r with
      | some found => ofText false (some found)
      | none => some word
  | 'r' :: r =>
      match readRaw? r, r with
      | some found, _ => ofText true (some found)
      | none, '#' :: name =>
          some (.word ('r' :: '#' :: name.takeWhile continuesWord), name.dropWhile continuesWord)
      | none, _ => some word
  | _ => some word

/-- The token that begins with a character which is not blank. -/
def read (c : Char) (r : List Char) : Option (Token × List Char) :=
  if c.isDigit then readNumber (c :: r)
  else if startsWord c then readWord (c :: r)
  else if c = '"' then ofText true (readText (r.length + 1) r)
  else if c = '\'' then readQuoted r
  else if c = '(' ∨ c = '[' ∨ c = '\x7b' then some (.opening c, r)
  else if c = ')' ∨ c = ']' ∨ c = '\x7d' then some (.closing c, r)
  else some (.mark c, r)

/-- The tokens of a text; the count bounds the characters read. -/
def readAll : Nat → List Char → Option (List Token)
  | 0, _ => some []
  | _, [] => some []
  | n + 1, c :: r =>
      if c.isWhitespace then readAll n r
      else do
        let (token, rest) ← read c r
        (token :: ·) <$> readAll n rest

/-- The tokens of a text, or nothing when it holds an unfinished or malformed literal. -/
def ofText? (s : String) : Option (List Token) := readAll s.toList.length s.toList

end Token

end TypedSql
