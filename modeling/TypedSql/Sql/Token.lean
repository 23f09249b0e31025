import TypedSql.Decimal.Binary64
import TypedSql.Text.Utf8

/-!
The tokens of SQL text as the engine reads it. `lexeme` says what begins at a character and how
many more characters belong to it, so a text is cut into tokens from left to right and no character
is lost: the tokens with the space after each are the text.
-/

namespace TypedSql.Sql

inductive Lexeme where
  /-- Blanks or a comment. -/
  | space
  /-- A keyword or a bare name. -/
  | word
  /-- A name in quotes, without them; in double quotes it may also be meant as text. -/
  | quotedName (name : List Char)
  | string (chars : List Char)
  | blob (bytes : List UInt8)
  | integer (n : Nat)
  | real (x : Binary64)
  /-- A question mark and the digits after it. -/
  | positional (digits : List Char)
  /-- A colon, at sign or dollar sign and a name. -/
  | named
  | symbol
  | illegal
deriving DecidableEq, Repr

def isWordChar (c : Char) : Bool := c.isAlphanum || c == '_' || c == '$' || 0x80 ≤ c.toNat

def isWordStart (c : Char) : Bool := c.isAlpha || c == '_' || 0x80 ≤ c.toNat

def isSpaceChar (c : Char) : Bool :=
  c == ' ' || c == '\t' || c == '\n' || c == '\x0c' || c == '\r'

def isHexChar (c : Char) : Bool :=
  c.isDigit || ('a' ≤ c && c ≤ 'f') || ('A' ≤ c && c ≤ 'F')

def hexDigitValue (c : Char) : Nat :=
  if c.isDigit then c.toNat - '0'.toNat else c.toLower.toNat - 'a'.toNat + 10

/-- How many characters come first that have a property. -/
def run (p : Char → Bool) (s : List Char) : Nat := (s.takeWhile p).length

/-- Text up to a closing mark, where the mark written twice stands for itself: the text and the
number of characters that it takes with the closing mark. -/
def closeQuoted (mark : Char) : List Char → Option (List Char × Nat)
  | [] => none
  | c :: cs =>
      if c = mark then
        match cs with
        | d :: ds =>
            if d = mark then (fun (s, n) => (mark :: s, n + 2)) <$> closeQuoted mark ds
            else some ([], 1)
        | [] => some ([], 1)
      else (fun (s, n) => (c :: s, n + 1)) <$> closeQuoted mark cs

/-- The length of a block comment after its first two characters. -/
def blockLength : List Char → Nat
  | '*' :: '/' :: _ => 2
  | _ :: cs => blockLength cs + 1
  | [] => 0

/-- The bytes of pairs of digits in base sixteen. -/
def pairBytes? : List Char → Option (List UInt8)
  | [] => some []
  | [_] => none
  | a :: b :: rest => (UInt8.ofNat (hexDigitValue a * 16 + hexDigitValue b) :: ·) <$> pairBytes? rest

/-- The number that digits write in a base. -/
def digitsNumber (base : Nat) (digits : List Char) : Nat :=
  digits.foldl (fun n c => n * base + hexDigitValue c) 0

def exponentLength : List Char → Nat
  | e :: s :: cs =>
      if e = 'e' ∨ e = 'E' then
        if s.isDigit then 1 + run Char.isDigit (s :: cs)
        else if (s = '+' ∨ s = '-') ∧ 0 < run Char.isDigit cs then 2 + run Char.isDigit cs
        else 0
      else 0
  | _ => 0

def exponentValue : List Char → Int
  | _ :: '-' :: digits => -(digitsNumber 10 digits : Int)
  | _ :: '+' :: digits => digitsNumber 10 digits
  | _ :: digits => digitsNumber 10 digits
  | [] => 0

/-- A number and its length; `s` begins with a digit, or with a point and a digit. -/
def number (s : List Char) : Lexeme × Nat :=
  let (lexeme, length) : Lexeme × Nat :=
    match s with
    | '0' :: x :: cs =>
        if (x = 'x' ∨ x = 'X') ∧ 0 < run isHexChar cs then
          (.integer (digitsNumber 16 (cs.takeWhile isHexChar)), 2 + run isHexChar cs)
        else decimal s
    | _ => decimal s
  let more := run isWordChar (s.drop length)
  if more = 0 then (lexeme, length) else (.illegal, length + more)
where
  decimal (s : List Char) : Lexeme × Nat :=
    let whole := s.takeWhile Char.isDigit
    let rest := s.drop whole.length
    let fraction := match rest with
      | '.' :: cs => cs.takeWhile Char.isDigit
      | _ => []
    let point := match rest with
      | '.' :: _ => 1 + fraction.length
      | _ => 0
    let exponent := (rest.drop point).take (exponentLength (rest.drop point))
    if point = 0 ∧ exponent = [] then (.integer (digitsNumber 10 whole), whole.length)
    else
      (.real (Binary64.ofDecimal false (digitsNumber 10 (whole ++ fraction))
          (exponentValue exponent - fraction.length)),
        whole.length + point + exponent.length)

/-- What begins at a character, and how many of the characters after it belong to it. -/
def lexeme (c : Char) (cs : List Char) : Lexeme × Nat :=
  let follows (d : Char) : Bool := cs.head? == some d
  if isSpaceChar c then (.space, run isSpaceChar cs)
  else if c = '-' ∧ follows '-' then (.space, run (· != '\n') cs)
  else if c = '/' ∧ follows '*' ∧ 1 < cs.length then (.space, 1 + blockLength (cs.drop 1))
  else if c = '\'' then
    match closeQuoted c cs with
    | some (s, n) => (.string s, n)
    | none => (.illegal, cs.length)
  else if c = '"' ∨ c = '\x60' then
    match closeQuoted c cs with
    | some (s, n) => (.quotedName s, n)
    | none => (.illegal, cs.length)
  else if c = '[' then
    let name := cs.takeWhile (· != ']')
    if name.length < cs.length then (.quotedName name, name.length + 1) else (.illegal, cs.length)
  else if c.isDigit ∨ c = '.' ∧ (cs.head?.map Char.isDigit).getD false then
    let (lexeme, length) := number (c :: cs)
    (lexeme, length - 1)
  else if c = '?' then (.positional (cs.takeWhile Char.isDigit), run Char.isDigit cs)
  else if c = ':' ∨ c = '@' ∨ c = '$' then
    (if run isWordChar cs = 0 then .illegal else .named, run isWordChar cs)
  else if (c = 'x' ∨ c = 'X') ∧ follows '\'' then
    let digits := (cs.drop 1).takeWhile isHexChar
    let after := cs.drop (1 + digits.length)
    match after.head?, pairBytes? digits with
    | some '\'', some bytes => (.blob bytes, digits.length + 2)
    | _, _ => (.illegal, min cs.length (2 + digits.length + run (· != '\'') after))
  else if isWordStart c then (.word, run isWordChar cs)
  else if c = '=' ∧ follows '=' ∨ c = '!' ∧ follows '=' ∨ c = '|' ∧ follows '|'
      ∨ c = '<' ∧ (follows '=' ∨ follows '>' ∨ follows '<')
      ∨ c = '>' ∧ (follows '=' ∨ follows '>') then
    (.symbol, 1)
  else if c ∈ ['(', ')', ';', ',', '.', '+', '-', '*', '/', '%', '=', '<', '>', '&', '|', '~'] then
    (.symbol, 0)
  else (.illegal, 0)

/-- A token: what it is, its text, the space after it and where it begins, counted in bytes. -/
structure Token where
  lexeme : Lexeme
  text : List Char
  space : List Char := []
  offset : Nat
deriving DecidableEq, Repr

/-- The lexemes of a text with their texts. -/
def lexemes : List Char → List (Lexeme × List Char)
  | [] => []
  | c :: cs => ((lexeme c cs).1, c :: cs.take (lexeme c cs).2) :: lexemes (cs.drop (lexeme c cs).2)
termination_by s => s.length
decreasing_by simp only [List.length_drop, List.length_cons]; omega

/-- Joins space to the token before it; space before the first token only moves its offset. -/
def joinSpace (offset : Nat) : List (Lexeme × List Char) → List Token
  | [] => []
  | (.space, text) :: rest => joinSpace (offset + byteLength text) rest
  | (lexeme, text) :: rest =>
      let space := (rest.takeWhile fun (l, _) => l == .space).flatMap (·.2)
      { lexeme, text, space, offset } :: joinSpace (offset + byteLength text) rest

/-- The tokens of a text, which a NUL character ends. -/
def tokens (sql : String) : List Token :=
  joinSpace 0 (lexemes (sql.toList.takeWhile (· != '\x00')))

end TypedSql.Sql
