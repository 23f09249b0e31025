import TypedSql.Text.Alphanumeric

/-!
The lexical structure of SQL text, as far as finding its parameters needs it.

`scan` reads text one character at a time and yields its pieces: every character of code,
quoted text and comments as it stands, and each parameter token of the code as one piece.
`Mode.step` is the whole rule; a token is yielded by the first character that cannot
extend it, or by the end of the text.
-/

namespace TypedSql

inductive Parameter where
  /-- A question mark with the digits that follow it, if any. -/
  | positional (digits : List Char)
  /-- A colon, at sign or dollar sign and the name that follows it. -/
  | named (sigil : Char) (name : List Char)
deriving DecidableEq, Repr

def Parameter.text : Parameter → List Char
  | .positional digits => '?' :: digits
  | .named sigil name => sigil :: name

inductive Piece where
  | char (c : Char)
  | parameter (p : Parameter)
deriving DecidableEq, Repr

def Piece.text : Piece → List Char
  | .char c => [c]
  | .parameter p => p.text

/-- What has been read and not yet decided. -/
inductive Mode where
  | code
  /-- One dash: a second one opens a line comment. -/
  | dash
  /-- One slash: a star opens a block comment. -/
  | slash
  /-- A sigil that no name character has followed yet. -/
  | sigil (mark : Char)
  /-- A question mark and its digits so far. -/
  | number (digits : List Char)
  /-- A sigil and its name so far. -/
  | name (sigil : Char) (chars : List Char)
  /-- Text up to the given mark. -/
  | quoted (close : Char)
  /-- The closing mark has been read: a second one would stand for itself. -/
  | closing (close : Char)
  | lineComment
  | blockComment
  /-- A star inside a block comment: a slash closes it. -/
  | star
deriving DecidableEq, Repr

def isNameChar (c : Char) : Bool := isAlphanumeric c || c == '_'

/-- The kinds of text that lexical structure tells apart. -/
inductive Region where
  | code
  | quoted (close : Char)
  | lineComment
  | blockComment
deriving DecidableEq, Repr

namespace Mode

/-- The region that the next character is read in, unless that character decides otherwise. -/
def region : Mode → Region
  | .quoted close => .quoted close
  | .lineComment => .lineComment
  | .blockComment | .star => .blockComment
  | _ => .code

/-- Reads a character of code with nothing pending. -/
def start (c : Char) : List Piece × Mode :=
  if c = '?' then ([], .number [])
  else if c = ':' ∨ c = '@' ∨ c = '$' then ([], .sigil c)
  else
    ([.char c],
      if c = '\'' ∨ c = '"' ∨ c = '\x60' then .quoted c
      else if c = '[' then .quoted ']'
      else if c = '-' then .dash
      else if c = '/' then .slash
      else .code)

/-- Yields a pending piece and reads a character of code. -/
def flush (p : Piece) (c : Char) : List Piece × Mode :=
  let (pieces, mode) := start c
  (p :: pieces, mode)

def step : Mode → Char → List Piece × Mode
  | .code, c => start c
  | .dash, c => if c = '-' then ([.char c], .lineComment) else start c
  | .slash, c => if c = '*' then ([.char c], .blockComment) else start c
  | .sigil mark, c => if isNameChar c then ([], .name mark [c]) else flush (.char mark) c
  | .number digits, c =>
      if c.isDigit then ([], .number (digits ++ [c]))
      else flush (.parameter (.positional digits)) c
  | .name mark chars, c =>
      if isNameChar c then ([], .name mark (chars ++ [c]))
      else flush (.parameter (.named mark chars)) c
  | .quoted close, c =>
      ([.char c], if c ≠ close then .quoted close else if close = ']' then .code else .closing close)
  | .closing close, c => if c = close then ([.char c], .quoted close) else start c
  | .lineComment, c => ([.char c], if c = '\n' then .code else .lineComment)
  | .blockComment, c => ([.char c], if c = '*' then .star else .blockComment)
  | .star, c =>
      ([.char c], if c = '/' then .code else if c = '*' then .star else .blockComment)

/-- What is pending when the text ends. -/
def finish : Mode → List Piece
  | .sigil mark => [.char mark]
  | .number digits => [.parameter (.positional digits)]
  | .name mark chars => [.parameter (.named mark chars)]
  | _ => []

def after : Mode → List Char → Mode
  | m, [] => m
  | m, c :: cs => after (m.step c).2 cs

/-- The pieces that reading a text yields, without what is pending at its end. -/
def yields : Mode → List Char → List Piece
  | _, [] => []
  | m, c :: cs => (m.step c).1 ++ yields (m.step c).2 cs

theorem after_append (m : Mode) (s t : List Char) : m.after (s ++ t) = (m.after s).after t := by
  induction s generalizing m with
  | nil => rfl
  | cons c cs ih => simp [after, ih]

theorem yields_append (m : Mode) (s t : List Char) :
    m.yields (s ++ t) = m.yields s ++ (m.after s).yields t := by
  induction s generalizing m with
  | nil => rfl
  | cons c cs ih => simp [yields, after, ih]

end Mode

/-- The pieces of a text. -/
def scan (s : List Char) : List Piece := Mode.code.yields s ++ (Mode.code.after s).finish

end TypedSql
