import TypedSql.Calendar.Date
import TypedSql.Text.Blank
import TypedSql.Text.Utf8

/-!
Reading stored dates and times.

Dates and date-times are read field by field: blanks before a number are skipped, a year may
carry a sign and then take any number of digits, other numbers take one digit up to their
width. Timestamps have fixed columns up to the second and end in a zone offset.
-/

namespace TypedSql

inductive CalendarFault where
  | outOfRange
  | trailing
  | tooShort
  | invalid
deriving DecidableEq, Repr

def CalendarFault.message : CalendarFault → String
  | .outOfRange => "input is out of range"
  | .trailing => "trailing input"
  | .tooShort => "premature end of input"
  | .invalid => "input contains invalid characters"

/-- The outcome of reading; a reader of a front part also gives the rest of the text. -/
abbrev Reading := Except CalendarFault

/-- The largest number that a field can hold before its own range is looked at. -/
def maxField : Nat := 9223372036854775807

/-- The number in one to `most` digits at the front. -/
def readNumber (most : Nat) (s : List Char) : Reading (Nat × List Char) :=
  let digits := (s.take most).takeWhile Char.isDigit
  let value := digits.foldl (fun n c => n * 10 + (c.toNat - '0'.toNat)) 0
  if s.isEmpty then .error .tooShort
  else if digits.isEmpty then .error .invalid
  else if maxField < value then .error .outOfRange
  else .ok (value, s.drop digits.length)

/-- The number in one to `most` digits after any blanks. -/
def readField (most : Nat) (s : List Char) : Reading (Nat × List Char) := readNumber most (s.dropWhile isBlank)

/-- A field whose value lies between `low` and `high`. -/
def readBounded (low high most : Nat) (s : List Char) : Reading (Nat × List Char) := do
  let (n, s) ← readField most s
  if low ≤ n ∧ n ≤ high then .ok (n, s) else .error .outOfRange

/-- A year after any blanks: four digits, or a sign and any number of them. -/
def readYear (s : List Char) : Reading (Int × List Char) := do
  let s := s.dropWhile isBlank
  let (year, s) ← match s with
    | '-' :: r => (readNumber r.length r).map fun (n, r) => (-(n : Int), r)
    | '+' :: r => (readNumber r.length r).map fun (n, r) => ((n : Int), r)
    | _ => (readNumber 4 s).map fun (n, r) => ((n : Int), r)
  if -2147483648 ≤ year ∧ year ≤ 2147483647 then .ok (year, s) else .error .outOfRange

def readChar (c : Char) : List Char → Reading (List Char)
  | [] => .error .tooShort
  | d :: s => if d = c then .ok s else .error .invalid

/-- The digits of a fraction of a second, in nanoseconds; digits after the ninth are dropped. -/
def readFraction (s : List Char) : Reading (Nat × List Char) := do
  let (n, rest) ← readNumber 9 s
  .ok (n * Nat.pow 10 (9 - (s.length - rest.length)), rest.dropWhile Char.isDigit)

def readOptionalFraction (s : List Char) : Reading (Nat × List Char) :=
  match s with
  | '.' :: r => readFraction r
  | _ => .ok (0, s)

def readEnd (s : List Char) : Reading Unit :=
  if s.isEmpty then .ok () else .error .trailing

/-- A value that must exist. -/
def inRange {α : Type} : Option α → Reading α
  | some a => .ok a
  | none => .error .outOfRange

/-- Second 60 is second 59 with a further 10^9 nanoseconds. -/
def clockTime? (hour minute second nanosecond : Nat) : Option TimeOfDay :=
  if second = 60 then TimeOfDay.of? hour minute 59 (1000000000 + nanosecond)
  else TimeOfDay.of? hour minute second nanosecond

/-- Year, month and day of a date that need not exist. -/
def readDateFields (s : List Char) : Reading ((Int × Nat × Nat) × List Char) := do
  let (year, s) ← readYear s
  let s ← readChar '-' s
  let (month, s) ← readBounded 1 12 2 s
  let s ← readChar '-' s
  let (day, s) ← readBounded 1 31 2 s
  .ok ((year, month, day), s)

def Date.read (s : List Char) : Reading Date := do
  let ((year, month, day), s) ← readDateFields s
  readEnd s
  inRange (Date.of? year month day)

def DateTime.read (s : List Char) : Reading DateTime := do
  let ((year, month, day), s) ← readDateFields s
  let s := s.dropWhile isBlank
  let (hour, s) ← readBounded 0 23 2 s
  let s ← readChar ':' s
  let (minute, s) ← readBounded 0 59 2 s
  let s ← readChar ':' s
  let (second, s) ← readBounded 0 60 2 s
  let (nanosecond, s) ← readOptionalFraction s
  readEnd s
  let date ← inRange (Date.of? year month day)
  let time ← inRange (clockTime? hour minute second nanosecond)
  .ok ⟨date, time⟩

/-- Exactly `count` digits. -/
def readDigits (count : Nat) (s : List Char) : Reading (Nat × List Char) :=
  let digits := (s.take count).takeWhile Char.isDigit
  if digits.length < count then .error .invalid
  else .ok (digits.foldl (fun n c => n * 10 + (c.toNat - '0'.toNat)) 0, s.drop count)

/-- Exactly two digits of an offset; only their absence makes the text too short. -/
def readPair (s : List Char) : Reading ((Nat × Nat) × List Char) :=
  if byteLength s < 2 then .error .tooShort
  else match s with
    | a :: b :: r =>
        if a.isDigit && b.isDigit then
          .ok ((a.toNat - '0'.toNat, b.toNat - '0'.toNat), r)
        else .error .invalid
    | _ => .error .invalid

/-- A zone offset in seconds: the letter Z, or a sign, hours, a colon and minutes. -/
def readOffset (s : List Char) : Reading (Int × List Char) :=
  match s with
  | [] => .error .tooShort
  | sign :: r =>
      if sign = 'Z' ∨ sign = 'z' then .ok (0, r)
      else if sign = '+' ∨ sign = '-' ∨ sign = '\u2212' then do
        let ((h, h'), r) ← readPair r
        let r ← readChar ':' r
        let ((m, m'), r) ← readPair r
        if 6 ≤ m then .error .outOfRange
        else
          let seconds : Int := (h * 10 + h') * 3600 + (m * 10 + m') * 60
          .ok (if sign = '+' then seconds else -seconds, r)
      else .error .invalid

/-- The letter or blank between the date and the time of a timestamp. -/
def readSeparator : List Char → Reading (List Char)
  | [] => .error .tooShort
  | c :: s => if c = 'T' ∨ c = 't' ∨ c = ' ' then .ok s else .error .invalid

/-- A timestamp in any zone; an offset is less than a day. -/
def Timestamp.read (s : List Char) : Reading Timestamp := do
  if byteLength s < 19 then throw .tooShort
  let (year, s) ← readDigits 4 s
  let s ← readChar '-' s
  let (month, s) ← readDigits 2 s
  let s ← readChar '-' s
  let (day, s) ← readDigits 2 s
  let date ← inRange (Date.of? year month day)
  let s ← readSeparator s
  let (hour, s) ← readDigits 2 s
  let s ← readChar ':' s
  let (minute, s) ← readDigits 2 s
  let s ← readChar ':' s
  let (second, s) ← readDigits 2 s
  let (nanosecond, s) ← readOptionalFraction s
  let time ← inRange (clockTime? hour minute second nanosecond)
  let (offset, s) ← readOffset s
  readEnd s
  if offset.natAbs < 86400 then
    let local_ : DateTime := ⟨date, time⟩
    let utc ← inRange (DateTime.ofSeconds? (local_.seconds - offset) time.nanosecond)
    .ok ⟨utc⟩
  else .error .outOfRange

end TypedSql
