/-!
Text as bytes. Writing gives the bytes of each character in turn; reading replaces each longest
run of bytes that begins a character and does not complete one by U+FFFD.
-/

namespace TypedSql

def utf8Bytes (s : String) : List UInt8 := s.toList.flatMap String.utf8EncodeChar

def byteLength : List Char → Nat
  | [] => 0
  | c :: cs => c.utf8Size + byteLength cs

/-- Whether a byte can follow the first one of a character. -/
def isContinuation (b : UInt8) : Bool := 0x80 ≤ b && b ≤ 0xBF

/-- How many bytes a character has whose first byte this is, if it is not one alone. -/
def utf8Length? (first : UInt8) : Option Nat :=
  if 0xC2 ≤ first ∧ first ≤ 0xDF then some 2
  else if 0xE0 ≤ first ∧ first ≤ 0xEF then some 3
  else if 0xF0 ≤ first ∧ first ≤ 0xF4 then some 4
  else none

/-- Whether the second byte fits the first: no longer form than needed, no surrogate, and nothing
past the last character. -/
def isSecond (first second : UInt8) : Bool :=
  if first = 0xE0 then 0xA0 ≤ second && second ≤ 0xBF
  else if first = 0xED then 0x80 ≤ second && second ≤ 0x9F
  else if first = 0xF0 then 0x90 ≤ second && second ≤ 0xBF
  else if first = 0xF4 then 0x80 ≤ second && second ≤ 0x8F
  else isContinuation second

/-- The bytes of a character after the first, as far as they are there; at most `need` of them. -/
def continuation (first : UInt8) (need : Nat) (rest : List UInt8) : List UInt8 :=
  match need, rest with
  | n + 1, second :: rest =>
      if isSecond first second then second :: (rest.take n).takeWhile isContinuation else []
  | _, _ => []

/-- The character that a first byte begins, and how many bytes of the rest belong to it. -/
def utf8Char (first : UInt8) (rest : List UInt8) : Char × Nat :=
  if first < 0x80 then (Char.ofNat first.toNat, 0)
  else
    match utf8Length? first with
    | none => ('\ufffd', 0)
    | some length =>
        let more := continuation first (length - 1) rest
        if more.length = length - 1 then
          let lead := first.toNat % Nat.pow 2 (7 - length)
          (Char.ofNat (more.foldl (fun n b => n * 64 + b.toNat % 64) lead), more.length)
        else ('\ufffd', more.length)

/-- The characters that bytes stand for. -/
def utf8Chars : List UInt8 → List Char
  | [] => []
  | first :: rest =>
      (utf8Char first rest).1 :: utf8Chars (rest.drop (utf8Char first rest).2)
termination_by bytes => bytes.length
decreasing_by simp only [List.length_drop, List.length_cons]; omega

def utf8Text (bytes : List UInt8) : String := String.ofList (utf8Chars bytes)

end TypedSql
