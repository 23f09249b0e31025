/-!
White space: the White_Space property of Unicode, which is larger than the four blanks of
`Char.isWhitespace`.
-/

namespace TypedSql

/-- The ranges of white space, ends included. -/
def blankRanges : List (Nat × Nat) := [
  (0x9, 0xD), (0x20, 0x20), (0x85, 0x85), (0xA0, 0xA0), (0x1680, 0x1680), (0x2000, 0x200A),
  (0x2028, 0x2029), (0x202F, 0x202F), (0x205F, 0x205F), (0x3000, 0x3000)]

/-- A white-space character of any script. -/
def isBlank (c : Char) : Bool :=
  blankRanges.any fun (first, last) => first ≤ c.toNat && c.toNat ≤ last

/-- The first run of characters that are not blank, after any leading blanks. -/
def firstWord (s : List Char) : List Char :=
  (s.dropWhile isBlank).takeWhile fun c => !isBlank c

end TypedSql
