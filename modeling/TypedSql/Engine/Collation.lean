import TypedSql.Engine.Datum

namespace TypedSql

/-- Whether two names are the same but for the case of ASCII letters. -/
def sameName (a b : String) : Bool := a.toList.map Char.toLower == b.toList.map Char.toLower

/-- A byte with a capital ASCII letter made small. -/
def foldByte (b : UInt8) : UInt8 := if 0x41 ≤ b ∧ b ≤ 0x5A then b + 0x20 else b

/-- A byte with a small ASCII letter made capital. -/
def raiseByte (b : UInt8) : UInt8 := if 0x61 ≤ b ∧ b ≤ 0x7A then b - 0x20 else b

/-- Bytes without the spaces at their end. -/
def trimSpaces (bytes : List UInt8) : List UInt8 := (bytes.reverse.dropWhile (· == 0x20)).reverse

namespace Comparison

def binary : Comparison := bytesOrder

def noCase : Comparison := fun a b => bytesOrder (a.map foldByte) (b.map foldByte)

def rightTrim : Comparison := fun a b => bytesOrder (trimSpaces a) (trimSpaces b)

/-- A comparison of characters, for bytes read as text. -/
def ofText (compareText : String → String → Ordering) : Comparison :=
  fun a b => compareText (utf8Text a) (utf8Text b)

end Comparison

structure NamedCollation where
  name : String
  compareText : Comparison

namespace NamedCollation

def binary : NamedCollation := ⟨"BINARY", .binary⟩

def builtin : List NamedCollation := [binary, ⟨"NOCASE", .noCase⟩, ⟨"RTRIM", .rightTrim⟩]

/-- The collation of a name among registered ones, the latest first, and those that are always
there. -/
def find? (registered : List NamedCollation) (name : String) : Option NamedCollation :=
  (registered ++ builtin).find? fun c => sameName c.name name

/-- Whether text is compared as unique columns compare it. -/
def isBinary (c : NamedCollation) : Bool := sameName c.name binary.name

end NamedCollation

end TypedSql
