import TypedSql.Decimal.Shortest
import TypedSql.Text.Quoted

namespace TypedSql

inductive Stored where
  | integer (n : Int64)
  | real (x : Binary64)
  | text (s : String)
  | blob (bytes : List UInt8)
deriving DecidableEq, Repr

/-- A parameter's or a result column's content; `none` is `NULL`. -/
abbrev Cell := Option Stored

inductive StorageClass where
  | integer
  | real
  | text
  | blob
deriving DecidableEq, Repr

def StorageClass.name : StorageClass → String
  | .integer => "integer"
  | .real => "real"
  | .text => "text"
  | .blob => "blob"

def Stored.storageClass : Stored → StorageClass
  | .integer _ => .integer
  | .real _ => .real
  | .text _ => .text
  | .blob _ => .blob

/-- Bytes in dictionary order: the first difference decides, else the shorter comes first. -/
def bytesOrder : List UInt8 → List UInt8 → Ordering
  | [], [] => .eq
  | [], _ :: _ => .lt
  | _ :: _, [] => .gt
  | a :: as, b :: bs => (compare a b).then (bytesOrder as bs)

def hexDigit (n : Nat) : Char :=
  if n < 10 then Char.ofNat ('0'.toNat + n) else Char.ofNat ('A'.toNat + (n - 10))

def hexDigits : List UInt8 → List Char
  | [] => []
  | b :: bs => hexDigit (b.toNat / 16) :: hexDigit (b.toNat % 16) :: hexDigits bs

/-- A blob literal, `X'` and the bytes and a closing mark. -/
def blobLiteral (bytes : List UInt8) : String :=
  String.ofList ('X' :: '\'' :: (hexDigits bytes ++ ['\'']))

/--
A real literal. No literal denotes NaN, which is stored as `NULL`; a decimal too large for the
format denotes an infinity.
-/
def realLiteral (x : Binary64) : String :=
  if x.isNaN then "NULL"
  else if x.isInfinite then (if x.isNegative then "-9e999" else "9e999")
  else x.decimalText

/-- The literal that denotes a stored value. -/
def Stored.literal : Stored → String
  | .integer n => toString n.toInt
  | .real x => realLiteral x
  | .text s => quoteLiteral s
  | .blob bytes => blobLiteral bytes

def Cell.literal : Cell → String
  | none => "NULL"
  | some v => v.literal

end TypedSql
