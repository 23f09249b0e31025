import TypedSql.Decimal.Arithmetic
import TypedSql.Stored
import TypedSql.Text.Utf8

/-!
The values that the engine computes with. They differ from cells in two ways: text is any run of
bytes, because a blob may be cast to text, and no value is NaN, which becomes `NULL` on the way in.
-/

namespace TypedSql

inductive Datum where
  | null
  | integer (n : Int64)
  | real (x : Binary64)
  | text (bytes : List UInt8)
  | blob (bytes : List UInt8)
deriving DecidableEq, Repr

/-- How two texts compare, as bytes. -/
abbrev Comparison := List UInt8 → List UInt8 → Ordering

namespace Datum

/-- A real, unless it is NaN. -/
def ofReal (x : Binary64) : Datum := if x.isNaN then .null else .real x

def ofCell : Cell → Datum
  | none => .null
  | some (.integer n) => .integer n
  | some (.real x) => ofReal x
  | some (.text s) => .text (utf8Bytes s)
  | some (.blob bytes) => .blob bytes

def cell : Datum → Cell
  | .null => none
  | .integer n => some (.integer n)
  | .real x => some (.real x)
  | .text bytes => some (.text (utf8Text bytes))
  | .blob bytes => some (.blob bytes)

def ofText (s : String) : Datum := .text (utf8Bytes s)

def isNull : Datum → Bool
  | .null => true
  | _ => false

/-- An integer, or the nearest real where 64 bits do not hold it. -/
def ofInt (n : Int) : Datum :=
  if Int64.minValue.toInt ≤ n ∧ n ≤ Int64.maxValue.toInt then .integer (Int64.ofInt n)
  else .real (Binary64.ofInt n)

def ofBool (b : Bool) : Datum := .integer (if b then 1 else 0)

/-- A truth value, or `NULL` where it is unknown. -/
def ofTruth : Option Bool → Datum
  | none => .null
  | some b => ofBool b

/-- Whether a value counts as true; `NULL` is unknown, and text and blobs are no numbers. -/
def truth : Datum → Option Bool
  | .null => none
  | .integer n => some (n != 0)
  | .real x => some (x.order ⟨0⟩ != .eq)
  | .text _ | .blob _ => some false

def isInteger : Datum → Bool
  | .integer _ => true
  | _ => false

/-- A number as a real. -/
def real? : Datum → Option Binary64
  | .integer n => some (.ofInt n.toInt)
  | .real x => some x
  | _ => none

/-- A number as an integer. -/
def integer? : Datum → Option Int64
  | .integer n => some n
  | .real x => some x.truncated
  | _ => none

def className : Datum → String
  | .null => "null"
  | .integer _ => "integer"
  | .real _ => "real"
  | .text _ => "text"
  | .blob _ => "blob"

def rank : Datum → Nat
  | .null => 0
  | .integer _ | .real _ => 1
  | .text _ => 2
  | .blob _ => 3

/-- An integer and a real by size: the integer is compared with the nearest real first, and with
the integer that this real is where the two are the same. -/
def integerRealOrder (n : Int64) (x : Binary64) : Ordering :=
  let near := Binary64.ofInt n.toInt
  (near.order x).then
    (compare n.toInt
      (let size := ((near.significand * Nat.pow 2 near.scale.toNat / Nat.pow 2 (-near.scale).toNat : Nat) : Int)
       if near.isNegative then -size else size))

/-- The order of values: by class, then numbers by size, text as the comparison says and blobs by
bytes. -/
def order (compareText : Comparison) : Datum → Datum → Ordering
  | .integer a, .integer b => compare a.toInt b.toInt
  | .real a, .real b => a.order b
  | .integer a, .real b => integerRealOrder a b
  | .real a, .integer b => (integerRealOrder b a).swap
  | .text a, .text b => compareText a b
  | .blob a, .blob b => bytesOrder a b
  | a, b => compare a.rank b.rank

/-- The bytes of a value as text, which `NULL` has none of. -/
def textBytes : Datum → Option (List UInt8)
  | .null => none
  | .integer n => some (utf8Bytes (toString n.toInt))
  | .real x => some (utf8Bytes (realLiteral x))
  | .text bytes | .blob bytes => some bytes

end Datum

end TypedSql
