import TypedSql.Decimal.Binary64

/-!
The fewest decimal digits that read back as a given binary64 value, nearest to it among those,
and their layout: positional from 0.0001 up to 10^16, with an exponent outside.

The reals that read back form the interval between the midpoints to the neighbouring values,
ends included when the significand is even. On each decimal grid only the two points around
the value need testing, so the first grid with a hit gives the digits. All comparisons are
between natural numbers.
-/

namespace TypedSql

/-- A decimal number `digits * 10 ^ exponent`. -/
structure Decimal where
  digits : Nat
  exponent : Int
deriving DecidableEq, Repr

namespace Decimal

def width (n : Nat) : Nat := (Nat.toDigits 10 n).length

/-- The exponent of the leading digit of `significand * 2 ^ scale`, for a scale of at least -1074. -/
def leading (significand : Nat) (scale : Int) : Int :=
  width (significand * Nat.pow 2 scale.toNat * Nat.pow 10 330 / Nat.pow 2 (-scale).toNat) - 331

/--
The grid point of step `10 ^ grid` that reads back as the value, the nearer one when both
neighbours do, and the upper one at a tie. Lengths are measured in quarters of the last
binary place.
-/
def onGrid (x : Binary64) (grid : Int) : Option Nat :=
  let quarters := x.scale - 2
  let step := Nat.pow 10 grid.toNat * Nat.pow 2 (-quarters).toNat
  let unit := Nat.pow 2 quarters.toNat * Nat.pow 10 (-grid).toNat
  let value := 4 * x.significand * unit
  let low := (4 * x.significand - if x.isPowerOfTwo then 1 else 2) * unit
  let high := (4 * x.significand + 2) * unit
  let within (p : Nat) : Bool :=
    if x.significand % 2 = 0 then low ≤ p && p ≤ high else low < p && p < high
  let below := value / step
  let above := below + 1
  match within (below * step), within (above * step) with
  | true, true => some (if 2 * value < (below + above) * step then below else above)
  | true, false => some below
  | false, true => some above
  | false, false => none

/-- The shortest decimal that reads back as a finite value other than zero. -/
def shortest (x : Binary64) : Decimal :=
  let top := leading x.significand x.scale
  let found := (List.range 17).findSome? fun (k : Nat) =>
    let grid := top - k
    (onGrid x grid).map fun d => ⟨d, grid⟩
  found.getD ⟨0, 0⟩

/-- The digits without trailing zeros, as text. -/
def trimmed (d : Decimal) : List Char :=
  ((Nat.toDigits 10 d.digits).reverse.dropWhile (· == '0')).reverse

def magnitude (d : Decimal) : Int := d.exponent + width d.digits - 1

/-- A leading exponent `e` is written positionally when `-4 ≤ e < 16`. -/
def isPositional (e : Int) : Bool := -4 ≤ e && e < 16

/-- Digits with the point after the first, then the exponent of the leading digit. -/
def scientific (digits : List Char) (e : Int) : List Char :=
  let fraction := digits.drop 1
  digits.take 1 ++ (if fraction.isEmpty then [] else '.' :: fraction) ++ 'e' :: (toString e).toList

/-- Digits padded with zeros to the point, and at least one digit on either side of it. -/
def positional (digits : List Char) (e : Int) : List Char :=
  if e < 0 then
    "0.".toList ++ List.replicate (-e - 1).toNat '0' ++ digits
  else
    let whole := e.toNat + 1
    let fraction := digits.drop whole
    digits.take whole ++ List.replicate (whole - digits.length) '0' ++ '.' ::
      (if fraction.isEmpty then ['0'] else fraction)

end Decimal

/-- A finite value in the fewest digits that read back. -/
def Binary64.decimalText (x : Binary64) : String :=
  let body :=
    if x.significand = 0 then "0.0".toList
    else
      let d := Decimal.shortest x
      if Decimal.isPositional d.magnitude then Decimal.positional d.trimmed d.magnitude
      else Decimal.scientific d.trimmed d.magnitude
  String.ofList (if x.isNegative then '-' :: body else body)

end TypedSql
