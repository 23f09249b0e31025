/-!
IEEE 754 binary64 values, kept as their bit patterns so that every NaN, both zeros and the
infinities stay apart. A finite value is `significand * 2 ^ scale` with its sign.
-/

namespace TypedSql

structure Binary64 where
  bits : UInt64
deriving DecidableEq, Repr

namespace Binary64

def isNegative (x : Binary64) : Bool := x.bits.toNat / Nat.pow 2 63 == 1

def exponentField (x : Binary64) : Nat := x.bits.toNat / Nat.pow 2 52 % 2048

def fractionField (x : Binary64) : Nat := x.bits.toNat % Nat.pow 2 52

def isNaN (x : Binary64) : Bool := x.exponentField == 2047 && x.fractionField != 0

def isInfinite (x : Binary64) : Bool := x.exponentField == 2047 && x.fractionField == 0

/-- The digits of a finite value before scaling; the hidden bit is absent below the normal range. -/
def significand (x : Binary64) : Nat :=
  if x.exponentField = 0 then x.fractionField else Nat.pow 2 52 + x.fractionField

/-- The power of two that scales the significand. -/
def scale (x : Binary64) : Int := max x.exponentField 1 - 1075

/-- The value below lies half as far away as the value above. -/
def isPowerOfTwo (x : Binary64) : Bool := x.fractionField == 0 && 1 < x.exponentField

/-- The order of the numbers, with both zeros equal; NaN is not a number to compare. -/
def order (x y : Binary64) : Ordering :=
  let key (z : Binary64) : Int :=
    let magnitude : Int := z.bits.toNat % Nat.pow 2 63
    if z.isNegative then -magnitude else magnitude
  compare (key x) (key y)

def ofMagnitude (negative : Bool) (magnitude : Nat) : Binary64 :=
  ⟨UInt64.ofNat (if negative then Nat.pow 2 63 + magnitude else magnitude)⟩

def negated (x : Binary64) : Binary64 := ofMagnitude (!x.isNegative) (x.bits.toNat % Nat.pow 2 63)

def infinite : Nat := 2047 * Nat.pow 2 52

/--
The value nearest to `numerator / denominator`, ties going to the even pattern. The quotient
is taken at the scale where it has 53 bits, and a carry out of the significand runs into the
exponent field.
-/
def ofRatio (negative : Bool) (numerator denominator : Nat) : Binary64 :=
  let at_ (q : Int) : Nat × Nat :=
    (numerator * Nat.pow 2 (-q).toNat, denominator * Nat.pow 2 q.toNat)
  let low : Int := max (numerator.log2 - denominator.log2 - 53 : Int) (-1074)
  let q := if (at_ low).1 / (at_ low).2 < Nat.pow 2 53 then low else low + 1
  let (n, d) := at_ q
  let rounded :=
    let half := 2 * (n % d)
    if half < d then n / d
    else if half > d then n / d + 1
    else n / d + n / d % 2
  ofMagnitude negative
    (if numerator = 0 then 0 else min ((q + 1074).toNat * Nat.pow 2 52 + rounded) infinite)

def ofInt (n : Int) : Binary64 := ofRatio (decide (n < 0)) n.natAbs 1

/--
The value nearest to `digits * 10 ^ exponent`. Beyond the exponents a finite value can have,
the answer is zero or infinite whatever the digits are.
-/
def ofDecimal (negative : Bool) (digits : Nat) (exponent : Int) : Binary64 :=
  let width : Int := digits.log2 / 3 + 1
  if digits = 0 ∨ exponent + width < -330 then ofMagnitude negative 0
  else if 310 < exponent then ofMagnitude negative infinite
  else ofRatio negative (digits * Nat.pow 10 exponent.toNat) (Nat.pow 10 (-exponent).toNat)

end Binary64

end TypedSql
