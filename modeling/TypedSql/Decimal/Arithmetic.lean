import TypedSql.Decimal.Binary64

/-!
Arithmetic on binary64 values. A finite value is a whole number of the smallest positive ones, so a
result is worked out exactly and rounded once. Infinities that leave the result open have none.
-/

namespace TypedSql

namespace Binary64

def isZero (x : Binary64) : Bool := x.bits.toNat % Nat.pow 2 63 == 0

/-- A finite value as a number of the smallest positive ones, of which 2 ^ 1074 make one. -/
def units (x : Binary64) : Int :=
  let size : Nat := x.significand * Nat.pow 2 (x.scale + 1074).toNat
  if x.isNegative then -size else size

/-- The sum; a sum of zero is negative only where both values are. -/
def add (x y : Binary64) : Option Binary64 :=
  if x.isInfinite then
    if y.isInfinite && x.isNegative != y.isNegative then none else some x
  else if y.isInfinite then some y
  else
    let sum := x.units + y.units
    let negative := if sum = 0 then x.isNegative && y.isNegative else sum < 0
    some (ofRatio negative sum.natAbs (Nat.pow 2 1074))

def subtract (x y : Binary64) : Option Binary64 := x.add y.negated

def multiply (x y : Binary64) : Option Binary64 :=
  let negative := x.isNegative != y.isNegative
  if x.isInfinite || y.isInfinite then
    if x.isZero || y.isZero then none else some (ofMagnitude negative infinite)
  else some (ofRatio negative (x.units * y.units).natAbs (Nat.pow 2 2148))

/-- The quotient by a value that is not zero. -/
def divide (x y : Binary64) : Option Binary64 :=
  let negative := x.isNegative != y.isNegative
  if x.isInfinite then if y.isInfinite then none else some (ofMagnitude negative infinite)
  else if y.isInfinite then some (ofMagnitude negative 0)
  else some (ofRatio negative x.units.natAbs y.units.natAbs)

/-- The value without its fraction, or the nearest integer of 64 bits where there are more. -/
def truncated (x : Binary64) : Int64 :=
  if x.isInfinite then if x.isNegative then Int64.minValue else Int64.maxValue
  else
    let whole := x.units.tdiv (Nat.pow 2 1074)
    Int64.ofInt (max Int64.minValue.toInt (min whole Int64.maxValue.toInt))

end Binary64

end TypedSql
