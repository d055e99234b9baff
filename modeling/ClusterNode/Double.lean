import ClusterNode.Power

/-!
Finite binary64 numbers, computed exactly on natural numbers. A magnitude is kept as its position
among the finite magnitudes in increasing order, which is also its bit pattern; the smallest
positive one, `2 ^ (-1074)`, is the unit in which all of them are whole.
-/

set_option autoImplicit false

namespace ClusterNode

abbrev Magnitude := Fin (2047 * twoTo 52)

structure Double where
  negative : Bool
  magnitude : Magnitude
deriving DecidableEq, Repr

namespace Magnitude

/-- The value at a position, in units of `2 ^ (-1074)`. The position after the last one stands for
`2 ^ 1024`, as the spacing there would continue. -/
def unitsAt (position : Nat) : Nat :=
  if position < twoTo 52 then position
  else (position % twoTo 52 + twoTo 52) * twoTo (position / twoTo 52 - 1)

/-- The value in units of `2 ^ (-1074)`. -/
def units (x : Magnitude) : Nat :=
  unitsAt x.val

/-- The quotient rounded to the nearest whole number, halves to the even neighbour. -/
def roundHalfEven (numerator denominator : Nat) : Nat :=
  let quotient := numerator / denominator
  let twice := 2 * (numerator % denominator)
  if twice < denominator then quotient
  else if denominator < twice then quotient + 1
  else quotient + quotient % 2

/-- The magnitude nearest to a quotient of units, ties to the even significand; none at or above the
midpoint between the largest magnitude and `2 ^ 1024`. -/
def nearestUnits? (numerator denominator : Nat) : Option Magnitude :=
  let shift := Nat.log2 (numerator / denominator) - 52
  -- A significand that is rounded up to the next power of two is carried into the exponent.
  let position := shift * twoTo 52 + roundHalfEven numerator (denominator * twoTo shift)
  if h : position < 2047 * twoTo 52 then some ⟨position, h⟩ else none

/-- The magnitude nearest to a quotient; none where it overflows. -/
def nearest? (numerator denominator : Nat) : Option Magnitude :=
  nearestUnits? (numerator * twoTo 1074) denominator

/-- The rounded product; none where it overflows. -/
def mul? (x y : Magnitude) : Option Magnitude :=
  nearestUnits? (x.units * y.units) (twoTo 1074)

/-- The rounded quotient by a positive magnitude; none where it overflows. -/
def div? (x y : Magnitude) : Option Magnitude :=
  nearest? x.units y.units

def zero : Magnitude := ⟨0, by decide⟩

def pow10? (exponent : Nat) : Option Magnitude :=
  nearest? (tenTo exponent) 1

end Magnitude

namespace Double

/-- The sign bit and the position, as one 64-bit word. -/
def bits (x : Double) : UInt64 :=
  UInt64.ofNat (x.magnitude.val + if x.negative then twoTo 63 else 0)

/-- The exact value, in units of `2 ^ (-1074)`. -/
def units (x : Double) : Int :=
  if x.negative then -(x.magnitude.units : Int) else x.magnitude.units

def toInt? (x : Double) : Option Int :=
  if x.magnitude.units % twoTo 1074 = 0 then
    let whole : Int := (x.magnitude.units / twoTo 1074 : Nat)
    some (if x.negative then -whole else whole)
  else none

end Double

end ClusterNode
