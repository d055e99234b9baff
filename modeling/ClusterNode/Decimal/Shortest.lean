import ClusterNode.Double

/-!
The shortest decimal of a double: on the coarsest grid of multiples of a power of ten that has a
point among the reals rounding to the double, the point nearest to it.
-/

set_option autoImplicit false

namespace ClusterNode

structure Decimal where
  digits : Nat
  exponent : Int
deriving DecidableEq, Repr

namespace Decimal

/-- The reals that round to a magnitude, as numerators over `2 ^ 1075`. -/
structure Interval where
  low : Nat
  centre : Nat
  high : Nat
  closed : Bool

/-- From the midpoint below a magnitude to the midpoint above it; an even significand wins ties. -/
def Interval.of (x : Magnitude) : Interval where
  low := Magnitude.unitsAt (x.val - 1) + x.units
  centre := 2 * x.units
  high := x.units + Magnitude.unitsAt (x.val + 1)
  closed := x.val % 2 = 0

def Interval.contains (i : Interval) (d : Decimal) : Bool :=
  let scaled := d.digits * tenTo d.exponent.toNat * twoTo 1075
  let unit := tenTo (-d.exponent).toNat
  if i.closed then i.low * unit ≤ scaled && scaled ≤ i.high * unit
  else i.low * unit < scaled && scaled < i.high * unit

/-- The two neighbours of the magnitude on the grid of multiples of `10 ^ exponent`, and whether the
lower one is the nearer; a tie goes to the even one. -/
def Interval.neighbours (i : Interval) (exponent : Int) : Decimal × Decimal × Bool :=
  let numerator := i.centre * tenTo (-exponent).toNat
  let denominator := twoTo 1075 * tenTo exponent.toNat
  let lower := numerator / denominator
  let twice := 2 * (numerator % denominator)
  (⟨lower, exponent⟩, ⟨lower + 1, exponent⟩,
    twice < denominator || (twice == denominator && lower % 2 == 0))

def Interval.onGrid? (i : Interval) (exponent : Int) : Option Decimal :=
  let (lower, upper, lowerIsNearer) := i.neighbours exponent
  match i.contains lower, i.contains upper with
  -- Where both round to the magnitude, the nearer one is taken.
  | true, true => some (if lowerIsNearer then lower else upper)
  | true, false => some lower
  | false, true => some upper
  | false, false => none

/-- The first grid with a point, from `exponent` down through `count` finer ones. -/
def Interval.search (i : Interval) : Nat → Int → Option Decimal
  | 0, _ => none
  | count + 1, exponent =>
    match i.onGrid? exponent with
    | some d => some d
    | none => i.search count (exponent - 1)

/-- An exponent whose power of ten is above a magnitude, and not by more than a factor of 100. -/
def exponentAbove (x : Magnitude) : Int :=
  let digitCount (n : Nat) : Int := (Nat.toDigits 10 n).length
  if twoTo 1074 ≤ x.units then digitCount (x.units / twoTo 1074)
  else 2 - digitCount (twoTo 1074 / x.units)

/-- The shortest decimal that rounds to a positive magnitude, and of those the nearest. Seventeen
digits always suffice; zero stands for itself. -/
def ofMagnitude (x : Magnitude) : Decimal :=
  if x.val = 0 then ⟨0, 0⟩
  else ((Interval.of x).search 20 (exponentAbove x)).getD ⟨0, 0⟩

end Decimal

end ClusterNode
