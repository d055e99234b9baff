import ClusterNode.Decimal.Shortest

/-!
Numbers of JSON text: the spelling of a literal, the number it denotes and the text a number is
written as. A literal without point and exponent that fits 64 bits is an integer; all others are
doubles.
-/

set_option autoImplicit false

namespace ClusterNode

/-- A number of a JSON value: an integer of 64 bits, unsigned or below zero, or a double. -/
inductive Number where
  | unsigned (n : UInt64)
  | negative (n : { n : Int64 // n < 0 })
  | double (x : Double)
deriving DecidableEq

namespace Number

def ofInt64 (n : Int64) : Number :=
  if h : n < 0 then .negative ⟨n, h⟩ else .unsigned n.toUInt64

def toUInt64? : Number → Option UInt64
  | .unsigned n => some n
  | _ => none

def toInt64? : Number → Option Int64
  | .unsigned n => if n.toNat < twoTo 63 then some n.toInt64 else none
  | .negative n => some n.val
  | .double _ => none

def digitsOf (n : Nat) : List Char :=
  Nat.toDigits 10 n

def intText (n : Int) : List Char :=
  if n < 0 then '-' :: digitsOf n.natAbs else digitsOf n.natAbs

/-- Writes a positive decimal. From `10 ^ (-5)` up to `10 ^ 16` it is positional, with at least one
digit after the point; beyond, it has one digit before the point and a signed exponent. -/
def decimalText (d : Decimal) : List Char :=
  let digits := digitsOf d.digits
  let leading := d.exponent + digits.length - 1
  if -5 ≤ leading ∧ leading < 16 then
    if 0 ≤ d.exponent then
      digits ++ List.replicate d.exponent.toNat '0' ++ ['.', '0']
    else if 0 ≤ leading then
      let whole := leading.toNat + 1
      digits.take whole ++ '.' :: digits.drop whole
    else
      '0' :: '.' :: (List.replicate (-leading - 1).toNat '0' ++ digits)
  else
    let fraction := digits.drop 1
    let point := if fraction.isEmpty then [] else '.' :: fraction
    let sign := if leading < 0 then '-' else '+'
    digits.take 1 ++ point ++ 'e' :: sign :: digitsOf leading.natAbs

/-- Text of a double: the shortest decimal that reads back; both zeros show their sign. -/
def doubleText (x : Double) : List Char :=
  let magnitude :=
    if x.magnitude.val = 0 then ['0', '.', '0'] else decimalText (Decimal.ofMagnitude x.magnitude)
  if x.negative then '-' :: magnitude else magnitude

def chars : Number → List Char
  | .unsigned n => digitsOf n.toNat
  | .negative n => intText n.val.toInt
  | .double x => doubleText x

end Number

structure Literal where
  negative : Bool
  whole : List Char
  fraction : List Char
  exponent : Option (Bool × List Char)
deriving DecidableEq

namespace Literal

def digitValue (c : Char) : Nat :=
  c.toNat - '0'.toNat

/-- Appends digits to a number as long as it stays within a limit. Gives the number and the digits
that were left. -/
def accumulate (limit : Nat) : Nat → List Char → Nat × List Char
  | n, [] => (n, [])
  | n, c :: rest =>
    if n * 10 + digitValue c ≤ limit then accumulate limit (n * 10 + digitValue c) rest
    else (n, c :: rest)

/-- The largest significand; further digits of a literal only move its point. -/
def significandLimit : Nat := UInt64.size - 1

/-- The largest exponent that is counted; a larger one means zero or overflow at once. -/
def exponentLimit : Nat := twoTo 31 - 1

/-- A whole significand scaled by a power of ten, in at most three correctly rounded operations: the
significand as a double, divided by `10 ^ 308` where the exponent is below `-308`, then multiplied
or divided by the double nearest to the remaining power. None on overflow. -/
def scale? (significand : Nat) (exponent : Int) : Option Magnitude :=
  (Magnitude.nearest? significand 1).bind fun x =>
    if 308 < exponent then
      -- No double is that large, and only zero stays as it is.
      if significand = 0 then some x else none
    else if 0 ≤ exponent then
      (Magnitude.pow10? exponent.toNat).bind x.mul?
    else if -308 ≤ exponent then
      (Magnitude.pow10? (-exponent).toNat).bind x.div?
    else if -616 ≤ exponent then
      ((Magnitude.pow10? 308).bind x.div?).bind fun y =>
        (Magnitude.pow10? (-exponent - 308).toNat).bind y.div?
    else some Magnitude.zero

/-- The number that a literal denotes; none if it is too large for a double. A significand takes
digits while it fits 64 bits: digits of the whole part that are left raise the exponent, digits of
the fraction that are left are dropped. -/
def value? (literal : Literal) : Option Number :=
  let (whole, surplus) := accumulate significandLimit 0 literal.whole
  if surplus.isEmpty ∧ literal.fraction.isEmpty ∧ literal.exponent.isNone then
    if !literal.negative then some (.unsigned (UInt64.ofNat whole))
    else if h : Int64.ofInt (-(whole : Int)) < 0 ∧ whole ≤ twoTo 63 then
      some (.negative ⟨Int64.ofInt (-(whole : Int)), h.1⟩)
    else
      -- A zero with a sign, or too small for a signed word.
      (Magnitude.nearest? whole 1).map fun x => .double ⟨true, x⟩
  else
    let (significand, rest) := accumulate significandLimit whole literal.fraction
    let point : Int := (surplus.length : Int) - (literal.fraction.length - rest.length : Nat)
    let magnitude? :=
      match literal.exponent with
      | none => scale? significand point
      | some (isNegative, digits) =>
        let (shift, unread) := accumulate exponentLimit 0 digits
        if unread.isEmpty then
          scale? significand (if isNegative then point - shift else point + shift)
        -- An exponent beyond the limit leaves zero or nothing.
        else if significand = 0 ∨ isNegative then some Magnitude.zero
        else none
    magnitude?.map fun x => .double ⟨literal.negative, x⟩

end Literal

end ClusterNode
