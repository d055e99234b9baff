import ClusterNode.Double
import Mathlib.Algebra.Order.Field.Power
import Mathlib.Data.Rat.Cast.Order
import Mathlib.Order.Monotone.Basic
import Mathlib.Tactic.FieldSimp
import Mathlib.Tactic.NormNum
import Mathlib.Tactic.Push
import Mathlib.Tactic.Ring

/-!
The exact values of doubles: what their sign, exponent and fraction denote, and that different
magnitudes have different values.
-/

set_option autoImplicit false

namespace ClusterNode

private theorem twoTo_pos (k : ℕ) : 0 < twoTo k := Nat.two_pow_pos k

private theorem zpow_sub_eq_div_twoTo (k l : ℕ) :
    (2 : ℚ) ^ ((k : ℤ) - l) = 2 ^ k / (twoTo l : ℕ) := by
  rw [zpow_sub₀ two_ne_zero, zpow_natCast, zpow_natCast]
  exact congrArg _ (Nat.cast_pow 2 l).symm

namespace Magnitude

section Positions

variable {exponent fraction : Nat}

private theorem unitsAt_fields (hfraction : fraction < 2 ^ 52) :
    unitsAt (exponent * 2 ^ 52 + fraction) =
    if exponent = 0 then fraction else (fraction + 2 ^ 52) * 2 ^ (exponent - 1) := by
  have hdiv : (exponent * 2 ^ 52 + fraction) / 2 ^ 52 = exponent := by omega
  have hmod : (exponent * 2 ^ 52 + fraction) % 2 ^ 52 = fraction := by omega
  have hlt : exponent * 2 ^ 52 + fraction < 2 ^ 52 ↔ exponent = 0 := by omega
  show (if exponent * 2 ^ 52 + fraction < 2 ^ 52 then exponent * 2 ^ 52 + fraction
    else ((exponent * 2 ^ 52 + fraction) % 2 ^ 52 + 2 ^ 52) *
      2 ^ ((exponent * 2 ^ 52 + fraction) / 2 ^ 52 - 1)) = _
  simp only [hlt, hdiv, hmod]
  split
  · rename_i h
    rw [h, Nat.zero_mul, Nat.zero_add]
  · rfl

private theorem unitsAt_succ (position : Nat) :
    unitsAt (position + 1) = unitsAt position + 2 ^ (position / 2 ^ 52 - 1) := by
  obtain ⟨exponent, fraction, hfraction, rfl⟩ :
      ∃ exponent fraction, fraction < 2 ^ 52 ∧ position = exponent * 2 ^ 52 + fraction :=
    ⟨position / 2 ^ 52, position % 2 ^ 52, Nat.mod_lt _ (by decide), by omega⟩
  have hdiv : (exponent * 2 ^ 52 + fraction) / 2 ^ 52 = exponent := by omega
  rw [hdiv, unitsAt_fields hfraction]
  by_cases hnext : fraction + 1 < 2 ^ 52
  · rw [Nat.add_assoc, unitsAt_fields hnext]
    cases exponent with
    | zero => rfl
    | succ exponent => simp only [Nat.succ_ne_zero, if_false]; ring
  · have hlast : fraction + 1 = 2 ^ 52 := by omega
    rw [show exponent * 2 ^ 52 + fraction + 1 =
      (exponent + 1) * 2 ^ 52 + 0 by omega, unitsAt_fields (by decide)]
    cases exponent with
    | zero => simp; omega
    | succ exponent =>
      simp only [Nat.succ_ne_zero, if_false, Nat.add_sub_cancel]
      rw [show fraction = 2 ^ 52 - 1 by omega, pow_succ]
      ring

private theorem unitsAt_strictMono : StrictMono unitsAt := by
  refine strictMono_nat_of_lt_succ fun position => ?_
  rw [unitsAt_succ]
  exact Nat.lt_add_of_pos_right (Nat.two_pow_pos _)

end Positions

variable {x y : Magnitude}

private theorem units_lt_units : x.units < y.units ↔ x < y := unitsAt_strictMono.lt_iff_lt

private theorem units_inj : x.units = y.units ↔ x = y :=
  unitsAt_strictMono.injective.eq_iff.trans Fin.ext_iff.symm

def toRat (x : Magnitude) : ℚ :=
  let exponent : ℕ := x.val / 2 ^ 52
  let fraction : ℕ := x.val % 2 ^ 52
  if exponent = 0 then fraction * 2 ^ (-1074 : ℤ) else (2 ^ 52 + fraction) * 2 ^
    ((exponent : ℤ) - 1075)

def unitsOfOne : Nat := twoTo 1074

theorem unitsOfOne_pos : 0 < unitsOfOne := by
  unfold unitsOfOne
  exact twoTo_pos 1074

theorem toRat_eq_units (x : Magnitude) : x.toRat = x.units / unitsOfOne := by
  have hunits : x.units = if x.val / 2 ^ 52 = 0 then x.val % 2 ^ 52
      else (x.val % 2 ^ 52 + 2 ^ 52) * 2 ^ (x.val / 2 ^ 52 - 1) := by
    rw [← unitsAt_fields (Nat.mod_lt _ (by decide)), Nat.div_add_mod']
    rfl
  have hscale (e : ℤ) (k : ℕ) (he : e = k - (1074 : ℕ)) : (2 : ℚ) ^ e = 2 ^ k / unitsOfOne := by
    unfold unitsOfOne
    exact he ▸ zpow_sub_eq_div_twoTo k 1074
  rw [toRat, hunits]
  generalize x.val / 2 ^ 52 = exponent
  cases exponent with
  | zero => rw [if_pos rfl, if_pos rfl, hscale (-1074) 0 (by norm_num), pow_zero, mul_one_div]
  | succ exponent =>
    rw [if_neg (Nat.succ_ne_zero _), if_neg (Nat.succ_ne_zero _),
      hscale _ exponent (by push_cast; ring)]
    push_cast
    ring

private theorem toRat_inj : x.toRat = y.toRat ↔ x = y := by
  rw [toRat_eq_units, toRat_eq_units, div_left_inj' (Nat.cast_ne_zero.mpr unitsOfOne_pos.ne'),
    Nat.cast_inj,
    units_inj]

theorem toRat_lt_toRat : x.toRat < y.toRat ↔ x < y := by
  rw [toRat_eq_units, toRat_eq_units, div_lt_div_iff_of_pos_right (Nat.cast_pos.mpr unitsOfOne_pos),
    Nat.cast_lt,
    units_lt_units]

end Magnitude

namespace Double

variable {x y : Double} {n : ℤ}

def toRat (x : Double) : ℚ :=
  if x.negative then -x.magnitude.toRat else x.magnitude.toRat

private theorem toRat_eq_units (x : Double) : x.toRat = x.units / Magnitude.unitsOfOne := by
  unfold toRat units
  split
  · rw [Magnitude.toRat_eq_units, Int.cast_neg, Int.cast_natCast, neg_div]
  · rw [Magnitude.toRat_eq_units, Int.cast_natCast]

theorem abs_toRat (x : Double) : |x.toRat| = x.magnitude.toRat := by
  have hpos : 0 ≤ x.magnitude.toRat := by
    rw [Magnitude.toRat_eq_units]
    exact div_nonneg (Nat.cast_nonneg _) (Nat.cast_nonneg _)
  unfold toRat
  split
  · rw [abs_neg, abs_of_nonneg hpos]
  · exact abs_of_nonneg hpos

/-- Doubles of the same value are the same, but for the sign of zero. -/
theorem eq_of_toRat_eq (h : x.toRat = y.toRat) (hzero : x.toRat ≠ 0) : x = y := by
  have hmagnitude : x.magnitude = y.magnitude := by
    rw [← Magnitude.toRat_inj, ← abs_toRat, ← abs_toRat, h]
  obtain ⟨negative, magnitude⟩ := x
  obtain ⟨negative', magnitude'⟩ := y
  obtain rfl : magnitude = magnitude' := hmagnitude
  have hsign : negative = negative' := by
    cases negative <;> cases negative'
    · rfl
    · exact absurd (self_eq_neg.mp h) hzero
    · exact absurd (neg_eq_zero.mpr (neg_eq_self.mp h)) hzero
    · rfl
  rw [hsign]

private theorem toRat_eq_intCast : x.toRat = n ↔ x.units = n * Magnitude.unitsOfOne := by
  have hne : (Magnitude.unitsOfOne : ℚ) ≠ 0 := Nat.cast_ne_zero.mpr Magnitude.unitsOfOne_pos.ne'
  rw [toRat_eq_units, div_eq_iff hne]
  exact_mod_cast Iff.rfl

/-- A double is an integer exactly if its value is. -/
theorem toInt?_eq_some_iff : x.toInt? = some n ↔ x.toRat = n := by
  have hpos := Magnitude.unitsOfOne_pos
  rw [toRat_eq_intCast, toInt?, units]
  unfold Magnitude.unitsOfOne at hpos ⊢
  generalize twoTo 1074 = unit at hpos
  generalize x.magnitude.units = m
  by_cases hdvd : m % unit = 0
  · obtain ⟨whole, rfl⟩ := Nat.dvd_of_mod_eq_zero hdvd
    have hunit : (unit : ℤ) ≠ 0 := Nat.cast_ne_zero.mpr hpos.ne'
    rw [if_pos hdvd, Nat.mul_div_cancel_left _ hpos, Option.some.injEq, Nat.cast_mul, mul_comm n]
    split
    · rw [← mul_neg, mul_right_inj' hunit]
    · rw [mul_right_inj' hunit]
  · rw [if_neg hdvd]
    refine iff_of_false nofun fun h => hdvd (Nat.mod_eq_zero_of_dvd ?_)
    have hunits : (unit : ℤ) ∣ if x.negative then -(m : ℤ) else m := h ▸ Dvd.intro_left n rfl
    split at hunits
    · exact Int.natCast_dvd_natCast.mp (Int.dvd_neg.mp hunits)
    · exact Int.natCast_dvd_natCast.mp hunits

end Double

end ClusterNode
