import ClusterNode.Gossip.Value
import ClusterNode.Proofs.Double

/-!
The identity of broadcast values: two of them are known by the same key exactly if their numbers
have the same value, in whichever of the ways a number is kept.
-/

set_option autoImplicit false

namespace ClusterNode

def Number.toRat : Number → ℚ
  | .unsigned n => n.toNat
  | .negative n => n.val.toInt
  | .double x => x.toRat

def Number.integer? : Number → Option ℤ
  | .unsigned n => some n.toNat
  | .negative n => some n.val.toInt
  | .double _ => none

section Integers

variable {i j : Number} {n : ℤ}

private theorem Number.toRat_of_integer? (h : i.integer? = some n) : i.toRat = n := by
  cases i with
  | unsigned k =>
    obtain rfl := Option.some.inj h
    exact (Int.cast_natCast _).symm
  | negative k =>
    obtain rfl := Option.some.inj h
    rfl
  | double x => cases h

private theorem Number.eq_of_integer? (hi : i.integer? = some n) (hj : j.integer? = some n) :
    i = j := by
  cases i with
  | double x => cases hi
  | unsigned k =>
    cases j with
    | double y => cases hj
    | unsigned l =>
      have heq : (k.toNat : ℤ) = l.toNat := Option.some.inj (hi.trans hj.symm)
      rw [UInt64.toNat_inj.mp (Int.ofNat.inj heq)]
    | negative l =>
      have heq : (k.toNat : ℤ) = l.val.toInt := Option.some.inj (hi.trans hj.symm)
      have hneg : l.val.toInt < 0 := Int64.lt_iff_toInt_lt.mp l.property
      omega
  | negative k =>
    cases j with
    | double y => cases hj
    | unsigned l =>
      have heq : k.val.toInt = (l.toNat : ℤ) := Option.some.inj (hi.trans hj.symm)
      have hneg : k.val.toInt < 0 := Int64.lt_iff_toInt_lt.mp k.property
      omega
    | negative l =>
      have heq : k.val.toInt = l.val.toInt := Option.some.inj (hi.trans hj.symm)
      rw [Subtype.ext (Int64.toInt_inj.mp heq)]

end Integers

namespace BroadcastValue

def foldLimit : Magnitude := ⟨integralLimit, ((Magnitude.pow10? 38).getD Magnitude.zero).isLt⟩

private theorem foldLimit_bounds : (2 : ℚ) ^ 64 ≤ foldLimit.toRat ∧ foldLimit.toRat ≤ 2 ^ 127 := by
  have hpos : (0 : ℚ) < Magnitude.unitsOfOne := Nat.cast_pos.mpr Magnitude.unitsOfOne_pos
  have hunits : 2 ^ 64 * Magnitude.unitsOfOne ≤ foldLimit.units ∧
      foldLimit.units ≤ 2 ^ 127 * Magnitude.unitsOfOne := by decide +kernel
  rw [Magnitude.toRat_eq_units, le_div_iff₀ hpos, div_le_iff₀ hpos]
  exact_mod_cast hunits

namespace Key

def toRat : Key → ℚ
  | .integer n => n
  | .double x => x.toRat

/-- A key of a value: integers are below the limit, and a double that is an integer is not. -/
def Proper : Key → Prop
  | .integer n => |(n : ℚ)| < foldLimit.toRat
  | .double x => ∀ n : ℤ, x.toRat = n → foldLimit.toRat ≤ |x.toRat|

section Proper

variable {k l : Key} {n : ℤ} {x y : Double}

private theorem Proper.toRat_ne_zero (h : (Key.double x).Proper) : x.toRat ≠ 0 := by
  intro hzero
  have hlimit : foldLimit.toRat ≤ |x.toRat| := h 0 (by rw [hzero, Int.cast_zero])
  rw [hzero, abs_zero] at hlimit
  exact absurd (foldLimit_bounds.1.trans hlimit) (by norm_num)

private theorem Proper.integer_ne_double (hn : (Key.integer n).Proper)
    (hx : (Key.double x).Proper) :
    (n : ℚ) ≠ x.toRat := by
  intro h
  have hlimit : foldLimit.toRat ≤ |x.toRat| := hx n h.symm
  rw [← h] at hlimit
  exact absurd hn (not_lt.mpr hlimit)

private theorem Proper.toRat_inj (hk : k.Proper) (hl : l.Proper) : k.toRat = l.toRat ↔ k = l := by
  refine ⟨fun h => ?_, congrArg toRat⟩
  cases k with
  | integer n =>
    cases l with
    | integer m => rw [Int.cast_injective (h : (n : ℚ) = m)]
    | double y => exact absurd h (hk.integer_ne_double hl)
  | double x =>
    cases l with
    | integer m => exact absurd h.symm (hl.integer_ne_double hk)
    | double y => rw [Double.eq_of_toRat_eq h hk.toRat_ne_zero]

end Proper

end Key

section Identity

variable (v w : BroadcastValue)

private theorem lt_integralLimit_iff (x : Double) : x.magnitude.val < integralLimit ↔
    |x.toRat| < foldLimit.toRat := by
  rw [Double.abs_toRat, Magnitude.toRat_lt_toRat, Fin.lt_def, foldLimit]

private theorem key_double (x : Double) :
    (∃ n : ℤ, x.toRat = n ∧ |x.toRat| < foldLimit.toRat ∧ key ⟨.double x⟩ = .integer n) ∨
      (∀ n : ℤ, x.toRat = n → foldLimit.toRat ≤ |x.toRat|) ∧ key ⟨.double x⟩ = .double x := by
  cases hx : x.toInt? with
  | none =>
    refine .inr ⟨fun n hn => ?_, by simp only [key, hx]⟩
    rw [Double.toInt?_eq_some_iff.mpr hn] at hx
    cases hx
  | some n =>
    have hn : x.toRat = n := Double.toInt?_eq_some_iff.mp hx
    by_cases hlimit : x.magnitude.val < integralLimit
    · exact .inl ⟨n, hn, (lt_integralLimit_iff x).mp hlimit, by simp only [key, hx, if_pos hlimit]⟩
    · refine .inr ⟨fun _ _ => ?_, by simp only [key, hx, if_neg hlimit]⟩
      exact not_lt.mp fun h => hlimit ((lt_integralLimit_iff x).mpr h)

private theorem toRat_key : v.key.toRat = v.number.toRat := by
  obtain ⟨number⟩ := v
  cases number with
  | unsigned n => exact Int.cast_natCast _
  | negative n => rfl
  | double x =>
    obtain ⟨n, hn, -, hkey⟩ | ⟨-, hkey⟩ := key_double x
    · rw [hkey]
      exact hn.symm
    · rw [hkey]
      rfl

private theorem proper_key : v.key.Proper := by
  obtain ⟨number⟩ := v
  cases number with
  | unsigned n =>
    have hlt : (n.toNat : ℚ) < 2 ^ 64 := by exact_mod_cast n.toNat_lt
    show |((n.toNat : ℤ) : ℚ)| < foldLimit.toRat
    rw [Int.cast_natCast, Nat.abs_cast]
    exact hlt.trans_le foldLimit_bounds.1
  | negative n =>
    have hlt : |(n.val.toInt : ℚ)| < 2 ^ 64 := by
      have hle := n.val.le_toInt
      have hneg : n.val.toInt < 0 := Int64.lt_iff_toInt_lt.mp n.property
      have habs : |n.val.toInt| < 2 ^ 64 := abs_lt.mpr ⟨by omega, by omega⟩
      exact_mod_cast habs
    exact hlt.trans_le foldLimit_bounds.1
  | double x =>
    obtain ⟨n, hn, hlimit, hkey⟩ | ⟨hproper, hkey⟩ := key_double x
    · rw [hkey]
      show |(n : ℚ)| < foldLimit.toRat
      rwa [← hn]
    · rw [hkey]
      exact hproper

private theorem key_eq_iff : v.key = w.key ↔ v.number.toRat = w.number.toRat := by
  rw [← toRat_key, ← toRat_key, v.proper_key.toRat_inj w.proper_key]

private theorem beq_iff : (v == w) = true ↔ v.number.toRat = w.number.toRat := by
  rw [← key_eq_iff]
  exact decide_eq_true_iff

private theorem key_integer_bounds {v : BroadcastValue} {n : ℤ} (h : v.key = .integer n) :
    -2 ^ 127 ≤ n ∧ n < 2 ^ 127 := by
  have hproper := v.proper_key
  rw [h] at hproper
  have hlt : |(n : ℚ)| < 2 ^ 127 := lt_of_lt_of_le hproper foldLimit_bounds.2
  have habs : |n| < 2 ^ 127 := by exact_mod_cast hlt
  obtain ⟨hlow, hhigh⟩ := abs_lt.mp habs
  exact ⟨hlow.le, hhigh⟩

end Identity

/-- Broadcast values are the same, and known by the same key, exactly if their numbers have the same
value. So this is an equivalence that hashing respects, an integer and a double are the same exactly
if the double is that integer, and different integers never are. -/
theorem identity_is_numeric :
    (∀ v w : BroadcastValue, ((v == w) = true ↔ v.number.toRat = w.number.toRat) ∧
      (v.key = w.key ↔ v.number.toRat = w.number.toRat)) ∧
    Equivalence (fun v w : BroadcastValue => (v == w) = true) ∧
    (∀ v w : BroadcastValue, (v == w) = true → hash v = hash w) ∧
    (∀ (i : Number) (n : ℤ), i.integer? = some n → ∀ x : Double,
      (BroadcastValue.mk i == ⟨.double x⟩) = true ↔ x.toRat = n) ∧
    (∀ (i j : Number) (n m : ℤ), i.integer? = some n → j.integer? = some m →
      ((BroadcastValue.mk i == ⟨j⟩) = true ↔ n = m) ∧ (n = m → i = j)) ∧
    ∀ (v : BroadcastValue) (n : ℤ), v.key = .integer n → -2 ^ 127 ≤ n ∧ n < 2 ^ 127 := by
  refine ⟨fun v w => ⟨beq_iff v w, key_eq_iff v w⟩, ⟨fun v => BEq.rfl, BEq.symm, BEq.trans⟩,
    fun v w h => hash_eq h, fun i n hi x => ?_, fun i j n m hi hj => ⟨?_, ?_⟩, fun v n h =>
      key_integer_bounds h⟩
  · rw [beq_iff, Number.toRat_of_integer? hi]
    exact eq_comm
  · rw [beq_iff, Number.toRat_of_integer? hi, Number.toRat_of_integer? hj, Int.cast_inj]
  · rintro rfl
    exact Number.eq_of_integer? hi hj

/-- Of two integers that round to the same double, the one that is this double is the same as it,
and the other is neither. -/
theorem identity_past_exact_doubles :
    let even : Number := .unsigned 9007199254740992
    let odd : Number := .unsigned 9007199254740993
    let x : Double := ⟨false, ⟨4845873199050653696, by decide⟩⟩
    Magnitude.nearest? 9007199254740993 1 = some x.magnitude ∧
      (mk even == ⟨.double x⟩) = true ∧ hash (mk even) = hash (mk (.double x)) ∧
      ¬ (mk odd == ⟨.double x⟩) = true ∧ ¬ (mk even == ⟨odd⟩) = true ∧
      (-2 ^ 127 ≤ (9007199254740993 : ℤ) ∧ (9007199254740993 : ℤ) < 2 ^ 127) := by
  intro even odd x
  obtain ⟨-, -, hash_eq, double_iff, integer_iff, bounds⟩ := identity_is_numeric
  have hx : x.toRat = (9007199254740992 : ℤ) := Double.toInt?_eq_some_iff.mp (by decide +kernel)
  have same : (mk even == ⟨.double x⟩) = true := (double_iff even _ rfl x).mpr hx
  have other : ¬ (mk odd == ⟨.double x⟩) = true := by
    rw [double_iff odd _ rfl x, hx, Int.cast_inj]
    decide
  have different : ¬ (mk even == ⟨odd⟩) = true := by
    rw [(integer_iff even odd _ _ rfl rfl).1]
    decide
  exact ⟨by decide +kernel, same, hash_eq _ _ same, other, different, bounds ⟨odd⟩ _ rfl⟩

end BroadcastValue

end ClusterNode
