import ClusterNode.Config.Basic
import Mathlib.Algebra.Order.Group.Nat
import Mathlib.Tactic.Ring

/-!
Delays between the attempts of an addition. From attempt to attempt they grow, up to a bound,
whatever the policy. For the policy of a configuration they double from attempt to attempt until the
greatest delay is reached, but the doubling ends after 63 steps: a base of one millisecond then
stands at `2 ^ 63` milliseconds, even if the greatest delay is longer.
-/

set_option autoImplicit false

namespace ClusterNode

private theorem Duration.ofMillis_inj {a b : Nat} : Duration.ofMillis a = Duration.ofMillis b ↔
    a = b := by
  simp [Duration.ofMillis]

private theorem Duration.ofMillis_le_ofMillis {a b : Nat} (h : a ≤ b) :
    (Duration.ofMillis a).nanos ≤ (Duration.ofMillis b).nanos :=
  Nat.mul_le_mul_right _ h

private theorem Duration.ofMillis_lt_ofMillis {a b : Nat} (h : a < b) :
    (Duration.ofMillis a).nanos < (Duration.ofMillis b).nanos :=
  Nat.mul_lt_mul_of_pos_right h (by decide)

namespace RetryPolicy

private theorem millisWord_lt (d : Duration) : millisWord d < UInt64.size :=
  Nat.mod_lt _ (by decide)

private theorem millisWord_ofMillis (word : UInt64) :
    millisWord (.ofMillis word.toNat) = word.toNat := by
  have hmillis : (Duration.ofMillis word.toNat).millis = word.toNat :=
    Nat.mul_div_cancel _ (by decide)
  rw [millisWord, hmillis, Nat.mod_eq_of_lt word.toNat_lt_size]

private theorem ofMillis_millisWord_le (d : Duration) :
    (Duration.ofMillis (millisWord d)).nanos ≤ d.nanos := by
  calc
    millisWord d * 1000000 ≤ d.millis * 1000000 := Nat.mul_le_mul_right _ (Nat.mod_le _ _)
    _ ≤ d.nanos := Nat.div_mul_le_self _ _

section Delay

variable (policy : RetryPolicy)

private theorem delay_zero : policy.delay 0 = .zero := by
  simp [delay]

private theorem delay_succ (retries : Nat) :
    policy.delay (retries + 1) =
      .ofMillis (min (millisWord policy.baseDelay * twoTo (min retries 63))
        (millisWord policy.maxDelay)) := by
  have hmax := millisWord_lt policy.maxDelay
  unfold delay
  split
  · next hzero =>
    have hbase : policy.baseDelay = .zero := hzero.resolve_left (Nat.succ_ne_zero _)
    simp [hbase, millisWord, Duration.millis, Duration.zero, Duration.ofMillis]
  · simp only [Nat.add_sub_cancel, Duration.ofMillis_inj]
    omega

private theorem delay_le_max (attempt : Nat) :
    (policy.delay attempt).nanos ≤ policy.maxDelay.nanos := by
  cases attempt with
  | zero => simp [delay_zero, Duration.zero]
  | succ retries =>
    rw [delay_succ]
    exact (Duration.ofMillis_le_ofMillis (Nat.min_le_right _ _)).trans (ofMillis_millisWord_le _)

private theorem delay_mono {i j : Nat} (h : i ≤ j) :
    (policy.delay i).nanos ≤ (policy.delay j).nanos := by
  cases i with
  | zero => simp [delay_zero, Duration.zero]
  | succ i =>
    obtain ⟨j, rfl⟩ : ∃ k, j = k + 1 := ⟨j - 1, by omega⟩
    have hfactor : twoTo (min i 63) ≤ twoTo (min j 63) :=
      Nat.pow_le_pow_right (by decide) (by omega)
    rw [delay_succ, delay_succ]
    exact Duration.ofMillis_le_ofMillis (min_le_min_right _ (Nat.mul_le_mul_left _ hfactor))

private theorem delay_strict {i j : Nat} (hbase : 0 < millisWord policy.baseDelay) (hi : 1 ≤ i)
    (hi' : i ≤ 63)
    (hj : i < j) :
    (policy.delay i).nanos < (policy.delay j).nanos ∨
      policy.delay i = .ofMillis (millisWord policy.maxDelay) := by
  obtain ⟨i, rfl⟩ : ∃ k, i = k + 1 := ⟨i - 1, by omega⟩
  obtain ⟨j, rfl⟩ : ∃ k, j = k + 1 := ⟨j - 1, by omega⟩
  have hfactor : twoTo (min i 63) < twoTo (min j 63) := Nat.pow_lt_pow_right (by decide) (by omega)
  have hgrown := Nat.mul_lt_mul_of_pos_left hfactor hbase
  rw [delay_succ, delay_succ, Duration.ofMillis_inj]
  rcases Nat.lt_or_ge (millisWord policy.baseDelay * twoTo (min i 63))
    (millisWord policy.maxDelay) with
    hbelow | habove
  · exact .inl (Duration.ofMillis_lt_ofMillis (by omega))
  · exact .inr (Nat.min_eq_right habove)

/-- Whatever the two delays of a policy, a later attempt waits no less than an earlier one and no
more than the greatest delay. From the first attempt to the 64th it waits longer, unless the earlier
one waits the whole milliseconds of the greatest delay, as far as these fit a word. -/
theorem delay_monotone_bounded {i j : Nat} (h : i ≤ j) :
    (policy.delay i).nanos ≤ (policy.delay j).nanos ∧
      (policy.delay j).nanos ≤ policy.maxDelay.nanos ∧
      (0 < millisWord policy.baseDelay → 1 ≤ i → i ≤ 63 → i < j →
        (policy.delay i).nanos < (policy.delay j).nanos ∨
          policy.delay i = .ofMillis (millisWord policy.maxDelay)) :=
  ⟨policy.delay_mono h, policy.delay_le_max j, policy.delay_strict⟩

/-- A base of a millisecond and a half under a greatest delay of `2 ^ 64 + 5` milliseconds, of which
only 5 milliseconds fit a word. -/
theorem cut_delays_bounded :
    let policy : RetryPolicy := ⟨none, ⟨1500000⟩, .ofMillis (twoTo 64 + 5)⟩
    (policy.delay 3).nanos = 4000000 ∧ (policy.delay 70).nanos = 5000000 ∧
      (policy.delay 3).nanos ≤ (policy.delay 70).nanos ∧
      (policy.delay 70).nanos ≤ policy.maxDelay.nanos ∧
      ((policy.delay 3).nanos < (policy.delay 70).nanos ∨
        policy.delay 3 = .ofMillis (millisWord policy.maxDelay)) := by
  intro policy
  obtain ⟨hmono, hmax, hstrict⟩ := policy.delay_monotone_bounded (by decide : 3 ≤ 70)
  have hbase : 0 < millisWord policy.baseDelay := by decide +kernel
  exact ⟨by decide +kernel, by decide +kernel, hmono, hmax,
    hstrict hbase (by decide) (by decide) (by decide)⟩

end Delay

end RetryPolicy

namespace Config

variable (c : Config)

private theorem delay_succ (retries : Nat) :
    c.retryPolicy.delay (retries + 1) =
      .ofMillis (min (c.casBackoffBase.toNat * twoTo (min retries 63)) c.casBackoffMax.toNat) := by
  rw [RetryPolicy.delay_succ]
  simp only [retryPolicy, RetryPolicy.millisWord_ofMillis]

private theorem doubled_eq_iff {base max retries : Nat} (hmax : max < UInt64.size) :
    min (base * twoTo (min retries 63)) max = min (base * twoTo retries) max ↔
      ¬ (base = 1 ∧ 64 ≤ retries ∧ twoTo 63 < max) := by
  rcases Nat.lt_or_ge retries 64 with hfew | hmany
  · have hcap : min retries 63 = retries := by omega
    rw [hcap]
    exact iff_of_true rfl fun h => absurd h.2.1 (by omega)
  · have hcap : min retries 63 = 63 := by omega
    have hpower : max < twoTo retries :=
      hmax.trans_le (Nat.pow_le_pow_right (by decide : 0 < 2) hmany)
    rw [hcap]
    rcases (by omega : base = 0 ∨ base = 1 ∨ 2 ≤ base) with rfl | rfl | hbase
    · simp
    · rw [Nat.one_mul, Nat.one_mul]
      omega
    · have hlong : max ≤ base * twoTo 63 := by
        calc
          max ≤ 2 * twoTo 63 := hmax.le
          _ ≤ base * twoTo 63 := Nat.mul_le_mul_right _ hbase
      have hlonger : max ≤ base * twoTo retries :=
        hpower.le.trans (Nat.le_mul_of_pos_left _ (by omega))
      rw [Nat.min_eq_right hlong, Nat.min_eq_right hlonger]
      exact iff_of_true rfl fun h => absurd h.1 (by omega)

/-- The delay after an attempt is the base, doubled after each earlier attempt but at most 63 times,
and at most the greatest delay. This is the base doubled after every earlier attempt, unless the
base is one millisecond, there are more than 64 attempts and the greatest delay is longer than `2 ^
63` milliseconds. -/
theorem delay_doubles (retries : Nat) :
    c.retryPolicy.delay (retries + 1) =
        .ofMillis (min (c.casBackoffBase.toNat * twoTo (min retries 63)) c.casBackoffMax.toNat) ∧
      (c.retryPolicy.delay (retries + 1) =
          .ofMillis (min (c.casBackoffBase.toNat * twoTo retries) c.casBackoffMax.toNat) ↔
        ¬ (c.casBackoffBase.toNat = 1 ∧ 64 ≤ retries ∧ twoTo 63 < c.casBackoffMax.toNat)) := by
  refine ⟨c.delay_succ retries, ?_⟩
  rw [delay_succ, Duration.ofMillis_inj]
  exact doubled_eq_iff c.casBackoffMax.toNat_lt_size

/-- A base of one millisecond under the greatest delay of all is not doubled after the 64th
attempt. -/
theorem sixtyFifth_delay_not_doubled :
    ¬ ∀ (c : Config) (attempt : Nat), c.validate = .ok () → 1 ≤ attempt → attempt < UInt32.size →
      c.retryPolicy.delay attempt =
        .ofMillis (min (c.casBackoffBase.toNat * twoTo (attempt - 1)) c.casBackoffMax.toNat) := by
  intro h
  have hdelay := h { Config.default with casBackoffBase := 1, casBackoffMax :=
    18446744073709551615 } 65
    (by decide +kernel) (by decide) (by decide)
  exact absurd hdelay (by decide +kernel)

end Config

end ClusterNode
