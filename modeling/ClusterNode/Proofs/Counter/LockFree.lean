import ClusterNode.Proofs.Counter.Race
import Mathlib.Algebra.BigOperators.Ring.Finset

/-!
The retry loop of an addition is free of locks: whatever the schedule, additions to one key lose
only to one another, make only so many swaps in total, and each of them comes to its end.
-/

set_option autoImplicit false

namespace ClusterNode.Counter

section Pace

variable {ι : Type} [DecidableEq ι] {add : ι → Add} {r : Race ι} {i : ι} {steps : Nat}

private theorem Race.step_states_of_ne {j : ι} (h : j ≠ i) :
    (r.step add i).states j = r.states j := by
  unfold step
  split
  · exact Function.update_of_ne h _ _
  · exact Function.update_of_ne h _ _
  · rfl

private theorem Paced.step (h : Paced steps (r.states i)) :
    Paced (steps + 1) ((r.step add i).states i) := by
  unfold Race.step
  split
  · rename_i c next hmove
    simpa only [Function.update_self] using h.call hmove _
  · rename_i d next hmove
    simpa only [Function.update_self] using h.pause hmove
  · rename_i result hmove
    rw [Add.eq_done_of_move hmove]
    trivial

private theorem Paced.run (add : ι → Add) (store : KvStore) (schedule : List ι) (i : ι) :
    Paced (schedule.count i) (((Race.start store).run add schedule).states i) := by
  induction schedule using List.reverseRecOn with
  | nil => exact Nat.le_refl 3
  | append_singleton schedule j ih =>
    rw [Race.run, List.foldl_append, ← Race.run]
    by_cases hj : j = i
    · subst hj
      rw [List.count_append, List.count_singleton_self]
      exact ih.step
    · rw [List.count_append, List.count_singleton, if_neg (by simpa using hj)]
      exact (congrArg (Paced _) (Race.step_states_of_ne (Ne.symm hj))).mpr ih

end Pace

section Totals

variable {ι : Type} [Fintype ι] [DecidableEq ι] {add : ι → Add} {key : String} {r : Race ι} {i : ι}
  {a : Add}

private theorem Stays.lostBy_le (h : Stays a r i) (unwon : wonBy i r.calls = 0) :
    lostBy i r.calls ≤ won r.calls := by
  unfold Stays at h
  split at h
  · exact h.2.1
  · exact h.2.1.lostBy_le
  · exact h.2.1
  · omega
  · exact h.1

private theorem Stays.lostBy_lt (h : Stays a r i) (hwon : wonBy i r.calls ≠ 0) :
    lostBy i r.calls < won r.calls := by
  unfold Stays at h
  split at h <;> omega

private theorem Fair.done (hf : Fair add key r) {steps : Nat} (pace : Paced steps (r.states i))
    (enough : 3 * Fintype.card ι ≤ steps) : ∃ result, r.states i = .done result := by
  have hstays := hf.stays i
  unfold Stays at hstays
  cases hstate : r.states i with
  | reading attempt =>
    rw [hstate] at hstays pace
    have := hf.won_lt hstays.2.2
    simp only [Paced] at pace
    omega
  | swapping attempt current next =>
    rw [hstate] at hstays pace
    have := hf.won_lt hstays.2.2
    have := hstays.2.1.lostBy_le
    simp only [Paced] at pace
    omega
  | pausing attempt =>
    rw [hstate] at hstays pace
    have := hf.won_lt hstays.2.2
    simp only [Paced] at pace
    omega
  | done result => exact ⟨result, rfl⟩

def swapsBy (i : ι) (calls : List (Made ι)) : Nat := calls.countP fun x => x.maker = i && x.swaps

omit [Fintype ι] in
private theorem swapsBy_eq (i : ι) (calls : List (Made ι)) :
    swapsBy i calls = wonBy i calls + lostBy i calls := by
  induction calls with
  | nil => rfl
  | cons x calls ih =>
    simp only [swapsBy, wonBy, lostBy, List.countP_cons] at ih ⊢
    rw [ih]
    by_cases hi : x.maker = i <;> cases hswaps : x.swaps <;> cases hok : x.answer.isOk <;>
      simp [Made.wins, Made.loses, hi, hswaps, hok] <;> omega

private theorem Fair.won_le (hf : Fair add key r) : won r.calls ≤ Fintype.card ι := by
  rw [← sum_wonBy, ← Finset.card_univ, ← mul_one Finset.univ.card]
  exact Finset.sum_le_card_nsmul _ _ 1 fun i _ => (hf.stays i).wonBy_le

private theorem Fair.swapsBy_le (hf : Fair add key r) (i : ι) :
    swapsBy i r.calls ≤ Fintype.card ι := by
  have hstays := hf.stays i
  have hwon := hf.won_le
  rw [swapsBy_eq]
  by_cases hunwon : wonBy i r.calls = 0
  · have hlost := hstays.lostBy_le hunwon
    omega
  · have hlost := hstays.lostBy_lt hunwon
    have hone := hstays.wonBy_le
    omega

private theorem Fair.sum_lostBy_le (hf : Fair add key r) : ∑ i, lostBy i r.calls ≤
    ∑ i, share r.calls i + (Fintype.card ι - won r.calls) * won r.calls := by
  have hunwon : (Fintype.card ι - won r.calls) * won r.calls =
      ∑ i, (1 - wonBy i r.calls) * won r.calls := by
    rw [← Finset.sum_mul, Finset.sum_tsub_distrib _ fun i _ => (hf.stays i).wonBy_le, sum_wonBy]
    simp
  rw [hunwon, ← Finset.sum_add_distrib]
  refine Finset.sum_le_sum fun i _ => ?_
  by_cases h : wonBy i r.calls = 0
  · have := (hf.stays i).lostBy_le h
    simpa [share, h] using this
  · simp [share, h]

private theorem Fair.swaps_le (hf : Fair add key r) :
    2 * ∑ i, swapsBy i r.calls ≤ Fintype.card ι * (Fintype.card ι + 1) := by
  have hshares := hf.shares
  have hlost := hf.sum_lostBy_le
  have hwon := hf.won_le
  simp only [swapsBy_eq, Finset.sum_add_distrib, sum_wonBy]
  obtain ⟨more, hmore⟩ := Nat.exists_eq_add_of_le hwon
  rw [hmore, Nat.add_sub_cancel_left] at hlost
  rw [hmore]
  nlinarith

private theorem Fair.lostBy_of_wins (hf : Fair add key r) {before after : List (Made ι)}
    {x : Made ι}
    (hcalls : r.calls = before ++ x :: after) (hwins : x.wins = true) :
    lostBy x.maker r.calls = lostBy x.maker before := by
  have hself : lostBy x.maker [x] = 0 := by
    have hloses : x.loses = false := by
      simp only [Made.wins, Made.loses, Bool.and_eq_true] at hwins ⊢
      simp [hwins.2]
    simp [lostBy, hloses]
  have hafter : ∀ y ∈ after, y.maker ≠ x.maker := by
    intro y hy hmaker
    obtain ⟨first, last, rfl⟩ := List.append_of_mem hy
    have hzero := hf.unwon (before ++ x :: first) y last (by simp [hcalls])
    rw [hmaker, wonBy, List.countP_eq_zero] at hzero
    exact hzero x (by simp) (by simp [hwins])
  rw [hcalls, ← List.singleton_append, lostBy_append, lostBy_append, hself, lostBy_eq_zero hafter]
  omega

end Totals

/-- A race that makes progress at every moment, whatever is scheduled. -/
structure LockFree {m : Nat} (key : String) (policy : Fin m → RetryPolicy) (schedule : List (Fin m))
    (r : Race (Fin m)) : Prop where
  on_key : ∀ x ∈ r.calls, x.call = .read key ∨ ∃ current next, x.call = .cas key current next true
  /-- A swap fails only if one of another addition has succeeded since its addition has read. -/
  refused : ∀ before x after, r.calls = before ++ x :: after → x.loses = true →
    LostToOther key before x.maker
  /-- The addition that is the j-th to win has lost at most as often as there were winners
  before. -/
  winner : ∀ before x after, r.calls = before ++ x :: after → x.wins = true →
    lostBy x.maker r.calls ≤ won before
  finished : ∀ i n, r.states i = .done (.ok n) → ∃ x ∈ r.calls, x.maker = i ∧ x.wins = true
  swaps_of_each : ∀ i, swapsBy i r.calls ≤ m
  swaps_of_all : r.calls.countP Made.swaps ≤ m * (m + 1) / 2
  ends : ∀ i, 3 * m ≤ schedule.count i → ∃ result, r.states i = .done result
  not_exhausted : ∀ i, (∀ max ∈ (policy i).maxAttempts, m ≤ max) →
    ∀ k attempts, r.states i ≠ .done (.error (.retriesExhausted k attempts))

/-- Additions to the key of a node that nothing else writes are free of locks: each failure is
charged to the success of another addition. -/
theorem Race.run_lockFree (m : Nat) (node : String) (delta : Fin m → Int64)
    (policy : Fin m → RetryPolicy) (store : KvStore) (schedule : List (Fin m)) :
    LockFree (keyOf node) policy schedule
      ((Race.start store).run (fun i => ⟨node, delta i, policy i⟩) schedule) := by
  have hf : Fair (fun i => ⟨node, delta i, policy i⟩) (keyOf node) _ :=
    Fair.run (fun i => ⟨node, delta i, policy i⟩) (fun _ => rfl) store schedule
  have hpace := Paced.run (fun i => (⟨node, delta i, policy i⟩ : Add)) store schedule
  revert hf hpace
  generalize (Race.start store).run _ schedule = r
  intro hf hpace
  refine ⟨?on_key, ?refused, ?winner, ?finished, ?each, ?all, ?ends, ?not_exhausted⟩
  case on_key =>
    intro x hx
    obtain ⟨before, after, hcalls⟩ := List.append_of_mem hx
    cases hf.justified before x after hcalls with
    | read i value => exact .inl rfl
    | taken i current next few => exact .inr ⟨current, next, rfl⟩
    | refused i current next actual lost => exact .inr ⟨current, next, rfl⟩
  case refused =>
    intro before x after hcalls hloses
    cases hf.justified before x after hcalls with
    | read i value => cases hloses
    | taken i current next few => cases hloses
    | refused i current next actual lost => exact lost
  case winner =>
    intro before x after hcalls hwins
    rw [hf.lostBy_of_wins hcalls hwins]
    cases hf.justified before x after hcalls with
    | read i value => cases hwins
    | taken i current next few => exact few
    | refused i current next actual lost => cases hwins
  case finished =>
    intro i n hdone
    have hstays := hf.stays i
    rw [Stays, hdone] at hstays
    have hpos : 0 < wonBy i r.calls := by omega
    obtain ⟨x, hx, hwins⟩ := List.countP_pos_iff.mp hpos
    simp only [Bool.and_eq_true, decide_eq_true_eq] at hwins
    exact ⟨x, hx, hwins⟩
  case each =>
    intro i
    simpa using hf.swapsBy_le i
  case all =>
    have hle := hf.swaps_le
    have hsum : ∑ i, swapsBy i r.calls = r.calls.countP Made.swaps :=
      sum_countP_maker Made.swaps r.calls
    rw [hsum, Fintype.card_fin] at hle
    omega
  case ends =>
    intro i hcount
    exact hf.done (hpace i) (by rwa [Fintype.card_fin])
  case not_exhausted =>
    intro i hbound k attempts hdone
    have hstays := hf.stays i
    rw [Stays, hdone] at hstays
    exact hstays.2.2 (by simpa using hbound) k attempts rfl

/-- Two additions that have read the same value: the second loses its swap to the first, reads again
and wins, so the two take as many swaps as two additions may. -/
theorem contested_lockFree :
    let additions : Fin 2 → Add := fun _ => ⟨"n1", 1, .unbounded⟩
    let r := (Race.start []).run additions [0, 1, 0, 1, 1, 1]
    (r.calls.filter Made.swaps).map (fun x => (x.maker, x.wins)) =
      [(0, true), (1, false), (1, true)] ∧
      Dictionary.get? (keyOf "n1") r.store = some 2 ∧
      LockFree (keyOf "n1") (fun _ => .unbounded) [0, 1, 0, 1, 1, 1] r :=
  ⟨by decide, by decide,
    Race.run_lockFree 2 "n1" (fun _ => 1) (fun _ => .unbounded) [] [0, 1, 0, 1, 1, 1]⟩

end ClusterNode.Counter
