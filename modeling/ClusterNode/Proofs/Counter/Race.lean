import ClusterNode.Proofs.Basic
import ClusterNode.Proofs.Counter.Add
import Mathlib.Algebra.Order.BigOperators.Group.Finset
import Mathlib.Data.Fintype.BigOperators
import Mathlib.Logic.Function.Basic
import Mathlib.Tactic.Linarith

/-!
Races: additions to one key that take their steps side by side on a store. A swap that fails has
lost to another addition, whose swap came between; so an addition that comes to its end loses at
most once to each of the others.
-/

set_option autoImplicit false

namespace ClusterNode.Counter

/-- A call that one of several additions has made, and its answer. -/
structure Made (ι : Type) where
  maker : ι
  call : StoreCall
  answer : StoreAnswer

namespace Made

variable {ι : Type}

def swaps (x : Made ι) : Bool :=
  match x.call with
  | .cas _ _ _ _ => true
  | _ => false

def wins (x : Made ι) : Bool := x.swaps && x.answer.isOk

def loses (x : Made ι) : Bool := x.swaps && !x.answer.isOk

variable {i : ι} {key : String} {expected next : Int64} {create : Bool} {answer : StoreAnswer}

@[simp] theorem wins_read : (⟨i, .read key, answer⟩ : Made ι).wins = false := rfl

@[simp] theorem loses_read : (⟨i, .read key, answer⟩ : Made ι).loses = false := rfl

@[simp] theorem wins_taken {value : Option Int64} :
    (⟨i, .cas key expected next create, .ok value⟩ : Made ι).wins = true := rfl

@[simp] theorem loses_taken {value : Option Int64} :
    (⟨i, .cas key expected next create, .ok value⟩ : Made ι).loses = false := rfl

@[simp] theorem wins_refused {e : StoreError} :
    (⟨i, .cas key expected next create, .error e⟩ : Made ι).wins = false := rfl

@[simp] theorem loses_refused {e : StoreError} :
    (⟨i, .cas key expected next create, .error e⟩ : Made ι).loses = true := rfl

end Made

section Counts

variable {ι : Type}

def won (calls : List (Made ι)) : Nat := calls.countP Made.wins

variable [DecidableEq ι]

/-- How many swaps of an addition the store refused. -/
def lostBy (i : ι) (calls : List (Made ι)) : Nat := calls.countP fun x => x.maker = i && x.loses

/-- How many swaps of an addition the store took. -/
def wonBy (i : ι) (calls : List (Made ι)) : Nat := calls.countP fun x => x.maker = i && x.wins

end Counts

/-- Additions that take their steps side by side on a store, and the calls that they have made. -/
structure Race (ι : Type) where
  store : KvStore
  states : ι → Add.State
  calls : List (Made ι)

namespace Race

variable {ι : Type}

def start (store : KvStore) : Race ι := ⟨store, fun _ => Add.start, []⟩

variable [DecidableEq ι]

def step (add : ι → Add) (r : Race ι) (i : ι) : Race ι :=
  match (add i).move (r.states i) with
  | .call c next =>
    let (answer, store) := r.store.perform c
    { store, states := Function.update r.states i (next answer), calls :=
      r.calls ++ [⟨i, c, answer⟩] }
  | .pause _ next => { r with states := Function.update r.states i next }
  | .done _ => r

def run (add : ι → Add) (r : Race ι) (schedule : List ι) : Race ι :=
  schedule.foldl (step add) r

end Race

section Counts

variable {ι : Type} {calls more : List (Made ι)}

@[simp] theorem won_append : won (calls ++ more) = won calls + won more := List.countP_append

@[simp] theorem won_singleton {i : ι} {c : StoreCall} {answer : StoreAnswer} :
    won [(⟨i, c, answer⟩ : Made ι)] = if (⟨i, c, answer⟩ : Made ι).wins then 1 else 0 :=
  List.countP_singleton

private theorem one_le_won (h : ∃ x ∈ calls, x.wins = true) : 1 ≤ won calls :=
  List.countP_pos_iff.mpr h

variable [DecidableEq ι] {i : ι}

@[simp] theorem lostBy_append : lostBy i (calls ++ more) = lostBy i calls + lostBy i more :=
  List.countP_append

@[simp] theorem wonBy_append : wonBy i (calls ++ more) = wonBy i calls + wonBy i more :=
  List.countP_append

@[simp] theorem lostBy_singleton {c : StoreCall} {answer : StoreAnswer} :
    lostBy i [⟨i, c, answer⟩] = if (⟨i, c, answer⟩ : Made ι).loses then 1 else 0 := by
  simp [lostBy, List.countP_singleton]

@[simp] theorem wonBy_singleton {c : StoreCall} {answer : StoreAnswer} :
    wonBy i [⟨i, c, answer⟩] = if (⟨i, c, answer⟩ : Made ι).wins then 1 else 0 := by
  simp [wonBy, List.countP_singleton]

theorem lostBy_eq_zero (h : ∀ x ∈ calls, x.maker ≠ i) : lostBy i calls = 0 :=
  List.countP_eq_zero.mpr fun x hx => by simp [h x hx]

theorem sum_countP_maker [Fintype ι] (p : Made ι → Bool) (calls : List (Made ι)) :
    ∑ i, calls.countP (fun x => x.maker = i && p x) = calls.countP p := by
  induction calls with
  | nil => simp
  | cons x calls ih =>
    simp only [List.countP_cons, Finset.sum_add_distrib, ih]
    cases p x <;> simp

end Counts

section Steps

variable {ι : Type} [DecidableEq ι] {add : ι → Add} {r : Race ι} {i : ι} {attempt : Nat}
  {current next : Int64}

private theorem Race.step_reading (h : r.states i = .reading attempt) : r.step add i =
    { store := r.store
      states := Function.update r.states i
        ((add i).afterRead attempt (.ok (Dictionary.get? (add i).key r.store)))
      calls := r.calls ++
        [⟨i, .read (add i).key, .ok (Dictionary.get? (add i).key r.store)⟩] } := by
  simp only [step, h, Add.move]
  rfl

private theorem Race.step_swapping_of_found (h : r.states i = .swapping attempt current next)
    (found : (Dictionary.get? (add i).key r.store).getD current = current) : r.step add i =
    { store := Dictionary.insert (add i).key next r.store
      states := Function.update r.states i (.done (.ok next))
      calls := r.calls ++ [⟨i, .cas (add i).key current next true, .ok none⟩] } := by
  have hperform : r.store.perform (.cas (add i).key current next true) =
      (.ok none, Dictionary.insert (add i).key next r.store) := by
    simp only [KvStore.perform, KvStore.swap]
    cases hget : Dictionary.get? (add i).key r.store with
    | none => rfl
    | some actual =>
      rw [hget, Option.getD_some] at found
      simp [found]
  simp only [step, h, Add.move, hperform]
  rfl

private theorem Race.step_swapping_of_changed (h : r.states i = .swapping attempt current next)
    (changed : (Dictionary.get? (add i).key r.store).getD current ≠ current) : r.step add i =
    let refusal : StoreAnswer := .error
      (.preconditionFailed (add i).key current (Dictionary.get? (add i).key r.store))
    { store := r.store
      states := Function.update r.states i ((add i).afterSwap attempt next refusal)
      calls := r.calls ++ [⟨i, .cas (add i).key current next true, refusal⟩] } := by
  have hperform : r.store.perform (.cas (add i).key current next true) = (.error
      (.preconditionFailed (add i).key current (Dictionary.get? (add i).key r.store)),
          r.store) := by
    simp only [KvStore.perform, KvStore.swap]
    cases hget : Dictionary.get? (add i).key r.store with
    | none => simp [hget] at changed
    | some actual =>
      rw [hget, Option.getD_some] at changed
      simp [changed]
  simp only [step, h, Add.move, hperform]

private theorem Race.step_pausing (h : r.states i = .pausing attempt) : r.step add i =
    { r with states := Function.update r.states i (.reading (attempt + 1)) } := by
  simp only [step, h, Add.move]

private theorem Race.step_done {result : Except StoreError Int64} (h : r.states i = .done result) :
    r.step add i = r := by
  simp only [step, h, Add.move]

end Steps

/-- The value that an addition has read before its swap, and that the store still holds it unless it
has taken a swap since. -/
def Since {ι : Type} [DecidableEq ι] (key : String) (r : Race ι) (i : ι) (current : Int64) : Prop :=
  ∃ before value since, r.calls = before ++ ⟨i, .read key, .ok value⟩ :: since ∧
    (∀ x ∈ since, x.maker ≠ i) ∧ current = value.getD 0 ∧ lostBy i before ≤ won before ∧
    ((∃ x ∈ since, x.wins = true) ∨ Dictionary.get? key r.store = value)

/-- How an addition stands in a race: it has lost no more often than the store took a swap, its
attempts count what it has lost, and it has won once if it is over and has succeeded, having lost to
others only. -/
def Stays {ι : Type} [Fintype ι] [DecidableEq ι] (a : Add) (r : Race ι) (i : ι) : Prop :=
  match r.states i with
  | .reading attempt =>
    lostBy i r.calls + 1 = attempt ∧ lostBy i r.calls ≤ won r.calls ∧ wonBy i r.calls = 0
  | .swapping attempt current _ =>
    lostBy i r.calls + 1 = attempt ∧ Since a.key r i current ∧ wonBy i r.calls = 0
  | .pausing attempt =>
    lostBy i r.calls = attempt ∧ lostBy i r.calls ≤ won r.calls ∧ wonBy i r.calls = 0
  | .done (.ok _) => wonBy i r.calls = 1 ∧ lostBy i r.calls + 1 ≤ won r.calls
  | .done (.error e) => lostBy i r.calls ≤ won r.calls ∧ wonBy i r.calls = 0 ∧
    ((∀ k ∈ a.policy.maxAttempts, Fintype.card ι ≤ k) → ∀ key n, e ≠ .retriesExhausted key n)

/-- A swap that the store refused has lost to another one, which the store took since the value was
read. -/
def LostToOther {ι : Type} (key : String) (before : List (Made ι)) (i : ι) : Prop :=
  ∃ first value since, before = first ++ ⟨i, .read key, .ok value⟩ :: since ∧
    (∀ x ∈ since, x.maker ≠ i) ∧ ∃ x ∈ since, x.wins = true

section Stays

variable {ι : Type} [DecidableEq ι] {a : Add} {key : String} {r r' : Race ι} {i : ι}
  {current : Int64}
  {more : List (Made ι)}

theorem Since.lostBy_le (h : Since key r i current) : lostBy i r.calls ≤ won r.calls := by
  obtain ⟨before, value, since, hcalls, hothers, -, hle, -⟩ := h
  have hsince : lostBy i since = 0 := lostBy_eq_zero hothers
  have hread : lostBy i [⟨i, .read key, .ok value⟩] = 0 := by simp
  rw [hcalls, ← List.singleton_append, lostBy_append, lostBy_append, won_append, hsince, hread]
  omega

private theorem Since.lost (h : Since key r i current)
    (changed : (Dictionary.get? key r.store).getD current ≠ current) :
    LostToOther key r.calls i ∧ lostBy i r.calls + 1 ≤ won r.calls := by
  obtain ⟨before, value, since, hcalls, hothers, hvalue, hle, hsame⟩ := h
  have hwon : ∃ x ∈ since, x.wins = true := by
    refine hsame.resolve_right fun hsame => changed ?_
    rw [hsame, hvalue]
    cases value <;> rfl
  refine ⟨⟨before, value, since, hcalls, hothers, hwon⟩, ?_⟩
  have hsince : lostBy i since = 0 := lostBy_eq_zero hothers
  have hread : lostBy i [⟨i, .read key, .ok value⟩] = 0 := by simp
  have hone := one_le_won hwon
  rw [hcalls, ← List.singleton_append, lostBy_append, lostBy_append, won_append, won_append, hsince,
    hread]
  omega

private theorem Stays.others [Fintype ι] (h : Stays a r i) (states : r'.states i = r.states i)
    (calls : r'.calls = r.calls ++ more) (others : ∀ x ∈ more, x.maker ≠ i)
    (store : (∃ x ∈ more, x.wins = true) ∨ r'.store = r.store) : Stays a r' i := by
  have hlost : lostBy i r'.calls = lostBy i r.calls := by
    rw [calls, lostBy_append, lostBy_eq_zero others, Nat.add_zero]
  have hwonBy : wonBy i r'.calls = wonBy i r.calls := by
    have hzero : wonBy i more = 0 := List.countP_eq_zero.mpr fun x hx => by simp [others x hx]
    rw [calls, wonBy_append, hzero, Nat.add_zero]
  have hwon : won r.calls ≤ won r'.calls := by
    rw [calls, won_append]
    exact Nat.le_add_right _ _
  have hsince : ∀ {current}, Since a.key r i current → Since a.key r' i current := by
    rintro current ⟨before, value, since, hcalls, hothers, hvalue, hle, hsame⟩
    refine ⟨before, value, since ++
      more, by rw [calls, hcalls]; simp, fun x hx => ?_, hvalue, hle, ?_⟩
    · exact (List.mem_append.mp hx).elim (hothers x) (others x)
    · rcases hsame with ⟨x, hx, hwins⟩ | hsame
      · exact .inl ⟨x, List.mem_append_left _ hx, hwins⟩
      · rcases store with ⟨x, hx, hwins⟩ | store
        · exact .inl ⟨x, List.mem_append_right _ hx, hwins⟩
        · exact .inr (by rw [store, hsame])
  unfold Stays at h ⊢
  rw [states, hlost, hwonBy]
  split at h
  · exact ⟨h.1, h.2.1.trans hwon, h.2.2⟩
  · exact ⟨h.1, hsince h.2.1, h.2.2⟩
  · exact ⟨h.1, h.2.1.trans hwon, h.2.2⟩
  · exact ⟨h.1, h.2.trans hwon⟩
  · exact ⟨h.1.trans hwon, h.2⟩

end Stays

/-- Each call that an addition makes is for its key, and is answered as it should be: a swap that
was taken comes from an addition that has lost no more often than others have won, and one that was
refused has lost to another one. -/
inductive Justified {ι : Type} [DecidableEq ι] (key : String) (before : List (Made ι)) :
    Made ι → Prop
  | read (i : ι) (value : Option Int64) : Justified key before ⟨i, .read key, .ok value⟩
  | taken (i : ι) (current next : Int64) (few : lostBy i before ≤ won before) :
      Justified key before ⟨i, .cas key current next true, .ok none⟩
  | refused (i : ι) (current next : Int64) (actual : Option Int64)
    (lost : LostToOther key before i) :
      Justified key before
        ⟨i, .cas key current next true, .error (.preconditionFailed key current actual)⟩

section Shares

variable {ι : Type} [DecidableEq ι] {calls : List (Made ι)} {x : Made ι}

def share (calls : List (Made ι)) (i : ι) : Nat :=
  if wonBy i calls = 0 then 0 else lostBy i calls

private theorem share_append (h : wonBy x.maker calls = 0) (i : ι) : share (calls ++ [x]) i =
    share calls i + if x.maker = i then (if x.wins then lostBy i calls else 0) else 0 := by
  have hloses : x.wins = true → x.loses = false := by simp +contextual [Made.wins, Made.loses]
  by_cases hi : x.maker = i
  · subst hi
    cases hx : x.wins with
    | false =>
      have hone : wonBy x.maker [x] = 0 := by simp [wonBy, hx]
      simp only [share, wonBy_append, h, hone, if_true]
      simp
    | true =>
      have hone : wonBy x.maker [x] = 1 := by simp [wonBy, hx]
      have hlost : lostBy x.maker [x] = 0 := by simp [lostBy, hloses hx]
      simp [share, h, hone, hlost]
  · have hone : wonBy i [x] = 0 := by simp [wonBy, hi]
    have hlost : lostBy i [x] = 0 := by simp [lostBy, hi]
    simp [share, hone, hlost, hi]

private theorem sum_share_append [Fintype ι] (h : wonBy x.maker calls = 0) :
    ∑ i, share (calls ++ [x]) i =
    ∑ i, share calls i + if x.wins then lostBy x.maker calls else 0 := by
  simp only [share_append h, Finset.sum_add_distrib, Finset.sum_ite_eq, Finset.mem_univ, if_true]

end Shares

structure Fair {ι : Type} [Fintype ι] [DecidableEq ι] (add : ι → Add) (key : String) (r : Race ι) :
    Prop where
  stays : ∀ i, Stays (add i) r i
  justified : ∀ before x after, r.calls = before ++ x :: after → Justified key before x
  unwon : ∀ before x after, r.calls = before ++ x :: after → wonBy x.maker before = 0
  shares : 2 * ∑ i, share r.calls i + won r.calls ≤ won r.calls * won r.calls

section Fair

variable {ι : Type} [Fintype ι] [DecidableEq ι] {add : ι → Add} {key : String} {r : Race ι} {i : ι}

private theorem Fair.start (add : ι → Add) (key : String) (store : KvStore) :
    Fair add key (Race.start store) where
  stays i := ⟨rfl, Nat.le_refl _, rfl⟩
  justified := by simp [Race.start]
  unwon := by simp [Race.start]
  shares := by simp [Race.start, share, wonBy, won]

theorem Stays.wonBy_le {a : Add} (h : Stays a r i) : wonBy i r.calls ≤ 1 := by
  unfold Stays at h
  split at h <;> omega

theorem sum_wonBy (calls : List (Made ι)) : ∑ i, wonBy i calls = won calls :=
  sum_countP_maker Made.wins calls

theorem Fair.won_lt (hf : Fair add key r) (h : wonBy i r.calls = 0) :
    won r.calls < Fintype.card ι := by
  have hothers : ∑ j ∈ Finset.univ.erase i, wonBy j r.calls ≤ (Finset.univ.erase i).card * 1 :=
    Finset.sum_le_card_nsmul (Finset.univ.erase i) (fun j => wonBy j r.calls) 1
      fun j _ => (hf.stays j).wonBy_le
  have hsum := Finset.add_sum_erase Finset.univ (fun j => wonBy j r.calls) (Finset.mem_univ i)
  rw [sum_wonBy, h, Nat.zero_add] at hsum
  have hpos : 0 < Fintype.card ι := Fintype.card_pos_iff.mpr ⟨i⟩
  rw [Finset.card_erase_of_mem (Finset.mem_univ i), Finset.card_univ] at hothers
  omega

private theorem Fair.call (hf : Fair add key r) {r' : Race ι} {x : Made ι}
    (states : ∀ j, j ≠ x.maker → r'.states j = r.states j) (calls : r'.calls = r.calls ++ [x])
    (store : x.wins = true ∨ r'.store = r.store) (unwon : wonBy x.maker r.calls = 0)
    (justified : Justified key r.calls x) (own : Stays (add x.maker) r' x.maker) :
    Fair add key r' where
  stays j := by
    by_cases hj : j = x.maker
    · exact hj ▸ own
    · exact (hf.stays j).others (states j hj) calls (by simp [Ne.symm hj])
        (store.imp (fun h => ⟨x, List.mem_singleton_self x, h⟩) id)
  justified := by
    rw [calls]
    exact forall_split_concat hf.justified justified
  unwon := by
    rw [calls]
    exact forall_split_concat hf.unwon unwon
  shares := by
    have hshares := hf.shares
    rw [calls, sum_share_append unwon, won_append]
    cases justified with
    | read j value => simpa using hshares
    | taken j current next few =>
      -- The share of the new winner is at most the number of winners before it: the sum grows no
      -- faster than the square.
      simp only [won_singleton, Made.wins_taken, if_true]
      nlinarith
    | refused j current next actual lost => simpa using hshares

private theorem Stays.read {attempt : Nat} (h : Stays (add i) r i) (hkey : (add i).key = key)
    (state : r.states i = .reading attempt) : Stays (add i) (r.step add i) i := by
  rw [Stays, state] at h
  obtain ⟨hattempt, hle, hunwon⟩ := h
  rw [Race.step_reading state, hkey]
  generalize hread : Dictionary.get? key r.store = value
  have hlost : lostBy i (r.calls ++ [⟨i, .read key, .ok value⟩]) = lostBy i r.calls := by simp
  have hwonBy : wonBy i (r.calls ++ [⟨i, .read key, .ok value⟩]) = wonBy i r.calls := by simp
  simp only [Stays, Function.update_self, hlost, hwonBy, Add.afterRead, won_append]
  cases hsum : checkedAdd (value.getD 0) (add i).delta with
  | some next =>
    exact ⟨hattempt, ⟨r.calls, value,
      [], by rw [hkey], by simp, rfl, hle, .inr (by rw [hkey, hread])⟩,
      hunwon⟩
  | none => exact ⟨hle.trans (Nat.le_add_right _ _), hunwon, by simp [abort]⟩

private theorem Stays.taken {attempt : Nat} {current next : Int64} (h : Stays (add i) r i)
    (state : r.states i = .swapping attempt current next)
    (found : (Dictionary.get? (add i).key r.store).getD current = current) :
    Stays (add i) (r.step add i) i := by
  rw [Stays, state] at h
  obtain ⟨-, hsince, hunwon⟩ := h
  have hle := hsince.lostBy_le
  rw [Race.step_swapping_of_found state found]
  simp only [Stays, Function.update_self, lostBy_append, wonBy_append, won_append, lostBy_singleton,
    wonBy_singleton, won_singleton, Made.loses_taken, Made.wins_taken, if_true]
  exact ⟨by omega, by simpa using hle⟩

private theorem Stays.refused {attempt : Nat} {current next : Int64} (h : Stays (add i) r i)
    (state : r.states i = .swapping attempt current next)
    (changed : (Dictionary.get? (add i).key r.store).getD current ≠ current)
    (more : won r.calls < Fintype.card ι) : Stays (add i) (r.step add i) i := by
  rw [Stays, state] at h
  obtain ⟨hattempt, hsince, hunwon⟩ := h
  have hlt := (hsince.lost changed).2
  rw [Race.step_swapping_of_changed state changed]
  generalize Dictionary.get? (add i).key r.store = actual
  simp only [Stays, Function.update_self, lostBy_append, wonBy_append, won_append, lostBy_singleton,
    wonBy_singleton, Made.loses_refused, Made.wins_refused, if_true]
  rcases (add i).afterSwap_preconditionFailed attempt next (add i).key current actual with
    ⟨⟨max, hmax, hexhausted⟩, hnext⟩ | ⟨-, ⟨-, hnext⟩ | ⟨-, hnext⟩⟩ <;> rw [hnext]
  · refine ⟨by omega, hunwon, fun hbound => ?_⟩
    have := hbound max hmax
    omega
  · exact ⟨by omega, by omega, hunwon⟩
  · exact ⟨by omega, by omega, hunwon⟩

private theorem Fair.step (hf : Fair add key r) (hkey : ∀ i, (add i).key = key) (i : ι) :
    Fair add key (r.step add i) := by
  have hstays := hf.stays i
  unfold Stays at hstays
  cases hstate : r.states i with
  | reading attempt =>
    rw [hstate] at hstays
    have hown := (hf.stays i).read (hkey i) hstate
    rw [Race.step_reading hstate, hkey] at hown ⊢
    exact hf.call (x := ⟨i, .read key, .ok (Dictionary.get? key r.store)⟩)
      (fun j hj => Function.update_of_ne hj _ _) rfl (.inr rfl) hstays.2.2 (.read i _) hown
  | swapping attempt current next =>
    rw [hstate] at hstays
    obtain ⟨-, hsince, hunwon⟩ := hstays
    by_cases found : (Dictionary.get? (add i).key r.store).getD current = current
    · have hown := (hf.stays i).taken hstate found
      rw [Race.step_swapping_of_found hstate found] at hown ⊢
      rw [hkey] at hown hsince ⊢
      exact hf.call (x := ⟨i, .cas key current next true, .ok none⟩)
        (fun j hj => Function.update_of_ne hj _ _) rfl (.inl rfl) hunwon
        (.taken i current next hsince.lostBy_le) hown
    · have hother := (hsince.lost found).1
      have hown := (hf.stays i).refused hstate found (hf.won_lt hunwon)
      rw [Race.step_swapping_of_changed hstate found] at hown ⊢
      rw [hkey] at hown hother ⊢
      exact hf.call (x := ⟨i, .cas key current next true,
          .error (.preconditionFailed key current (Dictionary.get? key r.store))⟩)
        (fun j hj => Function.update_of_ne hj _ _) rfl (.inr rfl) hunwon
        (.refused i current next _ hother) hown
  | pausing attempt =>
    rw [hstate] at hstays
    rw [Race.step_pausing hstate]
    refine ⟨fun j => ?_, hf.justified, hf.unwon, hf.shares⟩
    by_cases hj : j = i
    · subst hj
      simp only [Stays, Function.update_self]
      exact ⟨by omega, hstays.2⟩
    · exact (hf.stays j).others (Function.update_of_ne hj _ _) (List.append_nil r.calls).symm
        (by simp)
        (.inr rfl)
  | done result =>
    rw [Race.step_done hstate]
    exact hf

theorem Fair.run (add : ι → Add) (hkey : ∀ i, (add i).key = key) (store : KvStore)
    (schedule : List ι) :
    Fair add key ((Race.start store).run add schedule) := by
  induction schedule using List.reverseRecOn with
  | nil => exact Fair.start add key store
  | append_singleton schedule i ih =>
    rw [Race.run, List.foldl_append]
    exact ih.step hkey i

end Fair

end ClusterNode.Counter
