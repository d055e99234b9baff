import ClusterNode.Proofs.Basic
import ClusterNode.Proofs.Counter.Add
import ClusterNode.Proofs.Store.Routine

/-!
Attempts: an addition on any store, whatever the store answers. Each attempt reads the key and swaps
what it has read for the exact sum. A swap that is lost leads to another attempt, after the delay of
the policy and while attempts are left; anything else ends the addition at once.
-/

set_option autoImplicit false

namespace ClusterNode

open StoreMove (Event)

namespace StoreMove.Event

def isSwap : Event → Bool
  | .asked (.cas _ _ _ _) _ => true
  | _ => false

def isLost : Event → Bool
  | .asked (.cas _ _ _ _) (.error (.preconditionFailed _ _ _)) => true
  | _ => false

section Kinds

variable {key : String} {expected new : Int64} {create : Bool} {answer : StoreAnswer}

@[simp] theorem isSwap_read : (asked (.read key) answer).isSwap = false := rfl

@[simp] theorem isSwap_cas : (asked (.cas key expected new create) answer).isSwap = true := rfl

@[simp] theorem isSwap_paused {d : Duration} : (paused d).isSwap = false := rfl

@[simp] theorem isLost_read : (asked (.read key) answer).isLost = false := rfl

@[simp] theorem isLost_taken {value : Option Int64} :
    (asked (.cas key expected new create) (.ok value)).isLost = false := rfl

@[simp] theorem isLost_refused {e : StoreError} :
    (asked (.cas key expected new create) (.error e)).isLost = true ↔
      ∃ key expected actual, e = .preconditionFailed key expected actual := by
  cases e <;> simp [isLost]

@[simp] theorem isLost_paused {d : Duration} : (paused d).isLost = false := rfl

end Kinds

end StoreMove.Event

namespace Counter

/-- How many swaps were asked for. -/
def swapsIn (log : List Event) : Nat := log.countP Event.isSwap

/-- How many swaps were lost. -/
def lossesIn (log : List Event) : Nat := log.countP Event.isLost

def EndsLost (log : List Event) : Prop := ∃ e, log.getLast? = some e ∧ e.isLost = true

section Counts

variable {log : List Event} {e : Event}

@[simp] theorem swapsIn_concat :
    swapsIn (log ++ [e]) = swapsIn log + if e.isSwap then 1 else 0 := by
  simp [swapsIn, List.countP_append, List.countP_singleton]

@[simp] theorem lossesIn_concat :
    lossesIn (log ++ [e]) = lossesIn log + if e.isLost then 1 else 0 := by
  simp [lossesIn, List.countP_append, List.countP_singleton]

@[simp] theorem endsLost_concat : EndsLost (log ++ [e]) ↔ e.isLost = true := by
  simp [EndsLost]

private theorem not_endsLost {e : Event} (last : log.getLast? = some e) (kept : e.isLost = false) :
    ¬ EndsLost log := by
  rintro ⟨e', last', lost⟩
  rw [last, Option.some.injEq] at last'
  subst last'
  simp [kept] at lost

end Counts

namespace Add

def overflow (a : Add) (current : Int64) : StoreError :=
  abort ("adding " ++ StoreError.integerText a.delta ++ " to " ++ StoreError.integerText current
    ++ " overflows " ++ a.key)

/-- An addition is to make another attempt: it has just lost a swap, and attempts are left. -/
structure Retries (a : Add) (log : List Event) : Prop where
  lost : EndsLost log
  left : ∀ max ∈ a.policy.maxAttempts, swapsIn log < max

/-- What has happened when an attempt begins: nothing, or a swap was lost and the delay after it, if
there is one, is over. -/
inductive Begins (a : Add) : List Event → Prop
  | first : Begins a []
  | again {log : List Event} (retries : a.Retries log)
      (at_once : a.policy.delay (swapsIn log) = .zero) : Begins a log
  | rested {log : List Event} (retries : a.Retries log)
      (waits : a.policy.delay (swapsIn log) ≠ .zero) :
      Begins a (log ++ [.paused (a.policy.delay (swapsIn log))])

/-- What an addition does after what has happened: it reads its key at the beginning of an attempt,
swaps what it has just read, absent counting as zero, for the exact sum, and pauses after a swap
that it has lost. -/
inductive Proper (a : Add) (before : List Event) : Event → Prop
  | read (answer : StoreAnswer) (begins : a.Begins before) :
    Proper a before (.asked (.read a.key) answer)
  | swap (value : Option Int64) (next : Int64) (answer : StoreAnswer)
      (found : before.getLast? = some (.asked (.read a.key) (.ok value)))
      (exact_sum : next.toInt = (value.getD 0).toInt + a.delta.toInt) :
      Proper a before (.asked (.cas a.key (value.getD 0) next true) answer)
  | pause (retries : a.Retries before) (waits : a.policy.delay (swapsIn before) ≠ .zero) :
      Proper a before (.paused (a.policy.delay (swapsIn before)))

inductive Ends (a : Add) (log : List Event) : Except StoreError Int64 → Prop
  | committed {current sum : Int64} {value : Option Int64}
      (taken : log.getLast? = some (.asked (.cas a.key current sum true) (.ok value))) :
        Ends a log (.ok sum)
  | unread {e : StoreError} (failed : log.getLast? = some (.asked (.read a.key) (.error e))) :
      Ends a log (.error e)
  | overflow {value : Option Int64} (found : log.getLast? = some (.asked (.read a.key) (.ok value)))
      (unfit : ¬ FitsWord ((value.getD 0).toInt + a.delta.toInt)) :
      Ends a log (.error (a.overflow (value.getD 0)))
  | exhausted {max : Nat} (lost : EndsLost log) (bound : a.policy.maxAttempts = some max)
      (spent : max ≤ swapsIn log) : Ends a log (.error (.retriesExhausted a.key (swapsIn log)))
  | refused {current sum : Int64} {e : StoreError}
      (failed : log.getLast? = some (.asked (.cas a.key current sum true) (.error e)))
      (other : ∀ key expected actual, e ≠ .preconditionFailed key expected actual) :
        Ends a log (.error e)

/-- How an addition behaves that has done something in some moves and has come to a state. -/
structure Behaves (a : Add) (moves : Nat) (log : List Event) (s : State) : Prop where
  proper : ∀ before e after, log = before ++ e :: after → a.Proper before e
  ends : ∀ result, s = .done result ↔ a.Ends log result
  /-- If the attempts are bounded, so are the swaps, and the addition gives up, telling their
  number, exactly if as many have been lost. -/
  bounded : ∀ max ∈ a.policy.maxAttempts, swapsIn log ≤ Max.max max 1 ∧
    (lossesIn log = Max.max max 1 ↔
      EndsLost log ∧ s = .done (.error (.retriesExhausted a.key (swapsIn log))))
  goes_on : (∀ result, s ≠ .done result) → log.length = moves
  comes_to_end : ∀ max ∈ a.policy.maxAttempts, 3 * Max.max max 1 ≤ moves →
    ∃ result, s = .done result

structure Open (a : Add) (log : List Event) : Prop where
  lost : lossesIn log = swapsIn log
  left : ∀ max ∈ a.policy.maxAttempts, swapsIn log < Max.max max 1

/-- The swaps that are allowed were lost exactly if this is why the addition has ended. -/
def Closed (a : Add) (log : List Event) (result : Except StoreError Int64) : Prop :=
  ∀ max ∈ a.policy.maxAttempts, swapsIn log ≤ Max.max max 1 ∧
    (lossesIn log = Max.max max 1 ↔
      EndsLost log ∧ result = .error (.retriesExhausted a.key (swapsIn log)))

def Stage (a : Add) (log : List Event) : State → Prop
  | .reading attempt => a.Open log ∧ attempt = swapsIn log + 1 ∧ a.Begins log
  | .swapping attempt current next => a.Open log ∧ attempt = swapsIn log + 1 ∧
    ∃ value, log.getLast? = some (.asked (.read a.key) (.ok value)) ∧ current = value.getD 0 ∧
      checkedAdd current a.delta = some next
  | .pausing attempt => a.Open log ∧ attempt = swapsIn log ∧ a.Retries log ∧
    a.policy.delay attempt ≠ .zero
  | .done result => a.Ends log result ∧ a.Closed log result

section Stage

variable {a : Add} {log : List Event} {s : State} {e : Event} {attempt : Nat} {current next : Int64}

private theorem closed_of_lt (fewer : ∀ max ∈ a.policy.maxAttempts, lossesIn log < Max.max max 1)
    (within : ∀ max ∈ a.policy.maxAttempts, swapsIn log ≤ Max.max max 1) (kept : ¬ EndsLost log)
    (result : Except StoreError Int64) : a.Closed log result := by
  intro max hmax
  have hfewer := fewer max hmax
  exact ⟨within max hmax, fun h => by omega, fun h => absurd h.1 kept⟩

private theorem Open.concat (h : a.Open log) (hswap : e.isSwap = false) (hlost : e.isLost = false) :
    a.Open (log ++ [e]) where
  lost := by simp [hswap, hlost, h.lost]
  left := by simpa [hswap] using h.left

private theorem Open.closed (h : a.Open log) (hswap : e.isSwap = false) (hlost : e.isLost = false)
    (result : Except StoreError Int64) : a.Closed (log ++ [e]) result := by
  have hopen := h.concat hswap hlost
  refine closed_of_lt (fun max hmax => ?_) (fun max hmax => Nat.le_of_lt (hopen.left max hmax))
    (by simp [hlost]) result
  rw [hopen.lost]
  exact hopen.left max hmax

private theorem Open.closed_swap (h : a.Open log) (hswap : e.isSwap = true)
    (hlost : e.isLost = false)
    (result : Except StoreError Int64) : a.Closed (log ++ [e]) result := by
  have hlosses := h.lost
  refine closed_of_lt (fun max hmax => ?_) (fun max hmax => ?_) (by simp [hlost]) result
  · have hleft := h.left max hmax
    simp only [lossesIn_concat, hlost, Bool.false_eq_true, if_false]
    omega
  · have hleft := h.left max hmax
    simp only [swapsIn_concat, hswap, if_true]
    omega

private theorem Stage.start (a : Add) : a.Stage [] start :=
  ⟨⟨rfl, fun max _ => by simp only [swapsIn, List.countP_nil]; omega⟩, rfl, .first⟩

private theorem Stage.read (hopen : a.Open log) (answer : StoreAnswer) :
    a.Stage (log ++ [.asked (.read a.key) answer]) (a.afterRead (swapsIn log + 1) answer) := by
  have hlast := List.getLast?_concat (l := log) (a := Event.asked (.read a.key) answer)
  cases answer with
  | error e => exact ⟨.unread hlast, hopen.closed rfl rfl _⟩
  | ok value =>
    simp only [afterRead]
    cases hadd : checkedAdd (value.getD 0) a.delta with
    | some sum => exact ⟨hopen.concat rfl rfl, by simp [Event.isSwap], value, hlast, rfl, hadd⟩
    | none => exact ⟨.overflow hlast (not_fitsWord_of_checkedAdd hadd), hopen.closed rfl rfl _⟩

private theorem Stage.lost (hopen : a.Open log) (key : String) (expected : Int64)
    (actual : Option Int64) :
    let e : Event := .asked (.cas a.key current next true)
      (.error (.preconditionFailed key expected actual))
    a.Stage (log ++ [e])
        (a.afterSwap (swapsIn log + 1) next
            (.error (.preconditionFailed key expected actual))) := by
  intro e
  have hlost : EndsLost (log ++ [e]) := endsLost_concat.mpr rfl
  have hswaps : swapsIn (log ++ [e]) = swapsIn log + 1 := by simp [e, Event.isSwap]
  have hlosses : lossesIn (log ++ [e]) = swapsIn (log ++ [e]) := by
    simp [e, Event.isSwap, Event.isLost, hopen.lost]
  rw [← hswaps]
  rcases a.afterSwap_preconditionFailed (swapsIn (log ++ [e])) next key expected actual with
    ⟨⟨max, hmax, hspent⟩, hnext⟩ | ⟨hleft, hnext⟩
  · rw [hnext]
    refine ⟨.exhausted hlost hmax hspent, fun max' hmax' => ?_⟩
    obtain rfl : max = max' := Option.mem_unique hmax hmax'
    have hleft := hopen.left max hmax
    exact ⟨by omega, fun _ => ⟨hlost, rfl⟩, fun _ => by omega⟩
  · have hretries : a.Retries (log ++ [e]) := ⟨hlost, hleft⟩
    have hopen' : a.Open (log ++ [e]) :=
      ⟨hlosses, fun max hmax => Nat.lt_of_lt_of_le (hleft max hmax) (Nat.le_max_left max 1)⟩
    rcases hnext with ⟨hzero, hnext⟩ | ⟨hwait, hnext⟩ <;> rw [hnext]
    · exact ⟨hopen', rfl, .again hretries hzero⟩
    · exact ⟨hopen', rfl, hretries, hwait⟩

private theorem Stage.swap (hopen : a.Open log) (answer : StoreAnswer) :
    a.Stage (log ++ [.asked (.cas a.key current next true) answer])
      (a.afterSwap (swapsIn log + 1) next answer) := by
  cases answer with
  | ok value => exact ⟨.committed List.getLast?_concat, hopen.closed_swap rfl rfl _⟩
  | error e =>
    cases e with
    | preconditionFailed key expected actual => exact Stage.lost hopen key expected actual
    | keyNotFound key =>
      exact ⟨.refused List.getLast?_concat (by simp), hopen.closed_swap rfl rfl _⟩
    | retriesExhausted key attempts =>
      exact ⟨.refused List.getLast?_concat (by simp), hopen.closed_swap rfl rfl _⟩
    | rpc e => exact ⟨.refused List.getLast?_concat (by simp), hopen.closed_swap rfl rfl _⟩

private theorem Stage.call {c : StoreCall} {k : StoreAnswer → State} (h : a.Stage log s)
    (hmove : a.move s = .call c k) (answer : StoreAnswer) :
    a.Proper log (.asked c answer) ∧ a.Stage (log ++ [.asked c answer]) (k answer) := by
  cases s with
  | reading attempt =>
    obtain ⟨rfl, rfl⟩ := StoreMove.call.inj hmove
    obtain ⟨hopen, rfl, hbegins⟩ := h
    exact ⟨.read answer hbegins, Stage.read hopen answer⟩
  | swapping attempt current next =>
    obtain ⟨rfl, rfl⟩ := StoreMove.call.inj hmove
    obtain ⟨hopen, rfl, value, hfound, rfl, hadd⟩ := h
    exact ⟨.swap value next answer hfound (toInt_of_checkedAdd hadd), Stage.swap hopen answer⟩
  | pausing attempt => cases hmove
  | done result => cases hmove

private theorem Stage.pause {d : Duration} {s' : State} (h : a.Stage log s)
    (hmove : a.move s = .pause d s') :
    a.Proper log (.paused d) ∧ a.Stage (log ++ [.paused d]) s' := by
  cases s with
  | pausing attempt =>
    obtain ⟨rfl, rfl⟩ := StoreMove.pause.inj hmove
    obtain ⟨hopen, rfl, hretries, hwaits⟩ := h
    exact ⟨.pause hretries hwaits,
      hopen.concat rfl rfl, by simp [Event.isSwap], .rested hretries hwaits⟩
  | reading attempt => cases hmove
  | swapping attempt current next => cases hmove
  | done result => cases hmove

end Stage

section Ends

variable {a : Add} {log : List Event} {s : State} {result result' : Except StoreError Int64}

private theorem Retries.not_ends (h : a.Retries log) : ¬ a.Ends log result := by
  intro hends
  cases hends with
  | committed taken => exact not_endsLost taken rfl h.lost
  | unread failed => exact not_endsLost failed rfl h.lost
  | overflow found unfit => exact not_endsLost found rfl h.lost
  | exhausted lost bound spent => exact absurd (h.left _ bound) (Nat.not_lt.mpr spent)
  | @refused current sum e failed other =>
    cases e with
    | preconditionFailed key expected actual => exact other key expected actual rfl
    | _ => exact not_endsLost failed rfl h.lost

private theorem Ends.asked (h : a.Ends log result) :
    ∃ c answer, log.getLast? = some (.asked c answer) := by
  cases h with
  | committed taken => exact ⟨_, _, taken⟩
  | unread failed => exact ⟨_, _, failed⟩
  | overflow found unfit => exact ⟨_, _, found⟩
  | exhausted lost bound spent =>
    obtain ⟨e, last, hlost⟩ := lost
    cases e with
    | asked c answer => exact ⟨c, answer, last⟩
    | paused d => cases hlost
  | refused failed other => exact ⟨_, _, failed⟩

private theorem Begins.not_ends (h : a.Begins log) : ¬ a.Ends log result := by
  intro hends
  cases h with
  | first =>
    obtain ⟨c, answer, last⟩ := hends.asked
    cases last
  | again retries at_once => exact retries.not_ends hends
  | rested retries waits =>
    obtain ⟨c, answer, last⟩ := hends.asked
    rw [List.getLast?_concat] at last
    cases last

private theorem Ends.of_found {value : Option Int64} (h : a.Ends log result)
    (found : log.getLast? = some (.asked (.read a.key) (.ok value))) :
    ¬ FitsWord ((value.getD 0).toInt + a.delta.toInt) ∧
      result = .error (a.overflow (value.getD 0)) := by
  cases h with
  | committed taken => simp [found] at taken
  | unread failed => simp [found] at failed
  | overflow found' unfit =>
    obtain rfl : value = _ := by simpa [found] using found'
    exact ⟨unfit, rfl⟩
  | exhausted lost bound spent => exact absurd lost (not_endsLost found rfl)
  | refused failed other => simp [found] at failed

private theorem Ends.unique (h : a.Ends log result) (h' : a.Ends log result') :
    result = result' := by
  cases h <;> cases h' <;> simp_all [EndsLost]

private theorem Stage.ends_iff (h : a.Stage log s) (result : Except StoreError Int64) :
    s = .done result ↔ a.Ends log result := by
  refine ⟨fun hs => (hs ▸ h : a.Stage log (.done result)).1, fun hends => ?_⟩
  cases s with
  | reading attempt => exact absurd hends h.2.2.not_ends
  | swapping attempt current next =>
    obtain ⟨-, -, value, found, rfl, hadd⟩ := h
    exact absurd (fitsWord_of_checkedAdd hadd) (hends.of_found found).1
  | pausing attempt => exact absurd hends h.2.2.1.not_ends
  | done result' => rw [h.1.unique hends]

private theorem Stage.open_of_not_done (h : a.Stage log s) (goes_on : ∀ result, s ≠ .done result) :
    a.Open log := by
  cases s with
  | reading attempt => exact h.1
  | swapping attempt current next => exact h.1
  | pausing attempt => exact h.1
  | done result => exact absurd rfl (goes_on result)

private theorem Stage.lt_of_paced {moves : Nat} (h : a.Stage log s) (pace : Paced moves s)
    (goes_on : ∀ result, s ≠ .done result) :
    ∀ max ∈ a.policy.maxAttempts, moves < 3 * Max.max max 1 := by
  intro max hmax
  have hleft := (h.open_of_not_done goes_on).left max hmax
  cases s with
  | reading attempt =>
    obtain ⟨-, rfl, -⟩ := h
    simp only [Paced] at pace
    omega
  | swapping attempt current next =>
    obtain ⟨-, rfl, -⟩ := h
    simp only [Paced] at pace
    omega
  | pausing attempt =>
    obtain ⟨-, rfl, -⟩ := h
    simp only [Paced] at pace
    omega
  | done result => exact absurd rfl (goes_on result)

private theorem Stage.bounded (h : a.Stage log s) :
    ∀ max ∈ a.policy.maxAttempts, swapsIn log ≤ Max.max max 1 ∧
    (lossesIn log = Max.max max 1 ↔
      EndsLost log ∧ s = .done (.error (.retriesExhausted a.key (swapsIn log)))) := by
  intro max hmax
  by_cases hdone : ∃ result, s = .done result
  · obtain ⟨result, rfl⟩ := hdone
    simpa only [State.done.injEq] using h.2 max hmax
  · have hs : ∀ result, s ≠ .done result := not_exists.mp hdone
    have hopen := h.open_of_not_done hs
    have hleft := hopen.left max hmax
    have hlost := hopen.lost
    exact ⟨Nat.le_of_lt hleft, fun hall => by omega, fun hgave => absurd hgave.2 (hs _)⟩

end Ends

section Trace

variable {τ : Type} (a : Add) (perform : τ → StoreCall → StoreAnswer × τ) (store : τ)

structure Kept (moves : Nat) (log : List Event) (s : State) : Prop where
  stage : a.Stage log s
  proper : ∀ before e after, log = before ++ e :: after → a.Proper before e
  goes_on : (∀ result, s ≠ .done result) → log.length = moves
  pace : Paced moves s

private theorem kept_trace (moves : Nat) :
    let t := StoreMove.trace a.move perform start store moves
    a.Kept moves t.log t.state := by
  induction moves with
  | zero => exact ⟨.start a, by simp [StoreMove.trace], fun _ => rfl, Nat.le_refl 3⟩
  | succ moves ih =>
    simp only [StoreMove.trace_succ]
    generalize StoreMove.trace a.move perform start store moves = t at ih ⊢
    cases hmove : a.move t.state with
    | call c next =>
      obtain ⟨hproper, hstage⟩ := ih.stage.call hmove (perform t.store c).1
      have hlength : t.log.length = moves :=
        ih.goes_on fun result hdone => by simp [hdone, move] at hmove
      rw [StoreMove.advance_call hmove]
      exact ⟨hstage, forall_split_concat ih.proper hproper,
        fun _ => by simp [hlength], ih.pace.call hmove _⟩
    | pause d s =>
      obtain ⟨hproper, hstage⟩ := ih.stage.pause hmove
      have hlength : t.log.length = moves :=
        ih.goes_on fun result hdone => by simp [hdone, move] at hmove
      rw [StoreMove.advance_pause hmove]
      exact ⟨hstage, forall_split_concat ih.proper hproper,
        fun _ => by simp [hlength], ih.pace.pause hmove⟩
    | done result =>
      have hdone := eq_done_of_move hmove
      rw [StoreMove.advance_done hmove]
      exact ⟨ih.stage, ih.proper, fun hs => absurd hdone (hs result), by rw [hdone]; trivial⟩

variable {a} in
private theorem Kept.behaves {moves : Nat} {log : List Event} {s : State} (h : a.Kept moves log s) :
    a.Behaves moves log s where
  proper := h.proper
  ends := h.stage.ends_iff
  bounded := h.stage.bounded
  goes_on := h.goes_on
  comes_to_end := by
    intro max hmax henough
    by_contra hs
    have hfew := h.stage.lt_of_paced h.pace (not_exists.mp hs) max hmax
    exact absurd hfew (Nat.not_lt.mpr henough)

/-- Whatever a store answers, an addition behaves as it should at every moment, and a run of it is
done with what it has done by then. -/
theorem behaves_on_any_store :
    (∀ moves, let t := StoreMove.trace a.move perform start store moves
      a.Behaves moves t.log t.state) ∧
    ∀ fuel outcome, StoreMove.run a.move perform fuel start store .zero = some outcome ↔
      ∃ moves < fuel, let t := StoreMove.trace a.move perform start store moves
        t.state = .done outcome.result ∧ outcome.paused = StoreMove.pausedIn t.log ∧
          outcome.store = t.store := by
  refine ⟨fun moves => (kept_trace a perform store moves).behaves, fun fuel outcome => ?_⟩
  rw [show Duration.zero = StoreMove.pausedIn [] from rfl,
    StoreMove.run_eq_some_iff fuel ⟨[], start, store⟩]
  refine exists_congr fun moves => and_congr_right fun _ => ⟨fun h => ?_, fun h => ?_⟩
  · exact ⟨eq_done_of_move h.result, h.paused, h.store⟩
  · obtain ⟨hstate, hpaused, hstore⟩ := h
    exact ⟨congrArg a.move hstate, hpaused, hstore⟩

end Trace

end Add

end Counter

end ClusterNode
