import ClusterNode.Store.Routine
import Mathlib.Logic.Function.Iterate

/-!
Routines on any store: what a routine has done after some moves, however the store answers. A run
that comes to an end is what the routine has done by then.
-/

set_option autoImplicit false

namespace ClusterNode.StoreMove

/-- What a routine does: a call, which the store answers, or a pause. -/
inductive Event where
  | asked (c : StoreCall) (answer : StoreAnswer)
  | paused (d : Duration)

structure Trace (σ τ : Type) where
  log : List Event
  state : σ
  store : τ

def pausedIn : List Event → Duration
  | [] => .zero
  | .asked _ _ :: log => pausedIn log
  | .paused d :: log => ⟨d.nanos + (pausedIn log).nanos⟩

section PausedIn

variable {log more : List Event}

@[simp] theorem pausedIn_append :
    (pausedIn (log ++ more)).nanos = (pausedIn log).nanos + (pausedIn more).nanos := by
  induction log with
  | nil => simp [pausedIn, Duration.zero]
  | cons e log ih =>
    cases e with
    | asked c answer => exact ih
    | paused d => simp only [List.cons_append, pausedIn, ih, Nat.add_assoc]

@[simp] theorem pausedIn_asked {c : StoreCall} {answer : StoreAnswer} :
    (pausedIn [.asked c answer]).nanos = 0 := rfl

@[simp] theorem pausedIn_paused {d : Duration} : (pausedIn [.paused d]).nanos = d.nanos := rfl

end PausedIn

variable {σ τ : Type} (move : σ → StoreMove σ) (perform : τ → StoreCall → StoreAnswer × τ)

def advance (t : Trace σ τ) : Trace σ τ :=
  match move t.state with
  | .call c next =>
    let (answer, store) := perform t.store c
    ⟨t.log ++ [.asked c answer], next answer, store⟩
  | .pause d next => ⟨t.log ++ [.paused d], next, t.store⟩
  | .done _ => t

def trace (s : σ) (store : τ) (moves : Nat) : Trace σ τ :=
  (advance move perform)^[moves] ⟨[], s, store⟩

section Advance

variable {move perform} {t : Trace σ τ}

theorem advance_call {c : StoreCall} {next : StoreAnswer → σ} (h : move t.state = .call c next) :
    advance move perform t = ⟨t.log ++ [.asked c (perform t.store c).1], next (perform t.store c).1,
      (perform t.store c).2⟩ := by
  simp only [advance, h]

theorem advance_pause {d : Duration} {s : σ} (h : move t.state = .pause d s) :
    advance move perform t = ⟨t.log ++ [.paused d], s, t.store⟩ := by
  simp only [advance, h]

theorem advance_done {result : Except StoreError Int64} (h : move t.state = .done result) :
    advance move perform t = t := by
  simp only [advance, h]

theorem trace_succ (s : σ) (store : τ) (moves : Nat) : trace move perform s store (moves + 1) =
    advance move perform (trace move perform s store moves) :=
  Function.iterate_succ_apply' _ _ _

private theorem iterate_advance_done {result : Except StoreError Int64}
    (h : move t.state = .done result)
    (moves : Nat) : (advance move perform)^[moves] t = t :=
  Function.iterate_fixed (advance_done h) moves

end Advance

structure Trace.Ends (t : Trace σ τ) (outcome : Outcome τ) : Prop where
  result : move t.state = .done outcome.result
  paused : outcome.paused = pausedIn t.log
  store : outcome.store = t.store

section Run

variable {move perform} {t : Trace σ τ} {outcome : Outcome τ}

private theorem exists_ends_succ {fuel : Nat} (open_state : ∀ result, move t.state ≠ .done result) :
    (∃ moves < fuel + 1, ((advance move perform)^[moves] t).Ends move outcome) ↔
      ∃ moves < fuel,
        ((advance move perform)^[moves] (advance move perform t)).Ends move outcome := by
  constructor
  · rintro ⟨moves, hlt, hends⟩
    cases moves with
    | zero => exact absurd hends.result (open_state _)
    | succ moves => exact ⟨moves, Nat.lt_of_succ_lt_succ hlt, hends⟩
  · rintro ⟨moves, hlt, hends⟩
    exact ⟨moves + 1, Nat.succ_lt_succ hlt, hends⟩

/-- A run is done within the fuel if the routine comes to an end in fewer moves, and brings what it
has then. -/
theorem run_eq_some_iff (fuel : Nat) (t : Trace σ τ) :
    run move perform fuel t.state t.store (pausedIn t.log) = some outcome ↔
      ∃ moves < fuel, ((advance move perform)^[moves] t).Ends move outcome := by
  induction fuel generalizing t with
  | zero => simp [run]
  | succ fuel ih =>
    cases hmove : move t.state with
    | done result =>
      simp only [run, hmove, iterate_advance_done hmove]
      constructor
      · rintro ⟨⟩
        exact ⟨0, Nat.succ_pos fuel, hmove, rfl, rfl⟩
      · rintro ⟨-, -, hresult, hpaused, hstore⟩
        obtain rfl : result = outcome.result := by simpa [hmove] using hresult
        rw [← hpaused, ← hstore]
    | pause d s =>
      have hpaused : (⟨(pausedIn t.log).nanos + d.nanos⟩ : Duration) =
          pausedIn (advance move perform t).log := by
        rw [advance_pause hmove]
        exact congrArg Duration.mk (by simp)
      have hrun : run move perform (fuel + 1) t.state t.store (pausedIn t.log) =
          run move perform fuel (advance move perform t).state (advance move perform t).store
            (pausedIn (advance move perform t).log) := by
        rw [← hpaused, advance_pause hmove]
        simp only [run, hmove]
      rw [hrun, ih, exists_ends_succ (by simp [hmove])]
    | call c next =>
      have hpaused : pausedIn t.log = pausedIn (advance move perform t).log := by
        rw [advance_call hmove]
        exact congrArg Duration.mk (by simp)
      have hrun : run move perform (fuel + 1) t.state t.store (pausedIn t.log) =
          run move perform fuel (advance move perform t).state (advance move perform t).store
            (pausedIn (advance move perform t).log) := by
        rw [← hpaused, advance_call hmove]
        simp only [run, hmove]
      rw [hrun, ih, exists_ends_succ (by simp [hmove])]

end Run

end ClusterNode.StoreMove
