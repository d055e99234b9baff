import ClusterNode.Store.Basic
import ClusterNode.Duration

/-!
Routines over a store: machines that alternate between calls, pauses and their own steps, so that
several of them can be interleaved on one store.
-/

set_option autoImplicit false

namespace ClusterNode

inductive StoreMove (σ : Type) where
  | call (c : StoreCall) (next : StoreAnswer → σ)
  | pause (d : Duration) (next : σ)
  | done (result : Except StoreError Int64)

namespace StoreMove

/-- The outcome of a routine on its own: its result, the time it paused, and the store. -/
structure Outcome (τ : Type) where
  result : Except StoreError Int64
  paused : Duration
  store : τ

/-- Runs a routine on a store that nobody else uses. None if it is not done within the fuel. -/
def run {σ τ : Type} (move : σ → StoreMove σ) (perform : τ → StoreCall → StoreAnswer × τ)
    (fuel : Nat) (s : σ) (store : τ) (paused : Duration) : Option (Outcome τ) :=
  match fuel with
  | 0 => none
  | fuel + 1 =>
    match move s with
    | .done result => some ⟨result, paused, store⟩
    | .pause d next => run move perform fuel next store ⟨paused.nanos + d.nanos⟩
    | .call c next =>
      let (answer, store) := perform store c
      run move perform fuel (next answer) store paused

end StoreMove

end ClusterNode
