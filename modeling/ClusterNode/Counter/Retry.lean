import ClusterNode.Duration

/-!
Retry policies: how often a lost race is repeated, and after which delays.
-/

set_option autoImplicit false

namespace ClusterNode

/-- A bound on the attempts, if there is one, and the delays between them. -/
structure RetryPolicy where
  maxAttempts : Option Nat
  baseDelay : Duration
  maxDelay : Duration
deriving DecidableEq, Repr

namespace RetryPolicy

def unbounded : RetryPolicy where
  maxAttempts := none
  baseDelay := .zero
  maxDelay := .ofMillis 100

def millisWord (d : Duration) : Nat :=
  d.millis % UInt64.size

/-- The delay after an attempt: the base delay, doubled after each further attempt, in milliseconds
up to the greatest 64-bit word and at most the greatest delay. -/
def delay (policy : RetryPolicy) (attempt : Nat) : Duration :=
  if attempt = 0 ∨ policy.baseDelay = .zero then .zero
  else
    -- The factor is a word too, so it is doubled 63 times at most.
    let factor := twoTo (min (attempt - 1) 63)
    let grown := min (millisWord policy.baseDelay * factor) (UInt64.size - 1)
    .ofMillis (min grown (millisWord policy.maxDelay))

def exhausted (policy : RetryPolicy) (attempt : Nat) : Bool :=
  match policy.maxAttempts with
  | some max => max ≤ attempt
  | none => false

end RetryPolicy

end ClusterNode
