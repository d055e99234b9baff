import ClusterNode.Counter.Retry
import ClusterNode.Store.Routine

/-!
Counters over a store: each node adds to a key of its own by compare-and-swap, and the total is the
sum over the keys of all nodes.
-/

set_option autoImplicit false

namespace ClusterNode.Counter

def keyOf (node : String) : String :=
  "counter-" ++ node

def checkedAdd (a b : Int64) : Option Int64 :=
  let sum := a.toInt + b.toInt
  if Int64.minValue.toInt ≤ sum ∧ sum ≤ Int64.maxValue.toInt then some (.ofInt sum) else none

def abort (text : String) : StoreError :=
  .rpc ⟨.abort, text⟩

structure Add where
  node : String
  delta : Int64
  policy : RetryPolicy

namespace Add

inductive State where
  | reading (attempt : Nat)
  | swapping (attempt : Nat) (current next : Int64)
  | pausing (attempt : Nat)
  | done (result : Except StoreError Int64)

def start : State := .reading 1

def key (a : Add) : String := keyOf a.node

def afterRead (a : Add) (attempt : Nat) : StoreAnswer → State
  | .error e => .done (.error e)
  | .ok value =>
    let current := value.getD 0
    match checkedAdd current a.delta with
    | some next => .swapping attempt current next
    | none =>
      .done (.error (abort ("adding " ++ StoreError.integerText a.delta ++ " to "
        ++ StoreError.integerText current ++ " overflows " ++ a.key)))

/-- After the swap: a failed precondition means that another addition came first, and the cycle
starts over while attempts are left. -/
def afterSwap (a : Add) (attempt : Nat) (next : Int64) : StoreAnswer → State
  | .ok _ => .done (.ok next)
  | .error (.preconditionFailed _ _ _) =>
    if a.policy.exhausted attempt then .done (.error (.retriesExhausted a.key attempt))
    -- A delay of zero is no pause at all.
    else if a.policy.delay attempt = .zero then .reading (attempt + 1)
    else .pausing attempt
  | .error e => .done (.error e)

def move (a : Add) : State → StoreMove State
  | .reading attempt => .call (.read a.key) (a.afterRead attempt)
  | .swapping attempt current next =>
    .call (.cas a.key current next true) (a.afterSwap attempt next)
  | .pausing attempt => .pause (a.policy.delay attempt) (.reading (attempt + 1))
  | .done result => .done result

end Add

namespace Total

inductive State where
  | summing (total : Int64) (nodes : List String)
  | done (result : Except StoreError Int64)

def start (nodes : List String) : State := .summing 0 nodes

def afterRead (total : Int64) (node : String) (rest : List String) : StoreAnswer → State
  | .error e => .done (.error e)
  | .ok value =>
    let value := value.getD 0
    match checkedAdd total value with
    | some total => .summing total rest
    | none =>
      .done (.error (abort ("counter total overflows at " ++ keyOf node ++ " ("
        ++ StoreError.integerText total ++ " + " ++ StoreError.integerText value ++ ")")))

def move : State → StoreMove State
  | .summing total [] => .done (.ok total)
  | .summing total (node :: rest) => .call (.read (keyOf node)) (afterRead total node rest)
  | .done result => .done result

end Total

end ClusterNode.Counter
