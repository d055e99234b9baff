import Std.Data.HashSet
import ClusterNode.Dictionary

/-!
Gossip: the values a node has accepted, each once, and the neighbors it forwards them to.
-/

set_option autoImplicit false

namespace ClusterNode

/-- The accepted values, as a set and in order of acceptance, and the neighbors. -/
structure Gossip (α : Type) [BEq α] [Hashable α] where
  seen : Std.HashSet α
  log : List α
  neighbors : List String

namespace Gossip

variable {α : Type} [BEq α] [Hashable α]

def empty : Gossip α where
  seen := ∅
  log := []
  neighbors := []

inductive Acceptance where
  | fresh (neighbors : List String)
  | duplicate
deriving DecidableEq, Repr

def contains (g : Gossip α) (v : α) : Bool :=
  g.seen.contains v

/-- Records a value unless an equal one was recorded before, and says whether it is fresh. -/
def record (g : Gossip α) (v : α) : Bool × Gossip α :=
  if g.contains v then (false, g)
  else (true, { g with seen := g.seen.insert v, log := g.log ++ [v] })

/-- Accepts a value: records it, then looks at the neighbors if it is fresh. -/
def accept (g : Gossip α) (v : α) : Acceptance × Gossip α :=
  let (fresh, g) := g.record v
  (if fresh then .fresh g.neighbors else .duplicate, g)

def setNeighbors (g : Gossip α) (neighbors : List String) : Gossip α :=
  { g with neighbors }

def snapshot (g : Gossip α) : List α :=
  g.log

def size (g : Gossip α) : Nat :=
  g.log.length

end Gossip

def neighborsFor (topology : Dictionary (List String)) (node : String) : Option (List String) :=
  Dictionary.get? node topology

end ClusterNode
