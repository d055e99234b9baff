/-!
Requests that wait for a reply, by number.
-/

set_option autoImplicit false

namespace ClusterNode

/-- What is to be done with the reply to each request. Numbers count up from one and are never used
again. -/
structure Pending (α : Type) where
  lastId : UInt64
  entries : List (UInt64 × α)

namespace Pending

variable {α : Type}

def empty : Pending α := ⟨0, []⟩

def register (p : Pending α) (callback : α) : UInt64 × Pending α :=
  (p.lastId + 1, ⟨p.lastId + 1, p.entries ++ [(p.lastId + 1, callback)]⟩)

def get? (p : Pending α) (id : UInt64) : Option α :=
  (p.entries.find? fun entry => entry.1 = id).map (·.2)

def contains (p : Pending α) (id : UInt64) : Bool :=
  (p.get? id).isSome

def erase (p : Pending α) (id : UInt64) : Pending α :=
  { p with entries := p.entries.filter fun entry => entry.1 ≠ id }

def take (p : Pending α) (id : UInt64) : Option α × Pending α :=
  match p.get? id with
  | some callback => (some callback, p.erase id)
  | none => (none, p)

/-- Forgets a request that was never made, and tells whether it was there. -/
def cancel (p : Pending α) (id : UInt64) : Bool × Pending α :=
  ((p.take id).1.isSome, (p.take id).2)

def size (p : Pending α) : Nat :=
  p.entries.length

end Pending

end ClusterNode
