import ClusterNode.Json.Basic

/-!
Broadcast values: numbers that count as the same when they are numerically equal, however they are
spelled.
-/

set_option autoImplicit false

namespace ClusterNode

structure BroadcastValue where
  number : Number

namespace BroadcastValue

/-- What a value is known by: an integer, or a double that is too large or no integer. -/
inductive Key where
  | integer (n : Int)
  | double (x : Double)
deriving DecidableEq

/-- Doubles below this magnitude, the one nearest to `10 ^ 38`, are known by the integer they
are. -/
def integralLimit : Nat :=
  ((Magnitude.pow10? 38).getD Magnitude.zero).val

def key (v : BroadcastValue) : Key :=
  match v.number with
  | .unsigned n => .integer n.toNat
  | .negative n => .integer n.val.toInt
  | .double x =>
    match x.toInt? with
    | some n => if x.magnitude.val < integralLimit then .integer n else .double x
    | none => .double x

def Key.word : Key → UInt64
  | .integer n => hash n
  | .double x => x.bits

instance : BEq BroadcastValue := ⟨fun v w => v.key = w.key⟩

instance : Hashable BroadcastValue := ⟨fun v => v.key.word⟩

instance : EquivBEq BroadcastValue where
  rfl := by simp [BEq.beq]
  symm := by simp [BEq.beq]; exact fun h => h.symm
  trans := by simp [BEq.beq]; exact fun h h' => h.trans h'

instance : LawfulHashable BroadcastValue where
  hash_eq v w h := by
    have h : v.key = w.key := by simpa [BEq.beq] using h
    simp [hash, h]

def isInteger (v : BroadcastValue) : Bool :=
  match v.number with
  | .double _ => false
  | _ => true

def toJson (v : BroadcastValue) : Json :=
  .number v.number

end BroadcastValue

end ClusterNode
