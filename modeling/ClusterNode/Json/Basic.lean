import ClusterNode.Dictionary
import ClusterNode.Json.Number

/-!
JSON values. Objects are dictionaries, so a value does not remember the order in which its fields
were given.
-/

set_option autoImplicit false

namespace ClusterNode

inductive Json where
  | null
  | bool (b : Bool)
  | number (n : Number)
  | string (s : String)
  | array (items : List Json)
  | object (fields : List (String × Json))

instance : Inhabited Json := ⟨.null⟩

namespace Json

def field? (key : String) : Json → Option Json
  | .object fields => Dictionary.get? key fields
  | _ => none

def toString? : Json → Option String
  | .string s => some s
  | _ => none

def toUInt64? : Json → Option UInt64
  | .number n => n.toUInt64?
  | _ => none

def toInt64? : Json → Option Int64
  | .number n => n.toInt64?
  | _ => none

def ofInt64 (n : Int64) : Json :=
  .number (.ofInt64 n)

def ofUInt64 (n : UInt64) : Json :=
  .number (.unsigned n)

def ofStrings (items : List String) : Json :=
  .array (items.map .string)

mutual

def Canonical : Json → Prop
  | .array items => CanonicalItems items
  | .object fields => Dictionary.Sorted fields ∧ CanonicalFields fields
  | _ => True

def CanonicalItems : List Json → Prop
  | [] => True
  | v :: rest => Canonical v ∧ CanonicalItems rest

def CanonicalFields : List (String × Json) → Prop
  | [] => True
  | (_, v) :: rest => Canonical v ∧ CanonicalFields rest

end

mutual

def depth : Json → Nat
  | .array items => depthItems items + 1
  | .object fields => depthFields fields + 1
  | _ => 0

def depthItems : List Json → Nat
  | [] => 0
  | v :: rest => max (depth v) (depthItems rest)

def depthFields : List (String × Json) → Nat
  | [] => 0
  | (_, v) :: rest => max (depth v) (depthFields rest)

end

end Json

end ClusterNode
