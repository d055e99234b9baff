import ClusterNode.Payload.Fields

/-!
Payloads by which a node is given its identity.
-/

set_option autoImplicit false

namespace ClusterNode.Payload

/-- The request that gives a node its id and the ids of the cluster, and the answer. -/
inductive Init where
  | init (nodeId : String) (nodeIds : List String)
  | initOk
deriving DecidableEq

namespace Init

def tags : List String := ["init", "init_ok"]

def fields : Init → List (String × Json)
  | .init nodeId nodeIds =>
    [("type", .string "init"), ("node_id", .string nodeId), ("node_ids", .ofStrings nodeIds)]
  | .initOk => [("type", .string "init_ok")]

def decode (body : Json) : Except Mismatch Init := do
  let (tag, rest) ← tagged "InitPayload" tags body
  if tag = "init" then
    let (nodeId, nodeIds) ← binary "InitPayload" "Init" "node_id" "node_ids" string
      (list string) rest
    return .init nodeId nodeIds
  else
    nullary rest
    return .initOk

instance : Payload Init := ⟨fields, decode⟩

end Init

end ClusterNode.Payload
