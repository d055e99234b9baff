import ClusterNode.Payload.Fields

/-!
Payloads of the workload that generates ids.
-/

set_option autoImplicit false

namespace ClusterNode.Payload

inductive Generate where
  | generate
  | generateOk (id : String)
deriving DecidableEq

namespace Generate

def tags : List String := ["generate", "generate_ok"]

def fields : Generate → List (String × Json)
  | .generate => [("type", .string "generate")]
  | .generateOk id => [("type", .string "generate_ok"), ("id", .string id)]

def decode (body : Json) : Except Mismatch Generate := do
  let (tag, rest) ← tagged "GeneratePayload" tags body
  if tag = "generate" then
    nullary rest
    return .generate
  else
    return .generateOk (← unary "GeneratePayload" "GenerateOk" "id" string rest)

instance : Payload Generate := ⟨fields, decode⟩

end Generate

end ClusterNode.Payload
