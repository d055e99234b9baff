import ClusterNode.Payload.Fields

/-!
Payloads of the counter workload.
-/

set_option autoImplicit false

namespace ClusterNode.Payload

inductive Counter where
  | add (delta : Int64)
  | addOk
  | read
  | readOk (value : Int64)
deriving DecidableEq

namespace Counter

def tags : List String := ["add", "add_ok", "read", "read_ok"]

def fields : Counter → List (String × Json)
  | .add delta => [("type", .string "add"), ("delta", .ofInt64 delta)]
  | .addOk => [("type", .string "add_ok")]
  | .read => [("type", .string "read")]
  | .readOk value => [("type", .string "read_ok"), ("value", .ofInt64 value)]

def decode (body : Json) : Except Mismatch Counter := do
  let (tag, rest) ← tagged "CounterPayload" tags body
  if tag = "add" then
    return .add (← unary "CounterPayload" "Add" "delta" int64 rest)
  else if tag = "add_ok" then
    nullary rest
    return .addOk
  else if tag = "read" then
    nullary rest
    return .read
  else
    return .readOk (← unary "CounterPayload" "ReadOk" "value" int64 rest)

instance : Payload Counter := ⟨fields, decode⟩

end Counter

end ClusterNode.Payload
