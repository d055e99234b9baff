import ClusterNode.Gossip.Value
import ClusterNode.Payload.Fields

/-!
Payloads of the broadcast workload.
-/

set_option autoImplicit false

namespace ClusterNode.Payload

/-- Values are broadcast, read back, and forwarded along a topology. -/
inductive Broadcast where
  | broadcast (message : BroadcastValue)
  | broadcastOk
  | read
  | readOk (messages : List BroadcastValue)
  | topology (topology : Dictionary (List String))
  | topologyOk

namespace Broadcast

def tags : List String :=
  ["broadcast", "broadcast_ok", "read", "read_ok", "topology", "topology_ok"]

def value : Decoder BroadcastValue :=
  fun v => (number v).map BroadcastValue.mk

def fields : Broadcast → List (String × Json)
  | .broadcast message => [("type", .string "broadcast"), ("message", message.toJson)]
  | .broadcastOk => [("type", .string "broadcast_ok")]
  | .read => [("type", .string "read")]
  | .readOk messages =>
    [("type", .string "read_ok"), ("messages", .array (messages.map BroadcastValue.toJson))]
  | .topology table =>
    [("type", .string "topology"),
      ("topology", .object (table.map fun (node, neighbors) => (node, .ofStrings neighbors)))]
  | .topologyOk => [("type", .string "topology_ok")]

def decode (body : Json) : Except Mismatch Broadcast := do
  let (tag, rest) ← tagged "BroadcastPayload" tags body
  if tag = "broadcast" then
    return .broadcast (← unary "BroadcastPayload" "Broadcast" "message" value rest)
  else if tag = "broadcast_ok" then
    nullary rest
    return .broadcastOk
  else if tag = "read" then
    nullary rest
    return .read
  else if tag = "read_ok" then
    return .readOk (← unary "BroadcastPayload" "ReadOk" "messages" (list value) rest)
  else if tag = "topology" then
    return .topology
      (← unary "BroadcastPayload" "Topology" "topology" (dictionary (list string)) rest)
  else
    nullary rest
    return .topologyOk

instance : Payload Broadcast := ⟨fields, decode⟩

end Broadcast

end ClusterNode.Payload
