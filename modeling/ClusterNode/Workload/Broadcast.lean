import ClusterNode.Gossip.State
import ClusterNode.Payload.Broadcast
import ClusterNode.Workload.Basic

/-!
The broadcast workload: a node accepts each value once, confirms it, and forwards a fresh one to its
neighbors. It tells which values it has accepted, and takes its neighbors from a topology.
-/

set_option autoImplicit false

namespace ClusterNode.Workload.Broadcast

abbrev Values := Gossip BroadcastValue

inductive Job where
  | received (request : Message)
  /-- The value has been recorded, and the neighbors have not been looked at. -/
  | recorded (value : BroadcastValue) (fresh : Bool)
  /-- The value has been offered, and the request is to be confirmed. -/
  | offered (value : BroadcastValue) (acceptance : Gossip.Acceptance)
  | forwarding (value : BroadcastValue) (neighbors : List String)
  | answering (payload : Payload.Broadcast)
  | ending (result : Except NodeError Unit)

def kinds : List String := ["broadcast", "read", "topology"]

def begin (view : View) (values : Values) (request : Message) : Action Job × Values :=
  match (request.payload : Except RpcError Payload.Broadcast) with
  | .error e => (.fail e, values)
  | .ok (.broadcast value) =>
    let (fresh, values) := values.record value
    (.proceed (.recorded value fresh), values)
  | .ok .read => (.proceed (.answering (.readOk values.snapshot)), values)
  | .ok (.topology topology) =>
    match view.identify with
    | .error e => (.finish (.error e), values)
    | .ok identity =>
      match neighborsFor topology identity.id with
      | none =>
        (.fail ⟨.malformedRequest, "topology has no entry for " ++ identity.id⟩, values)
      | some neighbors => (.proceed (.answering .topologyOk), values.setNeighbors neighbors)
  | .ok _ => (.notARequest request.kind, values)

/-- After the confirmation: if it could not be sent, nothing is forwarded. -/
def afterConfirmation (value : BroadcastValue) (acceptance : Gossip.Acceptance) :
    Except NodeError Unit → Job
  | .error e => .ending (.error e)
  | .ok () =>
    match acceptance with
    | .fresh neighbors => .forwarding value neighbors
    | .duplicate => .ending (.ok ())

def step (view : View) (values : Values) : Job → Action Job × Values
  | .received request => begin view values request
  -- Another task may have changed the neighbors since the value was recorded.
  | .recorded value fresh =>
    (.proceed (.offered value (if fresh then .fresh values.neighbors else .duplicate)), values)
  | .offered value acceptance =>
    (.reply (Payload.encode Payload.Broadcast.broadcastOk) (afterConfirmation value acceptance),
      values)
  | .forwarding _ [] => (.finish (.ok ()), values)
  | .forwarding value (neighbor :: rest) =>
    -- A neighbor that cannot be reached is skipped.
    (.send neighbor (Payload.encode (Payload.Broadcast.broadcast value)) fun _ =>
      .forwarding value rest, values)
  | .answering payload => (.reply (Payload.encode payload) .ending, values)
  | .ending result => (.finish result, values)

def handlers : Registry (Message → Job) :=
  ⟨Dictionary.ofList (kinds.map fun kind => (kind, .received))⟩

end Broadcast

def broadcast : Workload where
  Job := Broadcast.Job
  Shared := Broadcast.Values
  handlers := Broadcast.handlers
  shared := .empty
  step := Broadcast.step

end ClusterNode.Workload
