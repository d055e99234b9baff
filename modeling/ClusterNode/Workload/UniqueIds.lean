import ClusterNode.Json.Printer
import ClusterNode.Payload.Generate
import ClusterNode.Workload.Basic

/-!
The workload that generates ids. An id joins the id of the node, a sequence number of the node, the
time and a random number, so that nodes need not agree on anything.
-/

set_option autoImplicit false

namespace ClusterNode.Workload.UniqueIds

def hexWord (n : UInt64) : List Char :=
  (List.range 16).map fun i => Json.hexDigit (n.toNat / twoTo (4 * (15 - i)) % 16)

def idText (node : String) (sequence : UInt64) (stamp : Stamp) : String :=
  String.ofList (node.toList ++ '_' :: Number.digitsOf sequence.toNat
    ++ '_' :: Number.intText stamp.nanos.toInt ++ '_' :: hexWord stamp.random)

inductive Job where
  | received (request : Message)
  | numbered (node : String) (sequence : UInt64)
  | answering (id : String)
  | ending (result : Except NodeError Unit)

def kinds : List String := ["generate"]

/-- The first step of a job. The shared state is the next sequence number. -/
def begin (view : View) (next : UInt64) (request : Message) : Action Job × UInt64 :=
  match (request.payload : Except RpcError Payload.Generate) with
  | .error e => (.fail e, next)
  | .ok .generate =>
    match view.identify with
    | .error e => (.finish (.error e), next)
    | .ok identity => (.proceed (.numbered identity.id next), next + 1)
  | .ok (.generateOk _) => (.notARequest "generate_ok", next)

def step (view : View) (next : UInt64) : Job → Action Job × UInt64
  | .received request => begin view next request
  | .numbered node sequence =>
    (.stamp fun stamp => .answering (idText node sequence stamp), next)
  | .answering id => (.reply (Payload.encode (Payload.Generate.generateOk id)) .ending, next)
  | .ending result => (.finish result, next)

def handlers : Registry (Message → Job) :=
  ⟨Dictionary.ofList (kinds.map fun kind => (kind, .received))⟩

end UniqueIds

def uniqueIds : Workload where
  Job := UniqueIds.Job
  Shared := UInt64
  handlers := UniqueIds.handlers
  shared := 0
  step := UniqueIds.step

end ClusterNode.Workload
