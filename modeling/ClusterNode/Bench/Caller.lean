import ClusterNode.Bench.Report
import ClusterNode.Store.Client
import ClusterNode.Workload.Basic

/-!
Callers: jobs inside the program that use a key-value service through the node and leave a note of
the outcome.
-/

set_option autoImplicit false

namespace ClusterNode.Bench.Caller

/-- What a caller wants of a service. Values other than integers have operations of their own. -/
inductive Operation where
  | store (c : StoreCall)
  | readValue (key : String)
  | writeValue (key : String) (value : Json)

def Operation.request : Operation → Payload.KeyValue
  | .store c => KvClient.request c
  | .readValue key => KvClient.readRequest key
  | .writeValue key value => KvClient.writeRequest key value

def Operation.outcome (result : Except NodeError Message) : Operation → Except StoreError Json
  | .store (.read key) => (KvClient.integerOf key result).map fun
    | some n => .ofInt64 n
    | none => .null
  | .store c => (KvClient.answer result c).map fun _ => .string "ok"
  | .readValue key => (KvClient.valueOf key result).map fun
    | some v => .string v.text
    | none => .null
  | .writeValue key _ => (KvClient.writeResult key result).map fun _ => .string "ok"

structure Call where
  service : String
  tag : Json
  limit : Option Duration
  operation : Operation

inductive Job where
  | calling (c : Call)
  | called (c : Call) (result : Except NodeError Message)
  | over

def note (c : Call) (result : Except NodeError Message) : Json :=
  .object [("event", .string "kv"),
    ("result",
      match c.operation.outcome result with
      | .ok v => v
      | .error e => reportStore e),
    ("service", .string c.service), ("tag", c.tag)]

def step (view : View) : Job → Action Job
  | .calling c =>
    .call c.service (Payload.encode c.operation.request) (.atMost (c.limit.getD view.rpcTimeout))
      (.called c)
  | .called c result => .note (note c result) .over
  | .over => .finish (.ok ())

def workload : Workload where
  Job := Job
  Shared := Unit
  handlers := .empty
  shared := ()
  step view _ job := (step view job, ())

def beside (w : Workload) : Workload where
  Job := w.Job ⊕ Job
  Shared := w.Shared × Unit
  handlers := ⟨w.handlers.handlers.map fun (kind, handler) => (kind, fun m => .inl (handler m))⟩
  shared := (w.shared, ())
  step := Workload.bothStep w workload

end ClusterNode.Bench.Caller
