import ClusterNode.Counter.Basic
import ClusterNode.Payload.Counter
import ClusterNode.Store.Client
import ClusterNode.Workload.Basic

/-!
The counter workload: additions and totals over a store that is kept by a key-value service.
-/

set_option autoImplicit false

namespace ClusterNode.Workload.Counter

inductive Job where
  | received (request : Message)
  | adding (add : ClusterNode.Counter.Add) (state : ClusterNode.Counter.Add.State)
  | summing (state : ClusterNode.Counter.Total.State)
  | ending (result : Except NodeError Unit)

def kinds : List String := ["add", "read"]

/-- The service that keeps the store, and the policy for lost races. -/
structure Settings where
  service : String
  policy : RetryPolicy

def begin (settings : Settings) (view : View) (request : Message) : Action Job :=
  match (request.payload : Except RpcError Payload.Counter) with
  | .error e => .fail e
  | .ok (.add delta) =>
    match view.identify with
    | .error e => .finish (.error e)
    | .ok identity =>
      .proceed (.adding ⟨identity.id, delta, settings.policy⟩ ClusterNode.Counter.Add.start)
  | .ok .read =>
    match view.identify with
    | .error e => .finish (.error e)
    | .ok identity => .proceed (.summing (ClusterNode.Counter.Total.start identity.peers))
  | .ok _ => .notARequest request.kind

def carryOut {σ : Type} (settings : Settings) (view : View) (resume : σ → Job)
    (answer : Int64 → Payload.Counter) : StoreMove σ → Action Job
  | .call c next =>
    .call settings.service (Payload.encode (KvClient.request c)) (.atMost view.rpcTimeout) fun r =>
      resume (next (KvClient.answer r c))
  | .pause d next => .sleep d (resume next)
  | .done (.error e) => .finish (.error (.store e))
  | .done (.ok n) => .reply (Payload.encode (answer n)) .ending

def step (settings : Settings) (view : View) : Job → Action Job
  | .received request => begin settings view request
  | .adding add state => carryOut settings view (.adding add) (fun _ => .addOk) (add.move state)
  | .summing state =>
    carryOut settings view .summing .readOk (ClusterNode.Counter.Total.move state)
  | .ending result => .finish result

def handlers : Registry (Message → Job) :=
  ⟨Dictionary.ofList (kinds.map fun kind => (kind, .received))⟩

end Counter

def counter (settings : Counter.Settings) : Workload where
  Job := Counter.Job
  Shared := Unit
  handlers := Counter.handlers
  shared := ()
  step view _ job := (Counter.step settings view job, ())

end ClusterNode.Workload
