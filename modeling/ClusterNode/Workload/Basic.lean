import ClusterNode.Duration
import ClusterNode.Message.Basic
import ClusterNode.Registry

/-!
Workloads: what a node does for its clients. A handler turns a request into a job. A job is a
machine whose every step either touches the state that the jobs of the node share, or is one action
that the node carries out for it. So jobs can be interleaved step by step.
-/

set_option autoImplicit false

namespace ClusterNode

/-- Who a node is, and who is in the cluster. -/
structure Identity where
  id : String
  peers : List String
deriving DecidableEq, Repr

/-- What a job can see of its node. -/
structure View where
  identity : Option Identity
  rpcTimeout : Duration

def View.identify (view : View) : Except NodeError Identity :=
  match view.identity with
  | some identity => .ok identity
  | none => .error .notInitialized

/-- What a clock and a source of randomness bring. -/
structure Stamp where
  nanos : Int64
  random : UInt64
deriving DecidableEq, Repr

/-- How long a call waits for its reply. -/
inductive Patience where
  | atMost (limit : Duration)
  | untilCancelled
deriving DecidableEq, Repr

/-- What a job asks of its node. -/
inductive Action (Job : Type) where
  /-- Nothing; the step concerned the job and the shared state only. -/
  | proceed (next : Job)
  /-- The job is over. -/
  | finish (result : Except NodeError Unit)
  /-- The job breaks down, and nobody is told. -/
  | abandon
  | send (dest : String) (payload : Json) (next : Except NodeError Unit → Job)
  /-- Answers the request of the job, if an answer is wanted. -/
  | reply (payload : Json) (next : Except NodeError Unit → Job)
  | call (dest : String) (payload : Json) (patience : Patience)
      (next : Except NodeError Message → Job)
  /-- Sends a request whose reply starts a job of its own, and goes on with its number. -/
  | ask (dest : String) (payload : Json) (onReply : Message → Job)
      (next : Except NodeError UInt64 → Job)
  | sleep (d : Duration) (next : Job)
  | stamp (next : Stamp → Job)
  | note (entry : Json) (next : Job)

namespace Action

variable {Job Job' : Type}

def map (f : Job → Job') : Action Job → Action Job'
  | .proceed next => .proceed (f next)
  | .finish result => .finish result
  | .abandon => .abandon
  | .send dest payload next => .send dest payload fun r => f (next r)
  | .reply payload next => .reply payload fun r => f (next r)
  | .call dest payload patience next => .call dest payload patience fun r => f (next r)
  | .ask dest payload onReply next => .ask dest payload (fun m => f (onReply m)) fun r => f (next r)
  | .sleep d next => .sleep d (f next)
  | .stamp next => .stamp fun s => f (next s)
  | .note entry next => .note entry (f next)

def fail (e : RpcError) : Action Job :=
  .finish (.error (.rpc e))

def notARequest (kind : String) : Action Job :=
  .fail ⟨.notSupported, kind ++ " is not a request"⟩

end Action

/-- The handlers of a node, the state that their jobs share, and the steps of the jobs. -/
structure Workload where
  Job : Type
  Shared : Type
  handlers : Registry (Message → Job)
  shared : Shared
  step : View → Shared → Job → Action Job × Shared

namespace Workload

def idle : Workload where
  Job := Empty
  Shared := Unit
  handlers := .empty
  shared := ()
  step _ _ job := nomatch job

/-- The handlers of two workloads side by side. They must not serve the same kind of request. -/
def bothHandlers (v w : Workload) : Except NodeError (Registry (Message → v.Job ⊕ w.Job)) :=
  let left : Registry (Message → v.Job ⊕ w.Job) :=
    ⟨v.handlers.handlers.map fun (kind, handler) => (kind, fun m => .inl (handler m))⟩
  w.handlers.handlers.foldlM
    (fun (r : Registry (Message → v.Job ⊕ w.Job)) (kind, handler) =>
      r.register kind fun m => .inr (handler m))
    left

/-- A step of one of two workloads side by side, each with its own shared state. -/
def bothStep (v w : Workload) (view : View) :
    v.Shared × w.Shared → v.Job ⊕ w.Job → Action (v.Job ⊕ w.Job) × (v.Shared × w.Shared)
  | (left, right), .inl job =>
    let (action, left) := v.step view left job
    (action.map .inl, (left, right))
  | (left, right), .inr job =>
    let (action, right) := w.step view right job
    (action.map .inr, (left, right))

def both (v w : Workload) : Except NodeError Workload :=
  match bothHandlers v w with
  | .error e => .error e
  | .ok handlers => .ok {
      Job := v.Job ⊕ w.Job
      Shared := v.Shared × w.Shared
      handlers
      shared := (v.shared, w.shared)
      step := bothStep v w }

end Workload

end ClusterNode
