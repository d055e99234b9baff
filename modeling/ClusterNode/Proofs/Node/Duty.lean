import ClusterNode.Proofs.Node.Output
import ClusterNode.Proofs.Node.Run
import ClusterNode.Proofs.Payload

/-!
What jobs owe: a job that works for a request answers it once, or fails without having answered it.
A workload keeps this duty if each step of each of its jobs does.
-/

set_option autoImplicit false

namespace ClusterNode

variable {w : Workload}

namespace Message

/-- The number of the request that a message answers; zero counts as one. -/
def answers? (m : Message) : Option UInt64 := (m.body.field? "in_reply_to").bind Json.toUInt64?

/-- A message answers a request: it goes to whoever made it, under its number, and it reports an
error or is of the kind that goes with the request. -/
structure Answers (a request : Message) : Prop where
  dest : a.dest = request.src
  number : a.answers? = request.msgId?
  kind : a.kind = "error" ∨ a.kind = request.kind ++ "_ok"

/-- A message that answers nothing, and is of one of some kinds. -/
structure Unasked (kinds : List String) (m : Message) : Prop where
  answersNothing : m.body.field? "in_reply_to" = none
  kind : m.kind ∈ kinds

end Message

theorem answers?_insert (src dest : String) (id : UInt64) (fields : Dictionary Json) :
    (⟨src, dest, .object (Dictionary.insert "in_reply_to" (.ofUInt64 id) fields)⟩ :
      Message).answers? = some id := by
  simp [Message.answers?, Json.field?, Dictionary.get?_insert_self, Json.ofUInt64, Json.toUInt64?,
    Number.toUInt64?]

/-- What the jobs of a workload owe, which jobs may work for which requests, and of which kinds the
messages are that a node sends unasked. -/
structure Duty (w : Workload) where
  owes : w.Job → Bool
  Fits : Message → w.Job → Prop
  kinds : List String

namespace Duty

variable (d : Duty w)

def Plain (body : Json) : Prop :=
  ∃ fields, body = .object fields ∧ Dictionary.get? "in_reply_to" fields = none ∧
    kindOf body ∈ d.kinds

/-- Whether a job that works for a request may do something, when it owes an answer or not. -/
def Allows (request : Message) (owing : Bool) : Action w.Job → Prop
  | .proceed next | .sleep _ next | .note _ next => d.Fits request next ∧ d.owes next = owing
  | .finish (.ok ()) => owing = false
  | .finish (.error _) => owing = true
  | .send _ payload next => d.Plain payload ∧ ∀ r, d.Fits request (next r) ∧ d.owes (next r) = owing
  | .reply payload next =>
    owing = true ∧ (∃ fields, payload = .object fields ∧ kindOf payload = request.kind ++ "_ok") ∧
      d.Fits request (next (.ok ())) ∧ d.owes (next (.ok ())) = false
  | .call _ payload _ next =>
    owing = true ∧ d.Plain payload ∧ ∀ r, d.Fits request (next r) ∧ d.owes (next r) = true
  | .stamp next => ∀ s, d.Fits request (next s) ∧ d.owes (next s) = owing
  | .abandon | .ask _ _ _ _ => False

/-- The duty is kept: handlers begin with an answer owed, and no step of a job breaks it. -/
structure Kept : Prop where
  handler : ∀ m fields handler, m.body = .object fields → w.handlers.get? m.kind = some handler →
    d.Fits m (handler m) ∧ d.owes (handler m) = true
  init : w.handlers.get? "init" = none
  step : ∀ m fields job view shared, m.body = .object fields → d.Fits m job →
    d.Allows m (d.owes job) (w.step view shared job).1

end Duty

namespace Task

def Fits (d : Duty w) (t : Task w.Job) : Prop :=
  match t.role, t.stage with
  | .handle, .fresh (some job) => d.Fits t.message job ∧ d.owes job = true
  | .handle, .work job | .handle, .sleep _ job => d.Fits t.message job
  | .handle, .dial _ _ body _ next =>
    d.Plain body ∧ ∀ r, d.Fits t.message (next r) ∧ d.owes (next r) = true
  | .handle, .flush wait | .handle, .wait wait =>
    ∀ r, d.Fits t.message (wait.next r) ∧ d.owes (wait.next r) = true
  | .initialise, .fresh none | .initialise, .adopt | .initialise, .confirm =>
    t.message.kind = "init"
  | .handle, .conclude _ | .handle, .refuse _ | .initialise, .conclude _
  | .initialise, .refuse _ | .callback, .hand _ _ => True
  | _, _ => False

def owes (d : Duty w) (t : Task w.Job) : Bool :=
  match t.stage with
  | .work job | .sleep _ job => d.owes job
  | .conclude (.ok ()) | .hand _ _ => false
  | _ => true

def owed (d : Duty w) (t : Task w.Job) : List Message :=
  if t.owes d && t.message.msgId?.isSome then [t.message] else []

end Task

end ClusterNode
