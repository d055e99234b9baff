import ClusterNode.Metrics
import ClusterNode.Payload.Init
import ClusterNode.Pending
import ClusterNode.Workload.Basic

/-!
A node: its identity, its requests in flight, what it has written and counted, and its tasks. A task
is a request, a reply or a caller that the node is working for; between two of its steps it is data,
so any order of steps of the tasks can be told.
-/

set_option autoImplicit false

namespace ClusterNode

/-- What becomes of the lines that a node writes. -/
inductive WriteMode where
  | working
  | failing
  | failingTo (dest : String)
  | failingFlush
  /-- A line appears at once, and its flush is over when the mode changes. -/
  | stallingFlush
deriving DecidableEq, Repr

/-- Whether a line to a receiver appears, and whether writing it succeeds in the end. -/
def WriteMode.outcome (mode : WriteMode) (dest : String) : Bool × Bool :=
  match mode with
  | .working => (true, true)
  | .failing => (false, false)
  | .failingTo d => if d = dest then (false, false) else (true, true)
  | .failingFlush => (true, false)
  | .stallingFlush => (true, true)

/-- What is to be done with a reply. -/
inductive Callback (Job : Type) where
  /-- Hand it to the task that waits for it. -/
  | deliver (task : Nat)
  /-- Start a job with it. -/
  | start (onReply : Message → Job)

/-- Whom a task works for. -/
inductive Role where
  /-- A request for an identity. -/
  | initialise
  /-- A request with a handler. -/
  | handle
  | callback
  /-- A caller inside the program, whom the input does not concern. -/
  | client
deriving DecidableEq, Repr

/-- A call that has been made. -/
structure Wait (Job : Type) where
  dest : String
  id : UInt64
  /-- The instant at which the call gives up, and the span it was given. Without one it goes on
  until it is cancelled. -/
  limit : Option (Nat × Duration)
  next : Except NodeError Message → Job

/-- Where a task stands. -/
inductive Stage (Job : Type) where
  /-- It has not been looked at. -/
  | fresh (job : Option Job)
  /-- It is about to give the node its identity. -/
  | adopt
  /-- It works on a job. -/
  | work (job : Job)
  /-- It has a number for a request that starts a job when it is answered, and is about to write
  it. -/
  | post (dest : String) (id : UInt64) (body : Json) (next : Except NodeError UInt64 → Job)
  /-- It has a number for a call, and is about to write it. The limit is that of the whole call. -/
  | dial (dest : String) (id : UInt64) (body : Json) (limit : Option (Nat × Duration))
      (next : Except NodeError Message → Job)
  /-- The request of its call is on the output and has not been flushed. -/
  | flush (w : Wait Job)
  /-- It waits for the reply to a call. -/
  | wait (w : Wait Job)
  /-- It waits for an instant. -/
  | sleep (wake : Nat) (next : Job)
  /-- It is about to confirm the identity. -/
  | confirm
  /-- Its handler is over. -/
  | conclude (result : Except NodeError Unit)
  /-- It is about to report an error. -/
  | refuse (e : RpcError)
  /-- It is a reply on its way to a task. -/
  | hand (task : Nat) (id : UInt64)

/-- What has come for a call. -/
inductive Mailbox where
  | empty
  | full (reply : Message)
  /-- The reply was lost on its way. -/
  | lost

/-- A task, the message it began with, and what has come for its call. -/
structure Task (Job : Type) where
  id : Nat
  role : Role
  message : Message
  stage : Stage Job
  mailbox : Mailbox

def Task.callId? {Job : Type} (t : Task Job) : Option UInt64 :=
  match t.stage with
  | .dial _ id _ _ _ => some id
  | .flush w | .wait w => some w.id
  | _ => none

structure Node (w : Workload) where
  identity : Option Identity
  rpcTimeout : Duration
  pending : Pending (Callback w.Job)
  metrics : Metrics
  mode : WriteMode
  written : List Message
  journal : List Json
  shared : w.Shared
  tasks : List (Task w.Job)
  nextTask : Nat
  /-- Whether the calls that wait until they are cancelled are to give up. -/
  cancelled : Bool
  /-- How the reading of input ended, once it has. -/
  verdict : Option (Except NodeError Unit)

namespace Node

variable {w : Workload}

def start (w : Workload) (rpcTimeout : Duration) : Node w where
  identity := none
  rpcTimeout
  pending := .empty
  metrics := .zero
  mode := .working
  written := []
  journal := []
  shared := w.shared
  tasks := []
  nextTask := 0
  cancelled := false
  verdict := none

def init (n : Node w) (id : String) (peers : List String) : Except NodeError (Node w) :=
  match n.identity with
  | some identity => .error (.alreadyInitialized identity.id)
  | none => .ok { n with identity := some ⟨id, peers⟩ }

def view (n : Node w) : View :=
  ⟨n.identity, n.rpcTimeout⟩

/-- Puts a message on the output. A node without identity writes an empty sender. -/
def emit (n : Node w) (dest : String) (body : Json) : Node w :=
  { n with written := n.written ++ [⟨(n.identity.map Identity.id).getD "", dest, body⟩] }

def endWrite (n : Node w) (dest : String) : Except NodeError Unit × Node w :=
  if (n.mode.outcome dest).2 then (.ok (), { n with metrics := n.metrics.countSent })
  else (.error (.io "output closed"), { n with metrics := n.metrics.countSendFailure })

def write (n : Node w) (dest : String) (body : Json) : Except NodeError Unit × Node w :=
  (if (n.mode.outcome dest).1 then n.emit dest body else n).endWrite dest

def send (n : Node w) (dest : String) (payload : Json) : Except NodeError Unit × Node w :=
  match encodeBody payload none none with
  | .ok body => n.write dest body
  | .error e => (.error (.codec e), n)

/-- Answers a request. One without a number wants no answer and gets none. -/
def reply (n : Node w) (request : Message) (payload : Json) : Except NodeError Unit × Node w :=
  match request.msgId? with
  | none => (.ok (), n)
  | some id =>
    match encodeBody payload none (some id) with
    | .ok body => n.write request.src body
    | .error e => (.error (.codec e), n)

/-- Takes a number for a request. The body is stamped with it, and a payload that is no body gives
it back. -/
def register (n : Node w) (payload : Json) (callback : Callback w.Job) :
    Except NodeError (UInt64 × Json) × Node w :=
  let (id, pending) := n.pending.register callback
  match encodeBody payload (some id) none with
  | .ok body => (.ok (id, body), { n with pending })
  | .error e => (.error (.codec e), { n with pending := (pending.cancel id).2 })

/-- The end of the writing of a request, which is counted. One that cannot be written gives its
number back. -/
def endRequest (id : UInt64) : Except NodeError Unit × Node w → Except NodeError Unit × Node w
  | (.ok (), n) => (.ok (), { n with metrics := n.metrics.countRpcSent })
  | (.error e, n) => (.error e, { n with pending := (n.pending.cancel id).2 })

def writeRequest (n : Node w) (dest : String) (id : UInt64) (body : Json) :
    Except NodeError Unit × Node w :=
  endRequest id (n.write dest body)

/-- The failure of a call whose deadline has passed before its request is out. At the deadline
itself it may still go out. -/
def overdue? (now : Nat) (dest : String) : Option (Nat × Duration) → Option NodeError
  | some (deadline, after) => if deadline < now then some (.timeout dest after) else none
  | none => none

/-- Writes the request of a call, and says whether it has been flushed. A write that is broken off
leaves the number taken. -/
def writeCall (n : Node w) (now : Nat) (dest : String) (id : UInt64) (body : Json)
    (limit : Option (Nat × Duration)) : Except NodeError Bool × Node w :=
  match overdue? now dest limit with
  -- At most half a line is out, which is no message.
  | some e => (.error e, n)
  | none =>
    if n.mode = .stallingFlush then (.ok false, n.emit dest body)
    else
      let (result, n) := n.writeRequest dest id body
      (result.map fun _ => true, n)

/-- The end of a flush, if it is over or given up. -/
def flushCall? (n : Node w) (now : Nat) (wait : Wait w.Job) :
    Option (Except NodeError Unit × Node w) :=
  if n.mode = .stallingFlush then
    match wait.limit with
    | some (deadline, after) =>
      if deadline ≤ now then some (.error (.timeout wait.dest after), n) else none
    | none => none
  else some (endRequest wait.id (n.endWrite wait.dest))

def task? (n : Node w) (id : Nat) : Option (Task w.Job) :=
  n.tasks.find? fun t => t.id = id

def spawn (n : Node w) (role : Role) (message : Message) (stage : Stage w.Job) : Node w :=
  { n with
    tasks := n.tasks ++ [⟨n.nextTask, role, message, stage, .empty⟩]
    nextTask := n.nextTask + 1 }

def remove (n : Node w) (id : Nat) : Node w :=
  { n with tasks := n.tasks.filter fun t => t.id ≠ id }

def update (n : Node w) (id : Nat) (f : Task w.Job → Task w.Job) : Node w :=
  { n with tasks := n.tasks.map fun t => if t.id = id then f t else t }

def goTo (n : Node w) (id : Nat) (stage : Stage w.Job) : Node w :=
  n.update id fun t => { t with stage }

/-- Leaves something in the mailbox of a task that is still making a call. -/
def post (n : Node w) (task : Nat) (id : UInt64) (mail : Mailbox) : Node w :=
  n.update task fun t => if t.callId? = some id then { t with mailbox := mail } else t

def isReady (n : Node w) (now : Nat) (t : Task w.Job) : Bool :=
  match t.stage with
  | .flush w => (n.flushCall? now w).isSome
  | .wait w =>
    match t.mailbox with
    | .empty =>
      match w.limit with
      | some (deadline, _) => deadline ≤ now
      | none => n.cancelled
    | _ => true
  | .sleep wake _ => wake ≤ now
  | _ => true

def ownTasks (n : Node w) : List (Task w.Job) :=
  n.tasks.filter fun t => t.role ≠ .client

/-- Ends the reading of input with an error. The tasks that the input is responsible for vanish, and
with them the replies they carry. -/
def stop (n : Node w) (e : NodeError) : Node w :=
  let dropped := n.ownTasks
  let n := { n with
    tasks := n.tasks.filter fun t => t.role = .client
    verdict := some (.error e) }
  -- A caller whose reply was being handed over must not wait for it.
  dropped.foldl (fun n t =>
    match t.stage with
    | .hand task id => n.post task id .lost
    | _ => n) n

def identityText : Option Identity → String
  | none => "None"
  | some identity =>
    "Some(NodeIdentity \x7b id: " ++ Text.quoted identity.id ++ ", peer_ids: "
      ++ Text.quotedList identity.peers ++ " \x7d)"

def text (n : Node w) : String :=
  "Node \x7b identity: " ++ identityText n.identity ++ ", handlers: " ++ w.handlers.text
    ++ ", options: NodeOptions \x7b rpc_timeout: " ++ n.rpcTimeout.text
    ++ " \x7d, pending_rpcs: " ++ toString n.pending.size ++ " \x7d"

end Node

end ClusterNode
