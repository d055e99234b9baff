import ClusterNode.Node.Basic
import ClusterNode.Text.Blank

/-!
The steps of a node. Each is one indivisible event: a task takes a number, writes a message, looks
at the shared state, counts an outcome; or a line of input is received. Any order of steps is a
possible run.
-/

set_option autoImplicit false

namespace ClusterNode.Node

variable {w : Workload}

/-- The limit of a call that begins at an instant. -/
def limitOf (now : Nat) : Patience → Option (Nat × Duration)
  | .atMost d => some (now + d.millis, d)
  | .untilCancelled => none

def act (n : Node w) (now : Nat) (stamp : Stamp) (t : Task w.Job) (action : Action w.Job) :
    Node w :=
  match action with
  | .proceed next => n.goTo t.id (.work next)
  | .finish result =>
    match t.role, result with
    | .initialise, .ok () => n.goTo t.id .confirm
    | .initialise, .error e => n.goTo t.id (.conclude (.error e))
    | .handle, result => n.goTo t.id (.conclude result)
    -- There is no request that an error could be reported to.
    | .callback, _ | .client, _ => n.remove t.id
  | .abandon => n.remove t.id
  | .send dest payload next =>
    let (result, n) := n.send dest payload
    n.goTo t.id (.work (next result))
  | .reply payload next =>
    let (result, n) := n.reply t.message payload
    n.goTo t.id (.work (next result))
  | .call dest payload patience next =>
    match n.register payload (.deliver t.id) with
    | (.ok (id, body), n) =>
      n.update t.id fun t =>
        { t with stage := .dial dest id body (limitOf now patience) next, mailbox := .empty }
    | (.error e, n) => n.goTo t.id (.work (next (.error e)))
  | .ask dest payload onReply next =>
    match n.register payload (.start onReply) with
    | (.ok (id, body), n) => n.goTo t.id (.post dest id body next)
    | (.error e, n) => n.goTo t.id (.work (next (.error e)))
  | .sleep d next => n.goTo t.id (.sleep (now + d.millis) next)
  | .stamp next => n.goTo t.id (.work (next stamp))
  | .note entry next => ({ n with journal := n.journal ++ [entry] } : Node w).goTo t.id (.work next)

/-- The end of a wait: what has come, or else that the wait is over. A reply that is there wins. -/
def waitResult? (n : Node w) (now : Nat) (t : Task w.Job) (wait : Wait w.Job) :
    Option (Except NodeError Message) :=
  match t.mailbox with
  | .full reply =>
    -- A reply that reports an error is the failure of the call.
    match reply.rpcError? with
    | some e => some (.error (.rpc e))
    | none => some (.ok reply)
  | .lost => some (.error (.cancelled wait.dest))
  | .empty =>
    match wait.limit with
    | some (deadline, after) =>
      if deadline ≤ now then some (.error (.timeout wait.dest after)) else none
    | none => if n.cancelled then some (.error (.cancelled wait.dest)) else none

/-- Gives the node its identity, then turns to the handler of such requests, if there is one. -/
def adopt (n : Node w) (t : Task w.Job) : Node w :=
  match (t.message.payload : Except RpcError Payload.Init) with
  | .error e => n.goTo t.id (.conclude (.error (.rpc e)))
  | .ok .initOk =>
    n.goTo t.id (.conclude (.error (.rpc ⟨.malformedRequest, "expected an init request"⟩)))
  | .ok (.init id peers) =>
    match n.init id peers with
    | .error e => n.goTo t.id (.conclude (.error e))
    | .ok n =>
      -- A handler for such requests runs before the identity is confirmed.
      match w.handlers.get? "init" with
      | some handler => n.goTo t.id (.work (handler t.message))
      | none => n.goTo t.id .confirm

/-- The end of a handler: an error is counted and is to be reported. -/
def conclude (n : Node w) (t : Task w.Job) (result : Except NodeError Unit) : Node w :=
  let n := { n with metrics := n.metrics.countHandlerEnd }
  match result with
  | .ok () => n.remove t.id
  | .error e =>
    match e.rpcError? with
    | some reported =>
      ({ n with metrics := n.metrics.countErrorReply } : Node w).goTo t.id (.refuse reported)
    | none =>
      -- An error of the node itself is told in its own wording.
      ({ n with metrics := n.metrics.countCrash } : Node w).goTo t.id
        (.refuse ⟨.crash, e.message⟩)

/-- One step of a task at an instant. A task that waits for something that has not come stays where
it is. The instant of a write is the one at which the line is out, or the write is broken off. -/
def stepTask (n : Node w) (now : Nat) (stamp : Stamp) (t : Task w.Job) : Node w :=
  match t.stage with
  | .fresh job =>
    let n := { n with metrics := n.metrics.countHandlerStart t.message.kind }
    n.goTo t.id (match job with | some job => .work job | none => .adopt)
  | .adopt => n.adopt t
  | .work job =>
    let (action, shared) := w.step n.view n.shared job
    ({ n with shared } : Node w).act now stamp t action
  | .post dest id body next =>
    let (result, n) := n.writeRequest dest id body
    n.goTo t.id (.work (next (result.map fun _ => id)))
  | .dial dest id body limit next =>
    match n.writeCall now dest id body limit with
    | (.ok true, n) => n.goTo t.id (.wait ⟨dest, id, limit, next⟩)
    | (.ok false, n) => n.goTo t.id (.flush ⟨dest, id, limit, next⟩)
    | (.error e, n) => n.goTo t.id (.work (next (.error e)))
  | .flush wait =>
    match n.flushCall? now wait with
    | some (.ok (), n) => n.goTo t.id (.wait wait)
    | some (.error e, n) => n.goTo t.id (.work (wait.next (.error e)))
    | none => n
  | .wait wait =>
    match n.waitResult? now t wait with
    | some result =>
      n.update t.id fun t => { t with stage := .work (wait.next result), mailbox := .empty }
    | none => n
  | .sleep wake next => if wake ≤ now then n.goTo t.id (.work next) else n
  | .confirm =>
    let (result, n) := n.reply t.message (Payload.encode Payload.Init.initOk)
    n.goTo t.id (.conclude result)
  | .conclude result => n.conclude t result
  | .refuse e => (n.reply t.message (Payload.encode e)).2.remove t.id
  | .hand task id => (n.post task id (.full t.message)).remove t.id

def step (n : Node w) (now : Nat) (stamp : Stamp) (id : Nat) : Node w :=
  match n.task? id with
  | some t => n.stepTask now stamp t
  | none => n

/-- Passes a reply on to whoever waits for it; one that nobody waits for is dropped. -/
def receiveReply (n : Node w) (id : UInt64) (m : Message) : Node w :=
  match n.pending.take id with
  | (some callback, pending) =>
    let n := { n with pending, metrics := n.metrics.countReplyMatched }
    match callback with
    | .deliver task => n.spawn .callback m (.hand task id)
    | .start onReply => n.spawn .callback m (.work (onReply m))
  | (none, pending) => { n with pending, metrics := n.metrics.countReplyDropped }

/-- Passes a request to its handler. A request that nobody handles ends the reading of input. -/
def receiveRequest (n : Node w) (m : Message) (line : String) : Node w :=
  if m.kind = "init" then n.spawn .initialise m (.fresh none)
  else
    match w.handlers.get? m.kind with
    | some handler => n.spawn .handle m (.fresh (some (handler m)))
    | none => n.stop (.noHandler m.kind line)

/-- Receives a line. Blank lines are skipped, and after the end of the input nothing is received. A
line that is no message ends the reading of input. -/
def receive (n : Node w) (line : String) : Node w :=
  if n.verdict.isSome then n
  else
    let line := Text.trim line
    if line.isEmpty then n
    else
      match Message.decode line with
      | .error e => n.stop (.codec e)
      | .ok m =>
        let n := { n with metrics := n.metrics.countReceived }
        -- What answers a request is a reply, whatever its kind.
        match m.inReplyTo? with
        | some id => n.receiveReply id m
        | none => n.receiveRequest m line

def settle (n : Node w) : Node w :=
  if n.verdict.isNone ∧ n.ownTasks.isEmpty then { n with verdict := some (.ok ()) } else n

def spawnClient (n : Node w) (job : w.Job) : Node w :=
  n.spawn .client ⟨"", "", .null⟩ (.work job)

end ClusterNode.Node
