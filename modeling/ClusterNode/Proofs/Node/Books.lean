import Mathlib.Algebra.Group.Defs
import Mathlib.Algebra.BigOperators.Group.List.Basic
import ClusterNode.Proofs.Node.Output
import ClusterNode.Proofs.Node.Turn

/-!
The books of a node: its counts, what it has written and its table of requests. Each event makes at
most one entry in them, and changes accordingly what the tasks add to their balance.
-/

set_option autoImplicit false

namespace ClusterNode

variable {w : Workload}

@[ext]
structure Share where
  /-- Requests for which no handler has begun. -/
  waiting : Nat
  /-- Handlers that have begun and have not ended. -/
  active : Nat
  /-- Numbers of requests that are not written yet. -/
  calling : Nat
  /-- Handlers that have returned an error, which is not counted yet. -/
  failed : Nat

namespace Share

instance : Zero Share := ⟨⟨0, 0, 0, 0⟩⟩

instance : Add Share :=
  ⟨fun a b => ⟨a.waiting + b.waiting, a.active + b.active, a.calling + b.calling,
    a.failed + b.failed⟩⟩

@[simp] theorem waiting_add (a b : Share) : (a + b).waiting = a.waiting + b.waiting := rfl

@[simp] theorem active_add (a b : Share) : (a + b).active = a.active + b.active := rfl

@[simp] theorem calling_add (a b : Share) : (a + b).calling = a.calling + b.calling := rfl

@[simp] theorem failed_add (a b : Share) : (a + b).failed = a.failed + b.failed := rfl

@[simp] theorem waiting_zero : (0 : Share).waiting = 0 := rfl

@[simp] theorem active_zero : (0 : Share).active = 0 := rfl

@[simp] theorem calling_zero : (0 : Share).calling = 0 := rfl

@[simp] theorem failed_zero : (0 : Share).failed = 0 := rfl

instance : AddCommMonoid Share where
  add_assoc a b c := by ext <;> exact Nat.add_assoc _ _ _
  zero_add a := by ext <;> exact Nat.zero_add _
  add_zero a := rfl
  add_comm a b := by ext <;> exact Nat.add_comm _ _
  nsmul := nsmulRec

end Share

/-- What a task adds to the balance at a stage; `active` is one for a task that works for a
request. -/
def Stage.share {Job : Type} (active : Nat) : Stage Job → Share
  | .fresh _ => ⟨1, 0, 0, 0⟩
  | .post _ _ _ _ | .dial _ _ _ _ _ => ⟨0, active, 1, 0⟩
  | .conclude (.error _) => ⟨0, active, 0, 1⟩
  | .refuse _ => 0
  | _ => ⟨0, active, 0, 0⟩

namespace Task

variable {Job : Type}

def share (t : Task Job) : Share := t.stage.share t.role.isRequest.toNat

def isActive (t : Task Job) : Bool :=
  t.role.isRequest && match t.stage with
    | .fresh _ | .refuse _ => false
    | _ => true

private theorem share_active (t : Task Job) : t.share.active = t.isActive.toNat := by
  cases hs : t.stage with
  | fresh job => simp [share, Stage.share, isActive, hs]
  | refuse e => simp [share, Stage.share, isActive, hs]
  | conclude result => cases result <;> simp [share, Stage.share, isActive, hs]
  | _ => simp [share, Stage.share, isActive, hs]

private theorem share_receiving (t x : Task Job) : (t.receiving x).share = x.share := by
  simp only [share, receiving_role, receiving_stage]

end Task

def shareOf {Job : Type} (o : Option (Task Job)) : Share := (o.map Task.share).getD 0

/-- What tasks add together. -/
def total {Job : Type} (tasks : List (Task Job)) : Share := (tasks.map Task.share).sum

theorem total_active {Job : Type} (tasks : List (Task Job)) :
    (total tasks).active = tasks.countP Task.isActive := by
  induction tasks with
  | nil => rfl
  | cons t tasks ih =>
    rw [total, List.map_cons, List.sum_cons, Share.active_add, ← total, ih, Task.share_active,
      List.countP_cons, Nat.add_comm]
    cases t.isActive <;> rfl

structure Books (Job : Type) where
  metrics : Metrics
  written : List Message
  pending : Pending (Callback Job)

/-- What an event enters in the books, where a task added something before it and something else
after it. -/
inductive Entry {Job : Type} (b : Books Job) : Books Job → Share → Share → Prop
  | nothing (active : Nat) : Entry b b ⟨0, active, 0, 0⟩ ⟨0, active, 0, 0⟩
  | replyMatched (id : UInt64) (waits : (b.pending.get? id).isSome) :
      Entry b ⟨b.metrics.countReceived.countReplyMatched, b.written, b.pending.erase id⟩ 0 0
  | replyDropped : Entry b ⟨b.metrics.countReceived.countReplyDropped, b.written, b.pending⟩ 0 0
  | requestReceived : Entry b ⟨b.metrics.countReceived, b.written, b.pending⟩ 0 ⟨1, 0, 0, 0⟩
  | handlerBegan (kind : String) :
      Entry b ⟨b.metrics.countHandlerStart kind, b.written, b.pending⟩ ⟨1, 0, 0, 0⟩ ⟨0, 1, 0, 0⟩
  | lineWritten (m : Message) (active : Nat) :
      Entry b ⟨b.metrics.countSent, b.written ++ [m], b.pending⟩ ⟨0, active, 0, 0⟩ ⟨0, active, 0, 0⟩
  | numberTaken (callback : Callback Job) (active : Nat) :
      Entry b ⟨b.metrics, b.written, (b.pending.register callback).2⟩ ⟨0, active, 0, 0⟩
        ⟨0, active, 1, 0⟩
  | numberReturned (callback : Callback Job) (active : Nat) :
      Entry b ⟨b.metrics, b.written,
        ((b.pending.register callback).2.cancel (b.pending.lastId + 1)).2⟩
        ⟨0, active, 0, 0⟩ ⟨0, active, 0, 0⟩
  | requestWritten (m : Message) (active : Nat) :
      Entry b ⟨b.metrics.countSent.countRpcSent, b.written ++ [m], b.pending⟩
        ⟨0, active, 1, 0⟩ ⟨0, active, 0, 0⟩
  | handlerFailed (active : Nat) : Entry b b ⟨0, active, 0, 0⟩ ⟨0, active, 0, 1⟩
  | handlerEnded : Entry b ⟨b.metrics.countHandlerEnd, b.written, b.pending⟩ ⟨0, 1, 0, 0⟩ 0
  | errorReported : Entry b ⟨b.metrics.countHandlerEnd.countErrorReply, b.written, b.pending⟩
    ⟨0, 1, 0, 1⟩ 0
  | crashReported : Entry b ⟨b.metrics.countHandlerEnd.countCrash, b.written, b.pending⟩
    ⟨0, 1, 0, 1⟩ 0

namespace Node

def books (n : Node w) : Books w.Job := ⟨n.metrics, n.written, n.pending⟩

section Total

variable {n : Node w} {t : Task w.Job}

theorem Numbered.total_turn (hn : n.Numbered) (ht : t ∈ n.tasks) (now : Nat) (stamp : Stamp) :
    ∃ others, total n.tasks = others + t.share ∧
      total (n.stepTask now stamp t).tasks =
        others + shareOf ((n.stepTask now stamp t).task? t.id) := by
  obtain ⟨before, after, hbefore, hafter, -⟩ := hn.turn ht now stamp
  have hsame : ∀ l : List (Task w.Job), (l.map t.receiving).map Task.share = l.map Task.share :=
      fun l => by
    simp only [List.map_map, Function.comp_def, Task.share_receiving]
  have hown : ∀ o : Option (Task w.Job), (o.toList.map Task.share).sum = shareOf o := fun o => by
    cases o with
    | none => rfl
    | some x => simp [shareOf]
  refine ⟨total before + total after, ?_, ?_⟩
  · rw [hbefore, total, List.map_append, List.sum_append, List.map_cons, List.sum_cons]
    rw [← add_assoc, add_right_comm, total, total]
  · rw [hafter, total, List.map_append, List.map_append, List.sum_append, List.sum_append, hsame,
      hsame, hown]
    exact add_right_comm _ _ _

end Total

end Node

namespace Entry

variable {n n₁ : Node w} {t : Task w.Job} {b : Books w.Job} {s : Share}

private theorem goTo (hn : n.Numbered) (ht : t ∈ n.tasks) {stage : Stage w.Job}
    (h : Entry b n₁.books s (stage.share t.role.isRequest.toNat))
    (htasks : n₁.tasks = n.tasks := by rfl) :
    Entry b (n₁.goTo t.id stage).books s (shareOf ((n₁.goTo t.id stage).task? t.id)) := by
  rw [hn.task?_goTo ht stage htasks]
  exact h

private theorem remove (h : Entry b n₁.books s 0) :
    Entry b (n₁.remove t.id).books s (shareOf ((n₁.remove t.id).task? t.id)) := by
  rw [Node.task?_remove]
  exact h

end Entry

namespace Node

section Steps

variable {n n₁ : Node w} {t : Task w.Job} {b : Books w.Job} {s : Share}

private theorem send_entry (hmode : n.mode = .working) (dest : String) (payload : Json)
    (active : Nat) :
    Entry n.books (n.send dest payload).2.books ⟨0, active, 0, 0⟩ ⟨0, active, 0, 0⟩ := by
  cases payload with
  | object fields =>
    rw [send_working hmode]
    exact .lineWritten _ active
  | _ => exact .nothing active

private theorem reply_entry (hmode : n.mode = .working) (request : Message) (payload : Json)
    (active : Nat) :
    Entry n.books (n.reply request payload).2.books ⟨0, active, 0, 0⟩ ⟨0, active, 0, 0⟩ := by
  cases hid : request.msgId? with
  | none =>
    rw [reply_unnumbered hid]
    exact .nothing active
  | some id =>
    cases payload with
    | object fields =>
      rw [reply_working hmode hid]
      exact .lineWritten _ active
    | _ =>
      simp only [reply, hid]
      exact .nothing active

private theorem reply_ok (hmode : n.mode = .working) (request : Message)
    (fields : Dictionary Json) :
    (n.reply request (.object fields)).1 = .ok () := by
  cases hid : request.msgId? with
  | none => rw [reply_unnumbered hid]
  | some id => rw [reply_working hmode hid]

private theorem act_entry (hn : n.Numbered) (ht : t ∈ n.tasks) (hmode : n.mode = .working)
    (now : Nat) (stamp : Stamp)
    {action : Action w.Job} (unbroken : t.role.isRequest → action ≠ .abandon) :
    Entry n.books (n.act now stamp t action).books ⟨0, t.role.isRequest.toNat, 0, 0⟩
      (shareOf ((n.act now stamp t action).task? t.id)) := by
  have hover : t.role.isRequest = false →
      Entry n.books (n.remove t.id).books ⟨0, t.role.isRequest.toNat, 0, 0⟩
        (shareOf ((n.remove t.id).task? t.id)) := fun hrole => by
    rw [hrole]
    exact .remove (.nothing 0)
  cases action with
  | finish result =>
    have hconclude : Entry n.books (n.goTo t.id (.conclude result)).books
      ⟨0, t.role.isRequest.toNat, 0, 0⟩
        (shareOf ((n.goTo t.id (.conclude result)).task? t.id)) := by
      cases result with
      | ok u => exact .goTo hn ht (.nothing _)
      | error e => exact .goTo hn ht (.handlerFailed _)
    simp only [act]
    split
    · exact .goTo hn ht (.nothing _)
    · exact .goTo hn ht (.handlerFailed _)
    · exact hconclude
    · exact hover (by simp only [*]; rfl)
    · exact hover (by simp only [*]; rfl)
  | abandon => exact hover (by simpa using unbroken)
  | send dest payload next =>
    exact .goTo hn ht (send_entry hmode dest payload _) (send_tasks n dest payload)
  | reply payload next =>
    exact .goTo hn ht (reply_entry hmode t.message payload _) (reply_tasks n t.message payload)
  | call dest payload patience next =>
    simp only [act, register]
    cases payload with
    | object fields =>
      simp only [encodeBody]
      rw [hn.task?_update ht rfl]
      exact .numberTaken (.deliver t.id) _
    | _ => exact .goTo hn ht (.numberReturned (.deliver t.id) _)
  | ask dest payload onReply next =>
    simp only [act, register]
    cases payload with
    | object fields => exact .goTo hn ht (.numberTaken (.start onReply) _)
    | _ => exact .goTo hn ht (.numberReturned (.start onReply) _)
  | _ => exact .goTo hn ht (.nothing _)

private theorem adopt_entry (hn : n.Numbered) (ht : t ∈ n.tasks) :
    Entry n.books (n.adopt t).books ⟨0, t.role.isRequest.toNat, 0, 0⟩
      (shareOf ((n.adopt t).task? t.id)) := by
  simp only [adopt]
  split
  · exact .goTo hn ht (.handlerFailed _)
  · exact .goTo hn ht (.handlerFailed _)
  · simp only [init]
    cases n.identity with
    | some identity => exact .goTo hn ht (.handlerFailed _)
    | none =>
      simp only
      split <;> exact .goTo hn ht (.nothing _)

private theorem conclude_entry (hn : n.Numbered) (ht : t ∈ n.tasks)
    (result : Except NodeError Unit) :
    Entry n.books (n.conclude t result).books ((Stage.conclude result : Stage w.Job).share 1)
      (shareOf ((n.conclude t result).task? t.id)) := by
  simp only [conclude]
  cases result with
  | ok u => exact .remove .handlerEnded
  | error e =>
    simp only
    split
    · exact .goTo hn ht .errorReported
    · exact .goTo hn ht .crashReported

/-- What a step of a task enters in the books, while the writer works, requests are written in time
and no handler breaks down. -/
theorem stepTask_entry (hn : n.Numbered) (ht : t ∈ n.tasks) (hin : t.InRole)
    (hmode : n.mode = .working)
    (flushed : ∀ wait, t.stage ≠ .flush wait) (now : Nat) (stamp : Stamp)
    (timely : ∀ dest id body deadline after next,
      t.stage = .dial dest id body (some (deadline, after)) next → now ≤ deadline)
    (unbroken : t.role.isRequest → ∀ job, t.stage = .work job →
      (w.step n.view n.shared job).1 ≠ .abandon) :
    Entry n.books (n.stepTask now stamp t).books t.share
      (shareOf ((n.stepTask now stamp t).task? t.id)) := by
  have hstay : t.share = ⟨0, t.role.isRequest.toNat, 0, 0⟩ →
      Entry n.books n.books ⟨0, t.role.isRequest.toNat, 0, 0⟩ (shareOf (n.task? t.id)) := by
    intro hshare
    rw [hn.task? ht]
    show Entry n.books n.books _ t.share
    rw [hshare]
    exact .nothing _
  rw [Task.share]
  cases hs : t.stage with
  | fresh job =>
    have hrole : t.role.isRequest := by
      cases job <;> simp only [Task.InRole, hs] at hin <;> rw [hin] <;> rfl
    simp only [stepTask, hs]
    refine .goTo hn ht ?_
    rw [hrole]
    cases job <;> exact .handlerBegan t.message.kind
  | adopt =>
    simp only [stepTask, hs]
    exact adopt_entry hn ht
  | work job =>
    have hn₁ : ({ n with shared := (w.step n.view n.shared job).2 } : Node w).Numbered := hn.congr
    simp only [stepTask, hs]
    exact act_entry hn₁ ht hmode now stamp fun hrole => unbroken hrole job hs
  | post dest id body next =>
    simp only [stepTask, hs, writeRequest_working hmode]
    exact .goTo hn ht (.requestWritten _ _)
  | dial dest id body limit next =>
    simp only [stepTask, hs]
    rcases writeCall_working hmode now dest id body limit with h | ⟨deadline, after, rfl, hlate, -⟩
    · rw [h]
      exact .goTo hn ht (.requestWritten _ _)
    · exact absurd (timely _ _ _ _ _ _ hs) (Nat.not_le.mpr hlate)
  | flush wait => exact absurd hs (flushed wait)
  | wait wait =>
    simp only [stepTask, hs]
    split
    · rw [hn.task?_update ht rfl]
      exact .nothing _
    · exact hstay (by rw [Task.share, hs]; rfl)
  | sleep wake next =>
    simp only [stepTask, hs]
    split
    · exact .goTo hn ht (.nothing _)
    · exact hstay (by rw [Task.share, hs]; rfl)
  | confirm =>
    have hok : (n.reply t.message (Payload.encode Payload.Init.initOk)).1 = .ok () :=
      reply_ok hmode _ _
    simp only [stepTask, hs, hok]
    exact .goTo hn ht (reply_entry hmode t.message _ _) (reply_tasks n t.message _)
  | conclude result =>
    simp only [Task.InRole, hs] at hin
    simp only [stepTask, hs, hin]
    exact conclude_entry hn ht result
  | refuse e =>
    simp only [stepTask, hs]
    exact .remove (reply_entry hmode t.message (Payload.encode e) 0)
  | hand task id =>
    simp only [Task.InRole, hs] at hin
    simp only [stepTask, hs, hin]
    exact .remove (.nothing 0)

end Steps

end Node

end ClusterNode
