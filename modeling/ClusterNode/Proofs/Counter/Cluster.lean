import ClusterNode.Proofs.Counter.Home
import Mathlib.Algebra.Ring.Int.Defs

/-!
Clusters of counter nodes around a service that keeps their counters. Requests and replies between
them are under way until they arrive or are lost, in any order.
-/

set_option autoImplicit false

namespace ClusterNode.Workload.Counter

open ClusterNode.Counter (Account Add keyOf)

/-- Counter nodes with distinct names, their policies, and the service that keeps their counters. -/
structure Layout (ι : Type) where
  name : ι → String
  distinct : Function.Injective name
  service : String
  policy : ι → RetryPolicy

/-- The settings of a node. -/
def Layout.settings {ι : Type} (l : Layout ι) (i : ι) : Settings :=
  ⟨l.service, l.policy i⟩

@[simp] theorem Layout.settings_service {ι : Type} (l : Layout ι) (i : ι) :
    (l.settings i).service = l.service := rfl

/-- A request for an addition that has come to a node, and the task that works for it. -/
structure Addition (ι : Type) where
  node : ι
  task : Nat
  request : Message
  delta : Int64

/-- A message that a task of a node has written, or that answers one. -/
structure Parcel (ι : Type) where
  node : ι
  task : Nat
  message : Message

abbrev Tag (ι : Type) := ι × Nat

def Addition.tag {ι : Type} (a : Addition ι) : Tag ι := (a.node, a.task)

def Parcel.tag {ι : Type} (p : Parcel ι) : Tag ι := (p.node, p.task)

def swaps {ι : Type} (ps : List (Parcel ι)) : List (Tag ι) :=
  (ps.filter fun p => p.message.kind = "cas").map Parcel.tag

theorem swaps_append {ι : Type} (ps qs : List (Parcel ι)) :
    swaps (ps ++ qs) = swaps ps ++ swaps qs := by
  simp [swaps]

theorem mem_swaps_toList {ι : Type} {o : Option (Parcel ι)} {tag : Tag ι}
    (h : tag ∈ swaps o.toList) :
    ∃ p ∈ o, p.tag = tag := by
  obtain ⟨p, hp, htag⟩ := List.mem_map.mp h
  exact ⟨p, by simpa using (List.mem_filter.mp hp).1, htag⟩

theorem nodup_swaps_toList {ι : Type} (o : Option (Parcel ι)) : (swaps o.toList).Nodup := by
  cases o with
  | none => exact List.nodup_nil
  | some p =>
    simp only [swaps, Option.toList_some, List.filter_cons, List.filter_nil]
    split <;> simp

/-- The nodes and the service, and the requests and replies between them that are under way. The
rest is a record of what has happened, which nothing depends on: what became of the requests of each
node, the additions that clients asked for, those whose swap the service has applied, and the
answers to clients. -/
structure Cluster {ι : Type} (l : Layout ι) where
  nodes : (i : ι) → Node (counter (l.settings i))
  service : Bench.Service
  requests : List (Parcel ι)
  replies : List (Parcel ι)
  history : ι → History
  adds : List (Addition ι)
  applied : List (Tag ι)
  answers : List (Parcel ι)

/-- What can happen in a cluster. -/
inductive Move (ι : Type) where
  | client (i : ι) (line : List UInt8)
  | step (i : ι) (now : Nat) (stamp : Stamp) (task : Nat)
  | serve (position : Nat)
  | deliver (i : ι) (position : Nat)
  | loseRequest (position : Nat)
  | loseReply (position : Nat)

/-- The request for an addition that a line is, if it is one. -/
def lineAdd? (line : List UInt8) : Option (Message × Int64) :=
  match Reading.ofBytes line with
  | .message m _ =>
    match (m.payload : Except RpcError Payload.Counter) with
    | .ok (.add delta) => some (m, delta)
    | _ => none
  | _ => none

/-- Lines of clients, none of which is the service: requests for an addition. -/
def Move.FromClient {ι : Type} (l : Layout ι) : Move ι → Prop
  | .client _ line => ∃ m text delta, Reading.ofBytes line = .message m text ∧ m.src ≠ l.service ∧
      m.inReplyTo? = none ∧ (m.payload : Except RpcError Payload.Counter) = .ok (.add delta)
  | _ => True

namespace Cluster

variable {ι : Type} {l : Layout ι}

section Moves

variable [DecidableEq ι]

/-- Something happens to a node. -/
def event (c : Cluster l) (i : ι) (e : Node.Event (counter (l.settings i))) : Cluster l :=
  { c with
    nodes := Function.update c.nodes i ((c.nodes i).apply e)
    history := Function.update c.history i (c.history i ++ (c.nodes i).occurrences e) }

def written (c : Cluster l) (i : ι) (now : Nat) (stamp : Stamp) (task : Nat) : List (Parcel ι) :=
  (((c.nodes i).step now stamp task).written.drop (c.nodes i).written.length).map fun m =>
    ⟨i, task, m⟩

def apply (c : Cluster l) : Move ι → Cluster l
  | .client i line =>
    { c.event i (.line line) with
      adds := c.adds ++
        ((lineAdd? line).map fun (m, delta) => ⟨i, (c.nodes i).nextTask, m, delta⟩).toList }
  | .step i now stamp task =>
    { c.event i (.step now stamp task) with
      requests := c.requests ++
        (c.written i now stamp task).filter fun p => p.message.dest = l.service
      answers := c.answers ++
        (c.written i now stamp task).filter fun p => p.message.dest ≠ l.service }
  | .serve position =>
    match c.requests[position]? with
    | some p =>
      let (reply, service) := c.service.respond p.message
      { c with
        service
        requests := c.requests.eraseIdx position
        replies := c.replies ++ (reply.map fun m => ⟨p.node, p.task, m⟩).toList
        applied := c.applied ++ if c.service.takes p.message then [p.tag] else [] }
    | none => c
  | .deliver i position =>
    match c.replies[position]? with
    | some p =>
      if p.message.dest = l.name i then
        { c.event i (.line (Bench.Session.lineBytes p.message.encode)) with
          replies := c.replies.eraseIdx position }
      else c
    | none => c
  | .loseRequest position => { c with requests := c.requests.eraseIdx position }
  | .loseReply position => { c with replies := c.replies.eraseIdx position }

def run (c : Cluster l) (moves : List (Move ι)) : Cluster l :=
  moves.foldl apply c

/-- The sum of the additions to a node whose swap the service has applied. -/
def total (c : Cluster l) (i : ι) : Int :=
  ((c.adds.filter fun a => a.node = i ∧ a.tag ∈ c.applied).map fun a => a.delta.toInt).sum

end Moves

/-- The value that the service has for the key of a node, absent counting as zero. -/
def value (c : Cluster l) (i : ι) : Int :=
  ((Dictionary.get? (keyOf (l.name i)) c.service.store).getD 0).toInt

/-- The tasks whose swap is on its way to the service. -/
def swapping (c : Cluster l) : List (Tag ι) := swaps c.requests

/-- The account of a task. -/
def account (c : Cluster l) (i : ι) (task : Nat) : Account where
  present := (Dictionary.get? (keyOf (l.name i)) c.service.store).isSome
  spent := (i, task) ∈ c.applied ++ c.swapping
  landed := (i, task) ∈ c.applied

/-- What a node cannot see. -/
def sight (c : Cluster l) (i : ι) : Sight where
  Adds task request delta := ⟨i, task, request, delta⟩ ∈ c.adds
  account := c.account i
  Replies task id reply := ⟨i, task, reply⟩ ∈ c.replies ∧ reply.inReplyTo? = some id

def Sends (c : Cluster l) (p : Parcel ι) : Prop :=
  ∃ call id, p.message = KvClient.message call (l.name p.node) l.service id ∧
    .requested p.task id p.message ∈ c.history p.node ∧
    ∃ a ∈ c.adds, a.tag = p.tag ∧
      (addition (l.settings p.node) (l.name p.node) a.delta).Asks (c.account p.node p.task) call

/-- A reply on its way goes to the node that made the request, and can be read. -/
structure Returns (l : Layout ι) (p : Parcel ι) : Prop where
  dest : p.message.dest = l.name p.node
  legible : p.message.Legible
  number : p.message.inReplyTo?.isSome

def Gone (c : Cluster l) (tag : Tag ι) : Prop :=
  ∀ x ∈ (c.nodes tag.1).tasks, x.id ≠ tag.2

def Reports (c : Cluster l) (p : Parcel ι) : Prop :=
  ∃ a ∈ c.adds, a.tag = p.tag ∧ p.message.Answers a.request ∧ a.request.msgId?.isSome ∧
    ((p.message.kind = "add_ok" ∧ p.tag ∈ c.applied) ∨
      ∃ e, p.message.rpcError? = some e ∧
        (e.code.toInt64 = 0 ∨ p.tag ∉ c.applied ++ c.swapping ∧ c.Gone p.tag))

/-- A request that a task may send: it is a call of its addition, and a swap is the first one that
the task has under way or applied. -/
structure Fresh (c c' : Cluster l) (i : ι) (p : Parcel ι) : Prop where
  node : p.node = i
  live : ¬ c.Gone p.tag
  unspent : p.tag ∉ c.applied ++ c.swapping
  known : ∃ a ∈ c.adds, a.tag = p.tag
  sends : c'.Sends p

structure Comes (c c' : Cluster l) (a : Addition ι) : Prop where
  task : a.task = (c.nodes a.node).nextTask
  below : a.task < (c'.nodes a.node).nextTask
  outside : a.request.src ≠ l.service
  kind : a.request.kind = "add"

section Mono

variable {c c' : Cluster l} {p : Parcel ι}

theorem Sends.mono (h : c.Sends p) (history : ∀ o ∈ c.history p.node, o ∈ c'.history p.node)
    (adds : ∀ a ∈ c.adds, a ∈ c'.adds)
    (present : (c.account p.node p.task).present → (c'.account p.node p.task).present) :
    c'.Sends p := by
  obtain ⟨call, id, hmessage, hrequested, a, hadd, htag, hasks⟩ := h
  exact ⟨call, id, hmessage, history _ hrequested, a, adds a hadd, htag, hasks.mono present⟩

theorem Reports.mono (h : c.Reports p) (adds : ∀ a ∈ c.adds, a ∈ c'.adds)
    (applied : ∀ tag ∈ c.applied, tag ∈ c'.applied)
    (ended : (∃ a ∈ c.adds, a.tag = p.tag) → p.tag ∉ c.applied ++ c.swapping → c.Gone p.tag →
      p.tag ∉ c'.applied ++ c'.swapping ∧ c'.Gone p.tag) : c'.Reports p := by
  obtain ⟨a, hadd, htag, hanswers, hasked, hreport⟩ := h
  refine ⟨a, adds a hadd, htag, hanswers, hasked, ?_⟩
  rcases hreport with ⟨hkind, happlied⟩ | ⟨e, he, hcode | ⟨hunspent, hgone⟩⟩
  · exact .inl ⟨hkind, applied _ happlied⟩
  · exact .inr ⟨e, he, .inl hcode⟩
  · exact .inr ⟨e, he, .inr (ended ⟨a, hadd, htag⟩ hunspent hgone)⟩

end Mono

end Cluster

end ClusterNode.Workload.Counter
