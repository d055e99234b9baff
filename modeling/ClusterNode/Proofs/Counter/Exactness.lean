import ClusterNode.Proofs.Counter.Serving
import ClusterNode.Proofs.Node.Init
import Mathlib.Data.List.Induction

/-!
Exactness: whatever is delayed or lost between the nodes and the service, no addition to a counter
is lost and none counts twice.
-/

set_option autoImplicit false

namespace ClusterNode.Workload.Counter

variable {ι : Type} {l : Layout ι}

section Requests

private theorem plain_add (delta : Int64) : Payload.Plain (Payload.Counter.add delta) "add" :=
  ⟨_, rfl, by simp [stampNames, Json.Readable.ofInt64]⟩

private theorem payload_add (src dest : String) (msgId : Option UInt64) (delta : Int64) :
    ((Payload.Plain.message (Payload.Counter.add delta) src dest msgId none).payload :
      Except RpcError Payload.Counter) = .ok (.add delta) :=
  Message.payload_of_decode (Payload.Counter.decode_body _ _ _)

private theorem fromClient_add (i : ι) {src : String} (dest : String) (msgId : Option UInt64)
    (delta : Int64)
    (outside : src ≠ l.service) :
    (Move.client i (Bench.Session.lineBytes
      (Payload.Plain.message (Payload.Counter.add delta) src dest msgId none).encode)).FromClient
        l :=
  ⟨_, _, delta, ofBytes_encode (plain_add delta).legible, outside, (plain_add delta).inReplyTo?,
    payload_add src dest msgId delta⟩

end Requests

variable [DecidableEq ι] {c : Cluster l} {initial : ι → Int}

section Runs

private theorem Cluster.history_apply (c : Cluster l) (move : Move ι) (i : ι) :
    ∃ more, (c.apply move).history i = c.history i ++ more := by
  have hevent : ∀ j (e : Node.Event (counter (l.settings j))),
      ∃ more, (c.event j e).history i = c.history i ++ more := fun j e =>
    forall_event (P := fun j _ h => ∃ more, h = c.history j ++ more) ⟨_, rfl⟩
      (fun j _ => ⟨[], (List.append_nil _).symm⟩) i
  have hsame : ∃ more, c.history i = c.history i ++ more := ⟨[], (List.append_nil _).symm⟩
  cases move with
  | client j line => exact hevent j (.line line)
  | step j now stamp task => exact hevent j (.step now stamp task)
  | serve position =>
    simp only [Cluster.apply]
    split <;> exact hsame
  | deliver j position =>
    simp only [Cluster.apply]
    split
    · split
      · exact hevent j _
      · exact hsame
    · exact hsame
  | loseRequest position => exact hsame
  | loseReply position => exact hsame

private theorem Cluster.takenIds_le_apply (c : Cluster l) (move : Move ι) (i : ι) :
    (c.history i).takenIds.length ≤ ((c.apply move).history i).takenIds.length := by
  obtain ⟨more, hmore⟩ := c.history_apply move i
  simp only [hmore, History.takenIds, List.filterMap_append, List.length_append]
  exact Nat.le_add_right _ _

private theorem Accounts.apply (ha : Accounts c initial) {move : Move ι}
    (client : move.FromClient l)
    (few : ∀ i, ((c.apply move).history i).takenIds.length < UInt64.size) :
    Accounts (c.apply move) initial := by
  cases move with
  | client i line => exact ha.client client
  | step i now stamp task => exact ha.step i now stamp task (few i)
  | serve position => exact ha.serve position
  | deliver i position => exact ha.deliver i position
  | loseRequest position => exact ha.loseRequest position
  | loseReply position => exact ha.loseReply position

private theorem Accounts.run (ha : Accounts c initial) (moves : List (Move ι))
    (clients : ∀ move ∈ moves, move.FromClient l)
    (few : ∀ i, ((c.run moves).history i).takenIds.length < UInt64.size) :
    Accounts (c.run moves) initial := by
  induction moves using List.reverseRecOn with
  | nil => exact ha
  | append_singleton moves move ih =>
    have hrun : c.run (moves ++ [move]) = (c.run moves).apply move := List.foldl_append
    rw [hrun] at few ⊢
    have hbefore : Accounts (c.run moves) initial :=
      ih (fun m hm => clients m (List.mem_append_left _ hm)) fun i =>
        Nat.lt_of_le_of_lt ((c.run moves).takenIds_le_apply move i) (few i)
    exact hbefore.apply (clients move (List.mem_append_right _ List.mem_cons_self)) few

end Runs

section Start

/-- A node that has its identity, has asked for nothing, and has nothing left to do. -/
structure Ready {settings : Settings} (n : Node (counter settings)) (name : String) : Prop where
  identity : ∃ peers, n.identity = some ⟨name, peers⟩
  working : n.mode = .working
  reading : n.verdict = none
  pending : n.pending = .empty
  tasks : n.tasks = []

private theorem Ready.correlated {settings : Settings} {n : Node (counter settings)} {name : String}
    (h : Ready n name) : n.Correlated [] where
  numbered := ⟨by simp [h.tasks], by simp [h.tasks]⟩
  sound := .nil
  pending := h.pending ▸ (Node.Correlated.start (counter settings) n.rpcTimeout).pending
  standing := fun t ht => by simp [h.tasks] at ht

theorem ready_of_init {settings : Settings} (rpcTimeout : Duration) {line : List UInt8}
    {m : Message}
    {text name : String} {peers : List String} (hread : Reading.ofBytes line = .message m text)
    (hreply : m.inReplyTo? = none) (hkind : m.kind = "init")
    (hpayload : (m.payload : Except RpcError Payload.Init) = .ok (.init name peers)) :
    Ready ((Node.start (counter settings) rpcTimeout).run
      (.line line :: List.replicate 4 (.step 0 ⟨0, 0⟩ 0))) name := by
  have hinit := Node.initialised_of_init
    (w := counter settings) rfl rpcTimeout hread hreply hkind hpayload
  exact ⟨⟨peers, hinit.identity⟩, hinit.working, hinit.reading, hinit.pending, hinit.tasks⟩

def Cluster.start (nodes : (i : ι) → Node (counter (l.settings i))) (store : KvStore) :
    Cluster l where
  nodes
  service := ⟨l.service, store, .serve⟩
  requests := []
  replies := []
  history _ := []
  adds := []
  applied := []
  answers := []

private theorem Accounts.start {nodes : (i : ι) → Node (counter (l.settings i))} {store : KvStore}
    (ready : ∀ i, Ready (nodes i) (l.name i)) :
    Accounts (Cluster.start nodes store) (Cluster.start nodes store).value where
  home i := ⟨(ready i).identity, (ready i).working, (ready i).reading, (ready i).correlated,
    fun _ _ h => absurd h List.not_mem_nil, fun _ _ _ h => absurd h.1 List.not_mem_nil,
    fun t ht => by simp [Cluster.start, (ready i).tasks] at ht⟩
  serving := rfl
  distinct := List.nodup_nil
  adds := by simp [Cluster.start]
  once := by simp [Cluster.start, Cluster.swapping, swaps]
  known := by simp [Cluster.start, Cluster.swapping, swaps]
  value i := by simp [Cluster.total, Cluster.start]
  requests := by simp [Cluster.start]
  replies := by simp [Cluster.start]
  answers := by simp [Cluster.start]

end Start

/-- What is known of a cluster whose service has begun with given values. -/
structure Exact (c : Cluster l) (initial : ι → Int) : Prop where
  /-- The value of a node is its first one and the exact sum of the additions that were applied. -/
  value : ∀ i, c.value i = initial i + c.total i
  /-- Each request for an addition has a task of its own. -/
  distinct : (c.adds.map Addition.tag).Nodup
  /-- What is applied is what a client has asked for. -/
  asked : ∀ tag ∈ c.applied, ∃ a ∈ c.adds, a.tag = tag
  /-- No addition is applied more than once. -/
  once : ∀ a ∈ c.adds, c.applied.count a.tag ≤ 1
  /-- Each answer answers the request for an addition, which has asked for one. -/
  answers : ∀ p ∈ c.answers, ∃ a ∈ c.adds, a.tag = p.tag ∧ p.message.Answers a.request ∧
    a.request.msgId?.isSome
  /-- An answer confirms the addition or is an error. -/
  outcome : ∀ p ∈ c.answers, p.message.kind = "add_ok" ∨ p.message.rpcError?.isSome
  /-- An addition that is confirmed is applied exactly once. -/
  confirmed : ∀ p ∈ c.answers, p.message.kind = "add_ok" → c.applied.count p.tag = 1
  /-- An addition that fails is not applied, unless it is for a timeout. -/
  failed : ∀ p ∈ c.answers, ∀ e, p.message.rpcError? = some e → e.code.toInt64 ≠ 0 →
    c.applied.count p.tag = 0

private theorem Accounts.exact (ha : Accounts c initial) : Exact c initial where
  value := ha.value
  distinct := ha.distinct
  asked tag h := ha.known tag (List.mem_append_left _ h)
  once a _ := List.nodup_iff_count_le_one.mp (List.nodup_append.mp ha.once).1 a.tag
  answers p hp := by
    obtain ⟨a, hadd, htag, hanswers, hasked, -⟩ := ha.answers p hp
    exact ⟨a, hadd, htag, hanswers, hasked⟩
  outcome p hp := by
    obtain ⟨a, -, -, -, -, ⟨hkind, -⟩ | ⟨e, he, -⟩⟩ := ha.answers p hp
    · exact .inl hkind
    · exact .inr (Option.isSome_iff_exists.mpr ⟨e, he⟩)
  confirmed p hp hkind := by
    obtain ⟨a, -, -, -, -, ⟨-, happlied⟩ | ⟨e, he, -⟩⟩ := ha.answers p hp
    · exact List.count_eq_one_of_mem (List.nodup_append.mp ha.once).1 happlied
    · simp [Message.rpcError?, Message.isError, hkind] at he
  failed p hp e he hcode := by
    obtain ⟨a, -, -, -, -, ⟨hkind, -⟩ | ⟨e', he', hreport⟩⟩ := ha.answers p hp
    · simp [Message.rpcError?, Message.isError, hkind] at he
    · obtain rfl := Option.some.inj (he.symm.trans he')
      refine List.count_eq_zero.mpr fun happlied => ?_
      rcases hreport with hzero | ⟨hunspent, -⟩
      · exact hcode hzero
      · exact hunspent (List.mem_append_left _ happlied)

/-- In every run of a cluster of counter nodes with distinct names, whatever its clients add,
whenever the calls of the nodes time out, and whatever is delayed or lost between them and the
service, each value is exact, what is confirmed counts once, and what fails does not count. The
numbers of requests are words of 64 bits: a node that used all of them up would begin again, and
might take a reply that was held back since for one to its latest request. -/
theorem cluster_counts {nodes : (i : ι) → Node (counter (l.settings i))} (store : KvStore)
    (ready : ∀ i, Ready (nodes i) (l.name i)) (moves : List (Move ι))
    (clients : ∀ move ∈ moves, move.FromClient l)
    (few : ∀ i, (((Cluster.start nodes store).run moves).history i).takenIds.length < UInt64.size) :
    Exact ((Cluster.start nodes store).run moves) (Cluster.start nodes store).value :=
  ((Accounts.start ready).run moves clients few).exact

section Pair

def pair : Layout Bool where
  name i := if i then "b" else "a"
  distinct := by
    intro i j h
    cases i <;> cases j <;> simp_all
  service := "kv"
  policy _ := .unbounded

def pairNode (i : Bool) : Node (counter (pair.settings i)) :=
  { Node.start (counter (pair.settings i)) ⟨1000000000⟩ with
    identity := some ⟨pair.name i, ["a", "b"]⟩ }

def pairRequest (delta : Int64) : Message :=
  Payload.Plain.message (Payload.Counter.add delta) "c" "a" (some 1) none

def steps (task count : Nat) : List (Move Bool) :=
  List.replicate count (.step false 0 ⟨0, 0⟩ task)

def swap (delta : Int64) (task : Nat) : List (Move Bool) :=
  .client false (Bench.Session.lineBytes (pairRequest delta).encode) :: steps task 4 ++
    [.serve 0, .deliver false 0] ++ steps (task + 1) 1 ++ steps task 3 ++ [.serve 0]

/-- An addition that is confirmed, and one that is counted, but times out as the reply is lost. -/
def counting : List (Move Bool) :=
  swap 5 0 ++ [.deliver false 0] ++ steps 2 1 ++ steps 0 4 ++ swap 3 3 ++
    [.loseReply 0, .step false 1000 ⟨0, 0⟩ 3] ++ steps 3 3

theorem counting_exact :
    (∀ i, Ready (pairNode i) (pair.name i)) ∧ (∀ move ∈ counting, move.FromClient pair) ∧
      (∀ i, (((Cluster.start pairNode []).run counting).history i).takenIds.length < UInt64.size) ∧
      ((Cluster.start pairNode []).run counting).answers.map (·.message.kind) =
        ["add_ok", "error"] ∧
      ((Cluster.start pairNode []).run counting).value false = 8 ∧
      Exact ((Cluster.start pairNode []).run counting) (Cluster.start pairNode []).value := by
  have ready : ∀ i, Ready (pairNode i) (pair.name i) := fun i => ⟨⟨_, rfl⟩, rfl, rfl, rfl, rfl⟩
  have hsteps : ∀ task count, ∀ move ∈ steps task count, move.FromClient pair := by
    intro task count move hmove
    rw [List.eq_of_mem_replicate hmove]
    trivial
  have hswap : ∀ delta task, ∀ move ∈ swap delta task, move.FromClient pair := by
    intro delta task move hmove
    simp only [swap, List.mem_append, List.mem_cons, List.not_mem_nil, or_false] at hmove
    rcases hmove with ((((rfl | h) | rfl | rfl) | h) | h) | rfl
    · exact fromClient_add false "a" (some 1) delta (by decide)
    · exact hsteps _ _ move h
    · trivial
    · trivial
    · exact hsteps _ _ move h
    · exact hsteps _ _ move h
    · trivial
  have clients : ∀ move ∈ counting, move.FromClient pair := by
    intro move hmove
    simp only [counting, List.mem_append, List.mem_cons, List.not_mem_nil, or_false] at hmove
    rcases hmove with (((((h | rfl) | h) | h) | h) | rfl | rfl) | h
    · exact hswap 5 0 move h
    · trivial
    · exact hsteps _ _ move h
    · exact hsteps _ _ move h
    · exact hswap 3 3 move h
    · trivial
    · trivial
    · exact hsteps _ _ move h
  have happened : (∀ i,
      (((Cluster.start pairNode []).run counting).history i).takenIds.length < UInt64.size) ∧
      ((Cluster.start pairNode []).run counting).answers.map (·.message.kind) =
        ["add_ok", "error"] ∧
      ((Cluster.start pairNode []).run counting).value false = 8 := by
    decide +kernel
  obtain ⟨few, answers, value⟩ := happened
  exact ⟨ready, clients, few, answers, value, cluster_counts [] ready counting clients few⟩

end Pair

end ClusterNode.Workload.Counter
