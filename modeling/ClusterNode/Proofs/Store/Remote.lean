import ClusterNode.Proofs.Node.Output
import ClusterNode.Proofs.Pending
import ClusterNode.Proofs.Store.Client

/-!
Stores behind a service: a task asks the service of a store for an operation, the service answers,
and the task goes on with the reply. What the task hears, and what becomes of the store, is what the
operation does to the store directly.
-/

set_option autoImplicit false

namespace ClusterNode

namespace Node

variable {w : Workload}

/-- A node that works for a task: it writes and reads, and the numbers of its requests count up. -/
structure Engaged (n : Node w) (t : Task w.Job) : Prop where
  numbered : n.Numbered
  mem : t ∈ n.tasks
  working : n.mode = .working
  reading : n.verdict = none
  counted : n.pending.Counted

section Exchange

variable {n : Node w} {t : Task w.Job} {now : Nat} {stamp : Stamp}

private theorem Engaged.step (hn : n.Engaged t) :
    n.step now stamp t.id = n.stepTask now stamp t := by
  rw [Node.step, hn.numbered.task? hn.mem]

section Update

variable {f g : Task w.Job → Task w.Job}

theorem update_update (n : Node w) (id : Nat) (hf : ∀ t, (f t).id = t.id) :
    (n.update id f).update id g = n.update id (g ∘ f) := by
  simp only [update, List.map_map]
  congr 1
  refine List.map_congr_left fun t _ => ?_
  by_cases h : t.id = id <;> simp [h, hf]

theorem Numbered.update (hn : n.Numbered) (id : Nat) (hf : ∀ t, (f t).id = t.id) :
    (n.update id f).Numbered where
  nodup := by
    have hids : (n.update id f).tasks.map Task.id = n.tasks.map Task.id := by
      simp only [Node.update, List.map_map]
      refine List.map_congr_left fun t _ => ?_
      by_cases h : t.id = id <;> simp [h, hf]
    exact hids ▸ hn.nodup
  below := by
    intro x hx
    rcases Node.mem_update.mp hx with ⟨hx, -⟩ | ⟨y, hy, -, rfl⟩
    · exact hn.below x hx
    · exact hf y ▸ hn.below y hy

end Update

def asking (n : Node w) (t : Task w.Job) (shared : w.Shared) (m : Message) (wait : Wait w.Job) :
    Node w :=
  { n with
    shared
    pending := (n.pending.register (.deliver t.id)).2
    written := n.written ++ [m]
    metrics := n.metrics.countSent.countRpcSent : Node w }.update t.id fun t =>
      { t with stage := .wait wait, mailbox := .empty }

private theorem Engaged.run_ask (hn : n.Engaged t) {job : w.Job} (hs : t.stage = .work job)
    {dest : String} {c : StoreCall} {patience : Patience} {next : Except NodeError Message → w.Job}
    {shared : w.Shared}
    (hstep : w.step n.view n.shared job =
      (.call dest (Payload.encode (KvClient.request c)) patience next, shared)) (now : Nat)
    (stamp : Stamp) : n.run [.step now stamp t.id, .step now stamp t.id] =
      n.asking t shared (KvClient.message c n.name dest (n.pending.lastId + 1))
        ⟨dest, n.pending.lastId + 1, limitOf now patience, next⟩ := by
  let body := (KvClient.message c n.name dest (n.pending.lastId + 1)).body
  let dial (x : Task w.Job) : Task w.Job :=
    { x with
      stage := .dial dest (n.pending.lastId + 1) body (limitOf now patience) next
      mailbox := .empty }
  let taken := ({ n with shared, pending := (n.pending.register (.deliver t.id)).2 } :
    Node w).update t.id
    dial
  have hfirst : n.step now stamp t.id = taken := by
    rw [hn.step, stepTask, hs]
    simp only [hstep]
    rfl
  have hnumbered : taken.Numbered := Numbered.update hn.numbered.congr t.id fun _ => rfl
  have htask : taken.task? t.id = some (dial t) :=
    hnumbered.task? (mem_update.mpr (.inr ⟨t, hn.mem, rfl, rfl⟩))
  have hmode : taken.mode = .working := hn.working
  show (n.step now stamp t.id).step now stamp t.id = _
  rw [hfirst, Node.step, htask]
  have hwrite : taken.writeCall now dest (n.pending.lastId + 1) body (limitOf now patience) =
      (.ok true, { taken with
        written := taken.written ++ [⟨taken.name, dest, body⟩]
        metrics := taken.metrics.countSent.countRpcSent }) := by
    rcases writeCall_working hmode now dest _ body
      (limitOf now patience) with h | ⟨_, _, hlimit, hlate, -⟩
    · exact h
    · exact absurd hlate (Nat.not_lt.mpr (le_deadline hlimit))
  simp only [stepTask, dial, hwrite]
  let sent : Node w := { n with
    shared
    pending := (n.pending.register (.deliver t.id)).2
    written := n.written ++ [KvClient.message c n.name dest (n.pending.lastId + 1)]
    metrics := n.metrics.countSent.countRpcSent }
  exact update_update sent t.id (f := dial) fun _ => rfl

private theorem Engaged.asking (hn : n.Engaged t) (shared : w.Shared) (m : Message)
    (wait : Wait w.Job)
    (few : n.pending.lastId.toNat + 1 < UInt64.size) :
    (n.asking t shared m wait).Engaged { t with stage := .wait wait, mailbox := .empty } where
  numbered := Numbered.update hn.numbered.congr t.id fun _ => rfl
  mem := mem_update.mpr (.inr ⟨t, hn.mem, rfl, rfl⟩)
  working := hn.working
  reading := hn.reading
  counted := hn.counted.register few _

private theorem Engaged.run_hear (hn : n.Engaged t) {wait : Wait w.Job} (hs : t.stage = .wait wait)
    (awaited : n.pending.get? wait.id = some (.deliver t.id)) {line : List UInt8} {reply : Message}
    {text : String} (hread : Reading.ofBytes line = .message reply text)
    (hreply : reply.inReplyTo? = some wait.id) (later : Nat) (stamp : Stamp) :
    let n' := n.run [.line line, .step later stamp n.nextTask, .step later stamp t.id]
    n'.Engaged { t with stage := .work (wait.next (History.outcome reply)), mailbox := .empty } ∧
      n'.pending.lastId = n.pending.lastId ∧ n'.identity = n.identity := by
  let hand : Task w.Job := ⟨n.nextTask, .callback, reply, .hand t.id wait.id, .empty⟩
  let heard : Node w := { n with
    pending := n.pending.erase wait.id
    metrics := n.metrics.countReceived.countReplyMatched
    tasks := n.tasks ++ [hand]
    nextTask := n.nextTask + 1 }
  have hline : n.receiveBytes line = heard := by
    rw [receiveBytes_eq_take, if_neg (by simp [hn.reading]), hread]
    simp only [take, hreply, receiveReply, Pending.take, awaited]
    rfl
  have hnumbered : heard.Numbered := hline ▸ hn.numbered.apply (.line line)
  let handed : Node w := (heard.post t.id wait.id (.full reply)).remove n.nextTask
  have hhand : heard.step later stamp n.nextTask = handed := by
    have htask : heard.task? n.nextTask = some hand := hnumbered.task? (t := hand) (by simp [heard])
    rw [Node.step, htask]
    rfl
  have hnumbered' : handed.Numbered := hhand ▸ hnumbered.step later stamp n.nextTask
  have hmail : { t with mailbox := .full reply } ∈ handed.tasks := by
    refine mem_remove.mpr ⟨mem_update.mpr (.inr ⟨t, by simp [heard, hn.mem], rfl, ?_⟩), ?_⟩
    · simp [Task.callId?, hs]
    · exact Nat.ne_of_lt (hn.numbered.below t hn.mem)
  have hresume : handed.step later stamp t.id = handed.update t.id fun t =>
      { t with stage := .work (wait.next (History.outcome reply)), mailbox := .empty } := by
    have htask : handed.task? t.id = some { t with mailbox := .full reply } :=
      hnumbered'.task? hmail
    rw [Node.step, htask]
    simp only [stepTask, hs, waitResult?, History.outcome]
    cases reply.rpcError? <;> rfl
  have hrun : n.run [.line line, .step later stamp n.nextTask, .step later stamp t.id] =
      handed.update t.id fun t =>
        { t with stage := .work (wait.next (History.outcome reply)), mailbox := .empty } := by
    rw [← hresume, ← hhand, ← hline]
    rfl
  rw [hrun]
  exact ⟨⟨hnumbered'.update t.id fun _ =>
    rfl, mem_update.mpr (.inr ⟨_, hmail, rfl, rfl⟩), hn.working,
    hn.reading, hn.counted.erase wait.id⟩, rfl, rfl⟩

end Exchange

end Node

def KvStore.performAll (store : KvStore) : List StoreCall → List StoreAnswer × KvStore
  | [] => ([], store)
  | c :: calls =>
    let (answer, store) := store.perform c
    let (answers, store) := performAll store calls
    (answer :: answers, store)

/-- A service reads a line. A request that is meant for it is answered with a line. -/
def Bench.Service.hear (s : Service) (line : List UInt8) : Option (List UInt8) × Service :=
  match Reading.ofBytes line with
  | .message request _ =>
    if request.dest = s.name then
      let (reply, s) := s.respond request
      (reply.map fun reply => Session.lineBytes reply.encode, s)
    else (none, s)
  | _ => (none, s)

structure Link (w : Workload) where
  node : Node w
  service : Bench.Service

structure Moment where
  now : Nat
  later : Nat
  stamp : Stamp

namespace Link

variable {w : Workload}

/-- A task sends a request, the service reads its line, and the line that it answers is received and
handed to the task. -/
def exchange (l : Link w) (task : Nat) (m : Moment) : Link w :=
  let node := l.node.run [.step m.now m.stamp task, .step m.now m.stamp task]
  match node.written[l.node.written.length]? with
  | none => ⟨node, l.service⟩
  | some request =>
    match l.service.hear (Bench.Session.lineBytes request.encode) with
    | (none, service) => ⟨node, service⟩
    | (some line, service) =>
      ⟨node.run [.line line, .step m.later m.stamp node.nextTask, .step m.later m.stamp task],
        service⟩

def run (l : Link w) (task : Nat) (moments : List Moment) : Link w :=
  moments.foldl (fun l m => l.exchange task m) l

section Exchange

variable {l : Link w} {t : Task w.Job} {job : w.Job} {c : StoreCall} {patience : Patience}
  {next : Except NodeError Message → w.Job} {shared : w.Shared}

private theorem exchange_call (hn : l.node.Engaged t) (hs : t.stage = .work job)
    (hstep : w.step l.node.view l.node.shared job =
      (.call l.service.name (Payload.encode (KvClient.request c)) patience next, shared))
    (hmode : l.service.mode = .serve) (few : l.node.pending.lastId.toNat + 1 < UInt64.size)
    (m : Moment) :
    ∃ result node, l.exchange t.id m =
        ⟨node, { l.service with store := (l.service.store.perform c).2 }⟩ ∧
      node.Engaged { t with stage := .work (next result), mailbox := .empty } ∧
      node.pending.lastId.toNat = l.node.pending.lastId.toNat + 1 ∧
      KvClient.answer result c = (l.service.store.perform c).1.mapError StoreError.heard := by
  have hnat := Pending.lastId_succ few
  let id := l.node.pending.lastId + 1
  let request := KvClient.message c l.node.name l.service.name id
  let asking := l.node.asking t shared request
    ⟨l.service.name, id, Node.limitOf m.now patience, next⟩
  have hask : l.node.run [.step m.now m.stamp t.id, .step m.now m.stamp t.id] = asking :=
    hn.run_ask hs hstep m.now m.stamp
  have hwritten : asking.written[l.node.written.length]? = some request := by
    show (l.node.written ++ [request])[l.node.written.length]? = some request
    simp
  have hread : Reading.ofBytes (Bench.Session.lineBytes request.encode) =
      .message request request.encode := ofBytes_encode (KvClient.plain_request c).legible
  obtain ⟨reply, hrespond, hdest, htells⟩ :=
    Bench.Service.respond_message hmode c l.node.name l.service.name id
  have hhear : l.service.hear (Bench.Session.lineBytes request.encode) =
      (some (Bench.Session.lineBytes reply.encode),
        { l.service with store := (l.service.store.perform c).2 }) := by
    simp only [Bench.Service.hear, hread]
    rw [if_pos KvClient.message_dest, hrespond]
    rfl
  have hnumber : reply.inReplyTo? = some id := by
    rw [htells.number, Option.filter_some, if_pos]
    simpa using Pending.lastId_succ_ne_zero few
  have hheard := (hn.asking shared request ⟨l.service.name, id, Node.limitOf m.now patience, next⟩
    few).run_hear rfl (hn.counted.get?_register few _)
      (ofBytes_encode htells.legible) hnumber m.later
    m.stamp
  refine ⟨History.outcome reply, _, ?_, hheard.1, ?_, htells.heard⟩
  · simp only [exchange, hask, hwritten, hhear]
    rfl
  · rw [hheard.2.1]
    exact hnat

end Exchange

end Link

/-- A job that carries out operations one after the other, and keeps what it hears of their
outcomes. -/
structure Script where
  calls : List StoreCall
  answers : List StoreAnswer

def Script.step (service : String) (view : View) (s : Script) : Action Script :=
  match s.calls with
  | [] => .finish (.ok ())
  | c :: calls =>
    .call service (Payload.encode (KvClient.request c)) (.atMost view.rpcTimeout) fun result =>
      ⟨calls, s.answers ++ [KvClient.answer result c]⟩

def Workload.script (service : String) : Workload where
  Job := Script
  Shared := Unit
  handlers := .empty
  shared := ()
  step view _ job := (job.step service view, ())

/-- What a client hears from a service, and what becomes of the store behind it, are those of the
store itself. -/
structure Refines (store : KvStore) (calls : List StoreCall) (heard : List StoreAnswer)
    (kept : KvStore) :
    Prop where
  kept_eq : kept = (store.performAll calls).2
  heard_eq : heard = (store.performAll calls).1.map fun answer => answer.mapError StoreError.heard
  absent_read : ∀ before key after, calls = before ++ .read key :: after →
    Dictionary.get? key (store.performAll before).2 = none → heard[before.length]? = some (.ok none)
  absent_swap : ∀ before key expected new after,
    calls = before ++ .cas key expected new false :: after →
    Dictionary.get? key (store.performAll before).2 = none →
    heard[before.length]? = some (.error (.keyNotFound key))

namespace KvStore

private theorem performAll_append (store : KvStore) (first second : List StoreCall) :
    store.performAll (first ++ second) =
      ((store.performAll first).1 ++ ((store.performAll first).2.performAll second).1,
        ((store.performAll first).2.performAll second).2) := by
  induction first generalizing store with
  | nil => rfl
  | cons c first ih => simp only [List.cons_append, performAll, ih]

private theorem length_performAll (store : KvStore) (calls : List StoreCall) :
    (store.performAll calls).1.length = calls.length := by
  induction calls generalizing store with
  | nil => rfl
  | cons c calls ih => simp only [performAll, List.length_cons, ih]

private theorem performAll_getElem? (store : KvStore) (before : List StoreCall) (c : StoreCall)
    (after : List StoreCall) : (store.performAll (before ++ c :: after)).1[before.length]? =
      some ((store.performAll before).2.perform c).1 := by
  rw [performAll_append, List.getElem?_append_right (by rw [length_performAll]), length_performAll,
    Nat.sub_self]
  rfl

end KvStore

private theorem Refines.of_performAll (store : KvStore) (calls : List StoreCall) :
    Refines store calls ((store.performAll calls).1.map fun answer =>
      answer.mapError StoreError.heard)
      (store.performAll calls).2 where
  kept_eq := rfl
  heard_eq := rfl
  absent_read := by
    rintro before key after rfl habsent
    rw [List.getElem?_map, KvStore.performAll_getElem?, KvStore.perform, habsent]
    rfl
  absent_swap := by
    rintro before key expected new after rfl habsent
    rw [List.getElem?_map, KvStore.performAll_getElem?]
    simp only [KvStore.perform, KvStore.swap, habsent]
    rfl

namespace Link

/-- A script hears of each operation what the store answers. -/
private theorem run_script {name : String} {calls : List (StoreCall × Moment)}
    {l : Link (.script name)}
    {t : Task (Workload.script name).Job} (hn : l.node.Engaged t) {answers : List StoreAnswer}
    (hs : t.stage = .work ⟨calls.map (·.1), answers⟩) (hname : l.service.name = name)
    (hmode : l.service.mode = .serve)
    (few : l.node.pending.lastId.toNat + calls.length < UInt64.size) :
    let direct := l.service.store.performAll (calls.map (·.1))
    (l.run t.id (calls.map (·.2))).service.store = direct.2 ∧
      ∃ x, (l.run t.id (calls.map (·.2))).node.Engaged x ∧ x.id = t.id ∧ x.stage =
        .work ⟨[], answers ++ direct.1.map fun answer => answer.mapError StoreError.heard⟩ := by
  induction calls generalizing l t answers with
  | nil => exact ⟨rfl, t, hn, rfl, by simpa [KvStore.performAll] using hs⟩
  | cons call calls ih =>
    obtain ⟨c, m⟩ := call
    rw [List.length_cons] at few
    have hstep : (Workload.script name).step l.node.view l.node.shared
      ⟨c :: calls.map (·.1), answers⟩ =
        (.call l.service.name (Payload.encode (KvClient.request c)) (.atMost l.node.view.rpcTimeout)
          (fun result => ⟨calls.map (·.1), answers ++ [KvClient.answer result c]⟩), ()) := by
      rw [hname]
      rfl
    obtain ⟨result, node, hexchange, hengaged, hlast, hheard⟩ :=
      exchange_call hn hs hstep hmode (by omega) m
    have hrun : l.run t.id (m :: calls.map (·.2)) =
      (l.exchange t.id m).run t.id (calls.map (·.2)) := rfl
    rw [List.map_cons, List.map_cons, hrun, hexchange]
    obtain ⟨hstore, x, hx, hid, hstage⟩ :=
      ih (l := ⟨node, { l.service with store := (l.service.store.perform c).2 }⟩)
        hengaged rfl hname hmode
        (by show node.pending.lastId.toNat + _ < _; omega)
    refine ⟨hstore, x, hx, hid, hstage.trans ?_⟩
    simp only [hheard, KvStore.performAll, List.map_cons, List.append_assoc, List.singleton_append]

/-- A client of a service that answers from its store has the same outcomes as the store itself, and
leaves it in the same state. No call times out: each reply arrives, and none is for the number zero,
which no reply answers and which the numbers of requests come to only when they run out. -/
theorem run_refines {service : Bench.Service} {n : Node (.script service.name)}
    {t : Task (Workload.script service.name).Job} {calls : List (StoreCall × Moment)}
    (hn : n.Engaged t) (hs : t.stage = .work ⟨calls.map (·.1), []⟩) (hmode : service.mode = .serve)
    (few : n.pending.lastId.toNat + calls.length < UInt64.size) :
    let l := run ⟨n, service⟩ t.id (calls.map (·.2))
    ∃ heard, (l.node.task? t.id).map Task.stage = some (.work ⟨[], heard⟩) ∧
      Refines service.store (calls.map (·.1)) heard l.service.store := by
  intro l
  obtain ⟨hstore, x, hx, hid, hstage⟩ :=
    run_script (l := ⟨n, service⟩) hn hs rfl hmode few
  have hkept : l.service.store = (service.store.performAll (calls.map (·.1))).2 := hstore
  refine ⟨(service.store.performAll (calls.map (·.1))).1.map fun answer =>
    answer.mapError StoreError.heard, ?_, ?_⟩
  · rw [← hid, hx.numbered.task? hx.mem, Option.map_some, hstage]
    rfl
  · rw [hkept]
    exact .of_performAll _ _

/-- A key that is absent, then is written, and is swapped from a wrong value and from the right
one. -/
def fiveCalls : List (StoreCall × Moment) :=
  [.read "k\n\"", .cas "k\n\"" 1 2 false, .write "k\n\"" Int64.minValue, .cas "k\n\"" 4 6 true,
    .cas "k\n\"" Int64.minValue Int64.maxValue false].map fun c => (c, ⟨0, 7, ⟨0, 0⟩⟩)

def keepingOne : Bench.Service := ⟨"lin-kv", [("a", 1)], .serve⟩

def callingFive : Node (.script keepingOne.name) :=
  (Node.start _ (.ofMillis 1000)).spawnClient ⟨fiveCalls.map (·.1), []⟩

theorem callingFive_refines :
    let l := run ⟨callingFive, keepingOne⟩ 0 (fiveCalls.map (·.2))
    (l.node.task? 0).map Task.stage =
      some (.work ⟨[], [.ok none, .error (.keyNotFound "k\n\""), .ok none,
      .error (.preconditionFailed "k\n\"" 4 none), .ok none]⟩) ∧
    l.service.store = [("a", 1), ("k\n\"", Int64.maxValue)] := by
  have hengaged : callingFive.Engaged ⟨0, .client, ⟨"", "", .null⟩,
      .work ⟨fiveCalls.map (·.1), []⟩, .empty⟩ :=
    ⟨(Node.Numbered.start _ _).spawn _ _ _, List.mem_singleton_self _, rfl, rfl, by
      intro entry hentry
      cases hentry⟩
  obtain ⟨heard, hstage, hrefines⟩ := run_refines hengaged rfl rfl (by decide)
  refine ⟨hstage.trans ?_, hrefines.kept_eq.trans ?_⟩
  · rw [hrefines.heard_eq]
    rfl
  · rfl

end Link

end ClusterNode
