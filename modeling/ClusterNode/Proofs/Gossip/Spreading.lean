import ClusterNode.Proofs.Gossip.State
import ClusterNode.Proofs.Message.Typed
import ClusterNode.Proofs.Node.Answers
import ClusterNode.Workload.Broadcast

/-!
How a node spreads a value: the tasks that work for requests to broadcast one, and what each of
their steps does to the accepted values and to the output.
-/

set_option autoImplicit false

namespace ClusterNode

namespace Message

def carried? (m : Message) : Option BroadcastValue :=
  match (m.payload : Except RpcError Payload.Broadcast) with
  | .ok (.broadcast v) => some v
  | _ => none

def carries (m : Message) (v : BroadcastValue) : Bool := m.carried?.any (· == v)

theorem carries_of_carried? {m : Message} {u v : BroadcastValue} (h : m.carried? = some u) :
    m.carries v = (u == v) := by
  simp [carries, h]

theorem payload_of_carried? {m : Message} {v : BroadcastValue} (h : m.carried? = some v) :
    (m.payload : Except RpcError Payload.Broadcast) = .ok (.broadcast v) := by
  simp only [carried?] at h
  split at h
  · rename_i u hpayload
    rw [hpayload, Option.some.inj h]
  · cases h

theorem kind_of_carried? {m : Message} {v : BroadcastValue} {fields : Dictionary Json}
    (h : m.carried? = some v) (hbody : m.body = .object fields) : m.kind = "broadcast" :=
  Message.kind_of_payload Payload.Broadcast.tag_of_decode (payload_of_carried? h) hbody

end Message

namespace Workload.Broadcast

def forward (src dest : String) (v : BroadcastValue) : Message :=
  Payload.Plain.message (Payload.Broadcast.broadcast v) src dest none none

section Forward

variable {src dest : String} {v : BroadcastValue}

@[simp] theorem dest_forward (src dest : String) (v : BroadcastValue) :
    (forward src dest v).dest = dest := rfl

theorem plain_broadcast (hv : v.number.Survives) :
    Payload.Plain (Payload.Broadcast.broadcast v) "broadcast" where
  fields := by
    refine ⟨_, rfl, fun field hfield => ?_⟩
    obtain rfl := List.mem_singleton.mp hfield
    exact ⟨by simp [stampNames], .number hv⟩

theorem carried?_message (src dest : String) (msgId inReplyTo : Option UInt64)
    (v : BroadcastValue) :
    (Payload.Plain.message (Payload.Broadcast.broadcast v) src dest msgId inReplyTo).carried? =
      some v := by
  rw [Message.carried?, Payload.Plain.message,
    Message.payload_of_decode (Payload.Broadcast.decode_body _ _ _)]

theorem carried?_forward (src dest : String) (v : BroadcastValue) :
    (forward src dest v).carried? = some v :=
  carried?_message src dest none none v

private theorem begin_broadcast (view : View) (values : Values) {m : Message}
    (h : (m.payload : Except RpcError Payload.Broadcast) = .ok (.broadcast v)) :
    begin view values m = (.proceed (.recorded v !values.contains v), (values.accept v).2) := by
  simp only [begin, h, Gossip.record_eq]

end Forward

/-- The neighbors to which a task is still to send its value, when the node has these neighbors. -/
def ahead (neighbors : List String) (t : Task broadcast.Job) : List String :=
  match t.stage with
  | .work (.recorded _ true) => neighbors
  | .work (.offered _ (.fresh neighbors)) | .work (.forwarding _ neighbors) => neighbors
  | _ => []

def Undecided (t : Task broadcast.Job) : Prop :=
  match t.stage with
  | .fresh _ | .work (.received _) => True
  | _ => False

/-- A task that works for a request to broadcast a value, and has met no error. -/
structure Bears (t : Task broadcast.Job) (v : BroadcastValue) : Prop where
  role : t.role = .handle
  carried : t.message.carried? = some v
  stage : match t.stage with
    | .fresh (some job) => job = .received t.message
    | .work (.received request) => request = t.message
    | .work (.recorded u _) | .work (.offered u _) | .work (.forwarding u _) => u = v
    | .work (.ending result) => result = .ok ()
    | .conclude result => result = .ok ()
    | _ => False

/-- What a step of a task does to the accepted values, to what the task is still to send, and to the
output. -/
inductive Change (n : Node broadcast) (t : Task broadcast.Job) (v : BroadcastValue) :
    Values → Option (Task broadcast.Job) → List Message → Prop
  | rest {o : Option (Task broadcast.Job)}
      (ahead : o.toList.flatMap (ahead n.shared.neighbors) = ahead n.shared.neighbors t)
      (undecided : Undecided t → ∃ x ∈ o, Undecided x) : Change n t v n.shared o []
  | accept {o : Option (Task broadcast.Job)} (undecided : Undecided t)
      (ahead : o.toList.flatMap (ahead n.shared.neighbors) =
        if n.shared.contains v then [] else n.shared.neighbors) :
          Change n t v (n.shared.accept v).2 o []
  | answer {o : Option (Task broadcast.Job)} {m : Message}
      (ahead : o.toList.flatMap (ahead n.shared.neighbors) = ahead n.shared.neighbors t)
      (decided : ¬ Undecided t) (asked : t.message.msgId?.isSome) (dest : m.dest = t.message.src)
      (carried : m.carried? = none) : Change n t v n.shared o [m]
  | forward {o : Option (Task broadcast.Job)} {dest : String} (decided : ¬ Undecided t)
      (ahead : ahead n.shared.neighbors t = dest :: o.toList.flatMap (ahead n.shared.neighbors)) :
      Change n t v n.shared o [forward n.name dest v]

structure Effect (n : Node broadcast) (t : Task broadcast.Job) (v : BroadcastValue)
    (n' : Node broadcast) (o : Option (Task broadcast.Job)) (ms : List Message) : Prop where
  tasks : ∀ before after, n.Around before t after → n'.tasks = before ++ o.toList ++ after
  bears : ∀ x ∈ o, Bears x v ∧ x.message = t.message
  identity : n'.identity = n.identity
  written : n'.written = n.written ++ ms
  change : Change n t v n'.shared o ms

section Effect

variable {n n₁ : Node broadcast} {t : Task broadcast.Job} {v : BroadcastValue} {ms : List Message}

private theorem Effect.goTo {stage : Stage broadcast.Job} (bears : Bears { t with stage } v)
    (change : Change n t v n₁.shared (some { t with stage }) ms)
    (written : n₁.written = n.written ++ ms := by simp) (tasks : n₁.tasks = n.tasks := by rfl)
    (identity : n₁.identity = n.identity := by rfl) :
    Effect n t v (n₁.goTo t.id stage) (some { t with stage }) ms where
  tasks := by
    intro before after ha
    have ha' : n₁.Around before t after := ⟨tasks ▸ ha.tasks, ha.before_ne, ha.after_ne⟩
    simpa using ha'.goTo stage
  bears := by simpa using bears
  identity := identity
  written := written
  change := change

private theorem carried?_answer (src dest : String) (id : UInt64) :
    (⟨src, dest, .object (Dictionary.insert "in_reply_to" (.ofUInt64 id)
      (Dictionary.ofList Payload.Broadcast.broadcastOk.fields))⟩ : Message).carried? = none :=
  rfl

private theorem received_effect (ht : Bears t v) (hs : t.stage = .work (.received t.message))
    (now : Nat)
    (stamp : Stamp) : ∃ o ms, Effect n t v (n.stepTask now stamp t) o ms := by
  have hbegin : Broadcast.step n.view n.shared (.received t.message) =
      (.proceed (.recorded v !n.shared.contains v), (n.shared.accept v).2) :=
    begin_broadcast _ _ (Message.payload_of_carried? ht.carried)
  have hstep : n.stepTask now stamp t =
    ({ n with shared := (n.shared.accept v).2 } : Node broadcast).goTo
      t.id (.work (.recorded v !n.shared.contains v)) := by
    simp only [Node.stepTask, hs]
    show Node.act { n with shared := (Broadcast.step n.view n.shared (.received t.message)).2 }
      now stamp t (Broadcast.step n.view n.shared (.received t.message)).1 = _
    rw [hbegin]
    rfl
  rw [hstep]
  refine ⟨_, _, .goTo ⟨ht.role, ht.carried, rfl⟩ (.accept (by simp [Undecided, hs]) ?_)⟩
  cases n.shared.contains v <;> simp [ahead]

private theorem recorded_effect (ht : Bears t v) {fresh : Bool}
    (hs : t.stage = .work (.recorded v fresh))
    (now : Nat) (stamp : Stamp) : ∃ o ms, Effect n t v (n.stepTask now stamp t) o ms := by
  have hstep : n.stepTask now stamp t =
      n.goTo t.id (.work (.offered v
          (if fresh then .fresh n.shared.neighbors else .duplicate))) := by
    simp only [Node.stepTask, hs]
    rfl
  rw [hstep]
  refine ⟨_, _, .goTo ⟨ht.role, ht.carried, rfl⟩ (.rest ?_ (by simp [Undecided, hs]))⟩
  cases fresh <;> simp [ahead, hs]

private theorem offered_effect (hmode : n.mode = .working) (ht : Bears t v)
    {acceptance : Gossip.Acceptance}
    (hs : t.stage = .work (.offered v acceptance)) (now : Nat) (stamp : Stamp) :
    ∃ o ms, Effect n t v (n.stepTask now stamp t) o ms := by
  have hbears : Bears { t with stage := .work (afterConfirmation v acceptance (.ok ())) } v := by
    cases acceptance <;> exact ⟨ht.role, ht.carried, rfl⟩
  have hahead : ahead n.shared.neighbors
    { t with stage := .work (afterConfirmation v acceptance (.ok ())) } =
      ahead n.shared.neighbors t := by
    cases acceptance <;> simp [ahead, hs, afterConfirmation]
  have hstep : n.stepTask now stamp t =
      (n.reply t.message (Payload.encode Payload.Broadcast.broadcastOk)).2.goTo t.id (.work
        (afterConfirmation v acceptance
          (n.reply t.message (Payload.encode Payload.Broadcast.broadcastOk)).1)) := by
    simp only [Node.stepTask, hs]
    rfl
  rw [hstep]
  cases hid : t.message.msgId? with
  | none =>
    rw [Node.reply_unnumbered hid]
    exact ⟨_, _, .goTo hbears (.rest (by simpa using hahead) (by simp [Undecided, hs]))⟩
  | some id =>
    rw [Payload.encode, Node.reply_working hmode hid]
    exact ⟨_, _, .goTo hbears (.answer (by simpa using hahead) (by simp [Undecided, hs])
      (by simp [hid]) rfl (carried?_answer _ _ id)) rfl⟩

private theorem finish_effect (ht : Bears t v) {now : Nat} {stamp : Stamp}
    (hahead : ahead n.shared.neighbors t = []) (decided : ¬ Undecided t)
    (hstep : n.stepTask now stamp t = n.act now stamp t (.finish (.ok ()))) :
    ∃ o ms, Effect n t v (n.stepTask now stamp t) o ms := by
  have hact : n.act now stamp t (.finish (.ok ())) = n.goTo t.id (.conclude (.ok ())) := by
    simp only [Node.act, ht.role]
  rw [hstep, hact]
  refine ⟨_, _, .goTo ⟨ht.role, ht.carried, rfl⟩ (.rest ?_ fun h => absurd h decided)⟩
  rw [hahead]
  rfl

theorem stepTask_effect (hmode : n.mode = .working) (ht : Bears t v) (now : Nat) (stamp : Stamp) :
    ∃ o ms, Effect n t v (n.stepTask now stamp t) o ms := by
  have hstage := ht.stage
  cases hs : t.stage with
  | fresh job =>
    rw [hs] at hstage
    cases job with
    | none => exact hstage.elim
    | some job =>
      obtain rfl : job = .received t.message := hstage
      simp only [Node.stepTask, hs]
      refine ⟨_, _, .goTo ⟨ht.role, ht.carried, rfl⟩ (.rest ?_ ?_)⟩
      · simp [ahead, hs]
      · exact fun _ => ⟨_, rfl, trivial⟩
  | work job =>
    rw [hs] at hstage
    cases job with
    | received request =>
      obtain rfl : request = t.message := hstage
      exact received_effect ht hs now stamp
    | recorded u fresh =>
      obtain rfl : u = v := hstage
      exact recorded_effect ht hs now stamp
    | offered u acceptance =>
      obtain rfl : u = v := hstage
      exact offered_effect hmode ht hs now stamp
    | forwarding u neighbors =>
      obtain rfl : u = v := hstage
      cases neighbors with
      | nil =>
        exact finish_effect ht (by simp [ahead, hs]) (by simp [Undecided, hs])
          (by simp only [Node.stepTask, hs]; rfl)
      | cons dest rest =>
        have hstep : n.stepTask now stamp t =
            (n.send dest (Payload.encode (Payload.Broadcast.broadcast u))).2.goTo t.id
              (.work (.forwarding u rest)) := by
          simp only [Node.stepTask, hs]
          rfl
        rw [hstep, Payload.encode, Node.send_working hmode]
        exact ⟨_, _, .goTo ⟨ht.role, ht.carried, rfl⟩ (.forward (by simp [Undecided, hs])
          (by simp [ahead, hs])) rfl⟩
    | ending result =>
      obtain rfl : result = .ok () := hstage
      exact finish_effect ht (by simp [ahead, hs]) (by simp [Undecided, hs])
        (by simp only [Node.stepTask, hs]; rfl)
    | answering payload => exact hstage.elim
  | conclude result =>
    rw [hs] at hstage
    obtain rfl : result = .ok () := hstage
    simp only [Node.stepTask, hs]
    refine ⟨none, [], ?_, by simp, rfl, by simp [Node.conclude, Node.remove], ?_⟩
    · intro before after ha
      have ha' : ({ n with metrics := n.metrics.countHandlerEnd } :
          Node broadcast).Around before t after :=
        ⟨ha.tasks, ha.before_ne, ha.after_ne⟩
      simpa [Node.conclude] using ha'.remove
    · exact .rest (by simp [ahead, hs]) (by simp [Undecided, hs])
  | _ => rw [hs] at hstage; exact hstage.elim

end Effect

/-- The receivers of the messages that ask to broadcast a value equal to this one. -/
def forwards (v : BroadcastValue) (ms : List Message) : List String :=
  (ms.filter fun m => m.carries v).map Message.dest

/-- The neighbors to which a task is still to send a value equal to this one. -/
def share (neighbors : List String) (v : BroadcastValue) (t : Task broadcast.Job) : List String :=
  if t.message.carries v then ahead neighbors t else []

/-- The neighbors to which a node is still to send a value equal to this one. -/
def toForward (v : BroadcastValue) (n : Node broadcast) : List String :=
  n.tasks.flatMap (share n.shared.neighbors v)

/-- A node that spreads values along its neighbors: whatever it does, it does for a request to
broadcast one, and what it has forwarded and is still to forward of a value that it holds goes to
each of its neighbors once. -/
structure Spreading (n : Node broadcast) (name : String) (neighbors : List String) : Prop where
  numbered : n.Numbered
  identity : ∃ peers, n.identity = some ⟨name, peers⟩
  working : n.mode = .working
  reading : n.verdict = none
  bears : ∀ t ∈ n.tasks, ∃ v, Bears t v
  consistent : n.shared.Consistent
  along : n.shared.neighbors = neighbors
  ledger : ∀ v, (forwards v n.written ++ toForward v n).Perm
    (if n.shared.contains v then neighbors else [])

section Spreading

variable {n : Node broadcast} {name : String} {neighbors : List String} {v : BroadcastValue}

@[simp] theorem forwards_nil (v : BroadcastValue) : forwards v [] = [] := rfl

@[simp] theorem forwards_append (v : BroadcastValue) (ms ms' : List Message) :
    forwards v (ms ++ ms') = forwards v ms ++ forwards v ms' := by
  simp [forwards]

private theorem forwards_singleton {m : Message} {u : BroadcastValue} (h : m.carried? = some u) :
    forwards v [m] = if u == v then [m.dest] else [] := by
  by_cases huv : (u == v) = true <;> simp [forwards, Message.carries_of_carried? h, huv]

private theorem forwards_of_carried?_eq_none {m : Message} (h : m.carried? = none) :
    forwards v [m] = [] := by
  simp [forwards, Message.carries, h]

theorem Undecided.ahead_eq {t : Task broadcast.Job} (h : Undecided t) : ahead neighbors t = [] := by
  simp only [Undecided] at h
  simp only [ahead]
  split at h <;> first | exact h.elim | simp [*]

private theorem Effect.share {n n' : Node broadcast} {t : Task broadcast.Job} {u : BroadcastValue}
    {o : Option (Task broadcast.Job)} {ms : List Message} (he : Effect n t u n' o ms)
    (neighbors : List String) : o.toList.flatMap (share neighbors v) =
      if t.message.carries v then o.toList.flatMap (ahead neighbors) else [] := by
  cases o with
  | none => simp
  | some x => simp [Broadcast.share, (he.bears x rfl).2]

theorem Effect.along {n n' : Node broadcast} {t : Task broadcast.Job} {u : BroadcastValue}
    {o : Option (Task broadcast.Job)} {ms : List Message} (he : Effect n t u n' o ms) :
    n'.shared.neighbors = n.shared.neighbors := by
  have hchange := he.change
  generalize n'.shared = g at hchange
  cases hchange with
  | accept _ _ => exact Gossip.neighbors_accept _ u
  | _ => rfl

theorem receiveBytes_request (hn : n.verdict = none) {line : List UInt8} {m : Message}
    {text : String} (hread : Reading.ofBytes line = .message m text) (hreply : m.inReplyTo? = none)
    (hcarried : m.carried? = some v) :
    n.receiveBytes line =
      ({ n with metrics := n.metrics.countReceived } : Node broadcast).spawn .handle m
      (.fresh (some (.received m))) := by
  obtain ⟨fields, hbody⟩ := Reading.body_of_ofBytes hread
  have hkind : m.kind = "broadcast" := Message.kind_of_carried? hcarried hbody
  have hhandler : broadcast.handlers.get? m.kind = some Job.received := by
    rw [hkind]
    rfl
  exact Node.receiveBytes_handler hn hread hreply (by rw [hkind]; decide) hhandler

theorem Spreading.receive (hs : Spreading n name neighbors) {line : List UInt8} {m : Message}
    {text : String} (hread : Reading.ofBytes line = .message m text) (hreply : m.inReplyTo? = none)
    (hcarried : m.carried? = some v) : Spreading (n.receiveBytes line) name neighbors := by
  rw [receiveBytes_request hs.reading hread hreply hcarried]
  refine ⟨(hs.numbered.congr).spawn _ _ _, hs.identity, hs.working, hs.reading, ?_, hs.consistent,
    hs.along, ?_⟩
  · intro t ht
    rcases Node.mem_spawn.mp ht with ht | rfl
    · exact hs.bears t ht
    · exact ⟨v, rfl, hcarried, rfl⟩
  · intro u
    have hshare : toForward u
      (({ n with metrics := n.metrics.countReceived } : Node broadcast).spawn
        .handle m (.fresh (some (.received m)))) = toForward u n := by
      simp [toForward, Node.spawn, share, ahead]
    rw [hshare]
    exact hs.ledger u

private theorem Effect.ledger {t : Task broadcast.Job} {u : BroadcastValue} {n' : Node broadcast}
    {o : Option (Task broadcast.Job)} {ms : List Message} (he : Effect n t u n' o ms)
    (hs : Spreading n name neighbors) (ht : t ∈ n.tasks) (hu : t.message.carried? = some u)
    (v : BroadcastValue) : (forwards v n'.written ++ toForward v n').Perm
      (if n'.shared.contains v then neighbors else []) := by
  obtain ⟨before, after, ha⟩ := hs.numbered.around ht
  have hold := hs.ledger v
  have hchange := he.change
  have hshare := he.share (v := v) n.shared.neighbors
  rw [toForward, ha.tasks, List.flatMap_append, List.flatMap_cons, Broadcast.share,
    Message.carries_of_carried? hu] at hold
  rw [Message.carries_of_carried? hu] at hshare
  rw [toForward, he.along, he.tasks before after ha, he.written, List.flatMap_append,
    List.flatMap_append, forwards_append, hshare]
  generalize n'.shared = g at hchange ⊢
  cases hchange with
  | rest hahead _ =>
    rw [hahead]
    simpa using hold
  | accept hundecided hahead =>
    rw [hundecided.ahead_eq] at hold
    have hold : (forwards v n.written ++ (before.flatMap (Broadcast.share n.shared.neighbors v) ++
        after.flatMap (Broadcast.share n.shared.neighbors v))).Perm
          (if n.shared.contains v then neighbors else []) := by
      simpa using hold
    rw [Gossip.contains_accept hs.consistent]
    by_cases hheld : n.shared.Holds u
    · have hsame : (n.shared.contains v || u == v) = n.shared.contains v := by
        rw [Bool.eq_iff_iff, Bool.or_eq_true, hs.consistent v]
        exact ⟨fun h => h.elim id hheld.congr, .inl⟩
      rw [hahead, hsame, if_pos ((hs.consistent u).mpr hheld)]
      simpa using hold
    · rw [hahead, if_neg fun h => hheld ((hs.consistent u).mp h), hs.along]
      rw [hs.along] at hold
      by_cases huv : (u == v) = true
      · have hnew : n.shared.contains v = false := by
          refine Bool.eq_false_iff.mpr fun hv => hheld ?_
          exact ((hs.consistent v).mp hv).congr (BEq.symm huv)
        rw [hnew, if_neg Bool.false_ne_true] at hold
        have hnil := hold.eq_nil
        simp only [List.append_eq_nil_iff] at hnil
        simp [huv, hnil]
      · simpa [huv] using hold
  | answer hahead _ _ _ hcarried =>
    rw [hahead, forwards_of_carried?_eq_none hcarried]
    simpa using hold
  | @forward _ dest _ hahead =>
    rw [forwards_singleton (carried?_forward n.name dest u)]
    rw [hahead] at hold
    refine List.Perm.trans ?_ hold
    by_cases huv : (u == v) = true
    · simpa [huv] using List.Perm.append_left (forwards v n.written) List.perm_middle.symm
    · simp [huv]

theorem Effect.spreading {t : Task broadcast.Job} {u : BroadcastValue} {now : Nat} {stamp : Stamp}
    {o : Option (Task broadcast.Job)} {ms : List Message}
    (he : Effect n t u (n.stepTask now stamp t) o ms) (hs : Spreading n name neighbors)
    (ht : t ∈ n.tasks) (hu : t.message.carried? = some u) :
    Spreading (n.stepTask now stamp t) name neighbors := by
  obtain ⟨before, after, ha⟩ := hs.numbered.around ht
  have hcourse := Node.SameCourse.stepTask n now stamp t
  have hshared : (n.stepTask now stamp t).shared = n.shared ∨
      (n.stepTask now stamp t).shared = (n.shared.accept u).2 := by
    have hchange := he.change
    generalize (n.stepTask now stamp t).shared = g at hchange
    cases hchange with
    | accept _ _ => exact .inr rfl
    | _ => exact .inl rfl
  refine ⟨hs.numbered.stepTask now stamp ht, he.identity ▸ hs.identity,
    hcourse.mode.trans hs.working,
    hcourse.verdict.trans hs.reading, ?_, ?_, ?_, he.ledger hs ht hu⟩
  · intro x hx
    rw [he.tasks before after ha] at hx
    simp only [List.mem_append, Option.mem_toList] at hx
    rcases hx with (hx | hx) | hx
    · exact hs.bears x (by rw [ha.tasks]; simp [hx])
    · exact ⟨u, (he.bears x hx).1⟩
    · exact hs.bears x (by rw [ha.tasks]; simp [hx])
  · rcases hshared with h | h <;> rw [h]
    · exact hs.consistent
    · exact hs.consistent.accept u
  · rcases hshared with h | h <;> rw [h]
    · exact hs.along
    · exact (Gossip.neighbors_accept _ u).trans hs.along

end Spreading

end Workload.Broadcast

end ClusterNode
