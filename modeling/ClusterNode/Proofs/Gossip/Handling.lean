import ClusterNode.Proofs.Gossip.Spreading

/-!
How a node handles one request of the broadcast workload by itself: what it writes in all, what
becomes of the accepted values and of the neighbors, and how many steps that takes.
-/

set_option autoImplicit false

namespace ClusterNode.Workload.Broadcast

/-- The answer of a node to a request, if it wants one. -/
def answered {α : Type} [Payload α] (name : String) (m : Message) (a : α) : List Message :=
  match m.msgId? with
  | some id => [Payload.Plain.message a name m.src none (some id)]
  | none => []

/-- The forwards of a value that was offered. -/
def sent (name : String) (v : BroadcastValue) : Gossip.Acceptance → List Message
  | .fresh neighbors => neighbors.map fun d => forward name d v
  | .duplicate => []

/-- What a node writes for a request, and what it has accepted then. -/
def handled (name : String) (g : Values) (m : Message) : List Message × Values :=
  match (m.payload : Except RpcError Payload.Broadcast) with
  | .error e => (answered name m e, g)
  | .ok (.broadcast v) =>
    (answered name m Payload.Broadcast.broadcastOk ++ sent name v (g.accept v).1, (g.accept v).2)
  | .ok .read => (answered name m (Payload.Broadcast.readOk g.snapshot), g)
  | .ok (.topology table) =>
    match neighborsFor table name with
    | none =>
      (answered name m (⟨.malformedRequest, "topology has no entry for " ++ name⟩ : RpcError), g)
    | some neighbors => (answered name m Payload.Broadcast.topologyOk, g.setNeighbors neighbors)
  | .ok _ => (answered name m (⟨.notSupported, m.kind ++ " is not a request"⟩ : RpcError), g)

/-- The number of steps after which a value that was offered has been forwarded. -/
def reach : Gossip.Acceptance → Nat
  | .fresh neighbors => neighbors.length
  | .duplicate => 0

/-- What a task at a stage is still to write for its request, what the node has accepted when it
has, and a bound for the steps that this takes. -/
inductive Owes (name : String) (m : Message) (g : Values) :
    Stage Job → List Message → Values → Nat → Prop
  | fresh : Owes name m g (.fresh (some (.received m))) (handled name g m).1 (handled name g m).2
      (g.neighbors.length + 7)
  | received : Owes name m g (.work (.received m)) (handled name g m).1 (handled name g m).2
      (g.neighbors.length + 6)
  | recorded (v : BroadcastValue) (fresh : Bool) : Owes name m g (.work (.recorded v fresh))
      (answered name m Payload.Broadcast.broadcastOk ++
        sent name v (if fresh then .fresh g.neighbors else .duplicate)) g (g.neighbors.length + 5)
  | offered (v : BroadcastValue) (acceptance : Gossip.Acceptance) :
      Owes name m g (.work (.offered v acceptance))
        (answered name m Payload.Broadcast.broadcastOk ++ sent name v acceptance) g
          (reach acceptance + 4)
  | forwarding (v : BroadcastValue) (neighbors : List String) :
      Owes name m g (.work (.forwarding v neighbors)) (sent name v (.fresh neighbors)) g
        (neighbors.length + 3)
  | answering (p : Payload.Broadcast) : Owes name m g (.work (.answering p)) (answered name m p) g 4
  | ending : Owes name m g (.work (.ending (.ok ()))) [] g 3
  | concluding : Owes name m g (.conclude (.ok ())) [] g 1
  | failing (e : NodeError) :
    Owes name m g (.conclude (.error e)) (answered name m e.toRpcError) g 2
  | refusing (e : RpcError) : Owes name m g (.refuse e) (answered name m e) g 1

private theorem Owes.pos {name : String} {m : Message} {g final : Values} {stage : Stage Job}
    {out : List Message}
    {steps : Nat} (h : Owes name m g stage out final steps) : 0 < steps := by
  cases h <;> omega

/-- What comes of a step of a task: it goes on with less to do, or it has done all of it. -/
inductive Outcome (name : String) (m : Message) (out : List Message) (final : Values)
    (steps : Nat) :
    Option (Task broadcast.Job) → List Message → Values → Prop
  | goesOn {t : Task broadcast.Job} {ms left : List Message} {g : Values} {fewer : Nat}
      (role : t.role = .handle) (message : t.message = m)
        (due : Owes name m g t.stage left final fewer)
      (written : out = ms ++ left) (less : fewer < steps) :
      Outcome name m out final steps (some t) ms g
  | done {ms : List Message} (written : out = ms) : Outcome name m out final steps none ms final

/-- A node that has a name, writes what it is told to, and goes on reading. -/
structure Placed (n : Node broadcast) (name : String) : Prop where
  identity : ∃ peers, n.identity = some ⟨name, peers⟩
  working : n.mode = .working
  reading : n.verdict = none

structure Handles (n : Node broadcast) (name : String) (m : Message) (out : List Message)
    (final : Values)
    (steps : Nat) (n' : Node broadcast) : Prop where
  placed : Placed n' name
  turns : ∃ o ms, n'.tasks = o.toList ∧ n'.written = n.written ++ ms ∧
    Outcome name m out final steps o ms n'.shared

section Step

variable {n n₁ : Node broadcast} {name : String} {t : Task broadcast.Job} {out : List Message}
  {final : Values} {steps : Nat}

private theorem Placed.name_eq (hn : Placed n name) : n.name = name := by
  obtain ⟨peers, h⟩ := hn.identity
  simp [Node.name, h]

private theorem Placed.identify (hn : Placed n name) :
    ∃ peers, n.view.identify = .ok ⟨name, peers⟩ := by
  obtain ⟨peers, h⟩ := hn.identity
  exact ⟨peers, by simp only [Node.view, View.identify, h]⟩

private theorem Handles.goTo (hn : Placed n name) (ht : n.tasks = [t]) (role : t.role = .handle)
    {stage : Stage broadcast.Job} {ms left : List Message} {fewer : Nat}
    (due : Owes name t.message n₁.shared stage left final fewer) (out_eq : out = ms ++ left)
    (less : fewer < steps) (written : n₁.written = n.written ++ ms := by simp)
    (tasks : n₁.tasks = n.tasks := by rfl) (identity : n₁.identity = n.identity := by rfl)
    (mode : n₁.mode = n.mode := by rfl) (verdict : n₁.verdict = n.verdict := by rfl) :
    Handles n name t.message out final steps (n₁.goTo t.id stage) where
  placed := ⟨by
    obtain ⟨peers, h⟩ := hn.identity
    exact ⟨peers, identity.trans h⟩, mode.trans hn.working, verdict.trans hn.reading⟩
  turns := ⟨some { t with stage }, ms, by simp [Node.goTo, Node.update, tasks, ht], written,
    .goesOn role rfl due out_eq less⟩

private theorem Handles.remove (hn : Placed n name) (ht : n.tasks = [t]) {m : Message}
    (shared : n₁.shared = final)
    (written : n₁.written = n.written ++ out) (tasks : n₁.tasks = n.tasks := by rfl)
    (identity : n₁.identity = n.identity := by rfl) (mode : n₁.mode = n.mode := by rfl)
    (verdict : n₁.verdict = n.verdict := by rfl) :
    Handles n name m out final steps (n₁.remove t.id) where
  placed := ⟨by
    obtain ⟨peers, h⟩ := hn.identity
    exact ⟨peers, identity.trans h⟩, mode.trans hn.working, verdict.trans hn.reading⟩
  turns := ⟨none, out, by simp [Node.remove, tasks, ht], written, by
    show Outcome name m out final steps none out n₁.shared
    rw [shared]
    exact .done rfl⟩

private theorem Handles.reply (hn : Placed n name) (ht : n.tasks = [t]) (role : t.role = .handle)
    {α : Type}
    [Payload α] (a : α) (next : Except NodeError Unit → Stage broadcast.Job) {left : List Message}
    {fewer : Nat} (due : Owes name t.message n.shared (next (.ok ())) left final fewer)
    (out_eq : out = answered name t.message a ++ left) (less : fewer < steps) :
    Handles n name t.message out final steps ((n.reply t.message (Payload.encode a)).2.goTo t.id
      (next (n.reply t.message (Payload.encode a)).1)) := by
  cases hid : t.message.msgId? with
  | none =>
    rw [Node.reply_unnumbered hid]
    have hout : out = [] ++ left := by simpa [answered, hid] using out_eq
    exact .goTo hn ht role due hout less
  | some id =>
    rw [Payload.encode, Node.reply_working hn.working hid, hn.name_eq]
    refine .goTo hn ht role due out_eq less ?_
    simp only [answered, hid]
    rfl

private theorem stepTask_work (job : Job) (hs : t.stage = .work job) (now : Nat) (stamp : Stamp) :
    n.stepTask now stamp t = ({ n with shared := (Broadcast.step n.view n.shared job).2 } : Node
      broadcast).act now stamp t (Broadcast.step n.view n.shared job).1 := by
  simp only [Node.stepTask, hs]
  rfl

private theorem Handles.fail (hn : Placed n name) (ht : n.tasks = [t]) (role : t.role = .handle)
    {e : RpcError}
    (less : 2 < steps) (now : Nat) (stamp : Stamp) :
    Handles n name t.message (answered name t.message e)
      n.shared steps (n.act now stamp t (.fail e)) := by
  have hact : n.act now stamp t (.fail e) = n.goTo t.id (.conclude (.error (.rpc e))) := by
    simp only [Action.fail, Node.act, role]
  rw [hact]
  exact .goTo hn ht role (.failing (.rpc e)) (List.nil_append _).symm less

private theorem handles_received (hn : Placed n name) (ht : n.tasks = [t]) (role : t.role = .handle)
    (hs : t.stage = .work (.received t.message)) (now : Nat) (stamp : Stamp) :
    Handles n name t.message (handled name n.shared t.message).1 (handled name n.shared t.message).2
      (n.shared.neighbors.length + 6) (n.stepTask now stamp t) := by
  rw [stepTask_work _ hs]
  simp only [Broadcast.step, begin, handled]
  cases (t.message.payload : Except RpcError Payload.Broadcast) with
  | error e => exact .fail hn ht role (by omega) now stamp
  | ok p =>
    cases p with
    | broadcast v =>
      have hrecord : Gossip.record n.shared v =
          (!Gossip.contains n.shared v, (Gossip.accept n.shared v).2) :=
        Gossip.record_eq _ _
      dsimp only
      cases hv : Gossip.contains n.shared v with
      | true =>
        have haccept : Gossip.accept n.shared v = (.duplicate, n.shared) :=
          Gossip.accept_of_contains hv
        rw [hrecord, hv, haccept]
        exact .goTo hn ht role (.recorded v false) (List.nil_append _).symm (Nat.lt_succ_self _)
      | false =>
        have haccept := Gossip.accept_of_not_contains (Bool.eq_false_iff.mp hv)
        rw [hrecord, hv, haccept]
        exact .goTo hn ht role (.recorded v true) (List.nil_append _).symm (Nat.lt_succ_self _)
    | read => exact .goTo hn ht role (.answering _) (List.nil_append _).symm (by omega)
    | topology table =>
      obtain ⟨peers, hidentify⟩ := hn.identify
      simp only [hidentify]
      cases neighborsFor table name with
      | none => exact .fail hn ht role (by omega) now stamp
      | some neighbors => exact .goTo hn ht role (.answering _) (List.nil_append _).symm (by omega)
    | broadcastOk => exact .fail hn ht role (by omega) now stamp
    | readOk values => exact .fail hn ht role (by omega) now stamp
    | topologyOk => exact .fail hn ht role (by omega) now stamp

private theorem handles_finish (hn : Placed n name) (ht : n.tasks = [t]) (role : t.role = .handle)
    (less : 1 < steps) (now : Nat) (stamp : Stamp) :
    Handles n name t.message [] n.shared steps (n.act now stamp t (.finish (.ok ()))) := by
  have hact : n.act now stamp t (.finish (.ok ())) = n.goTo t.id (.conclude (.ok ())) := by
    simp only [Node.act, role]
  rw [hact]
  exact .goTo hn ht role .concluding (List.nil_append _).symm less

private theorem stepTask_handles (hn : Placed n name) (ht : n.tasks = [t]) (role : t.role = .handle)
    (due : Owes name t.message n.shared t.stage out final steps) (now : Nat) (stamp : Stamp) :
    Handles n name t.message out final steps (n.stepTask now stamp t) := by
  generalize hs : t.stage = stage at due
  cases due with
  | fresh =>
    simp only [Node.stepTask, hs]
    exact .goTo hn ht role .received (List.nil_append _).symm (Nat.lt_succ_self _)
  | received => exact handles_received hn ht role hs now stamp
  | recorded v fresh =>
    rw [stepTask_work _ hs]
    refine .goTo hn ht role (.offered v _) (List.nil_append _).symm
      (Nat.add_lt_add_of_le_of_lt ?_ (by decide))
    cases fresh
    · exact Nat.zero_le _
    · exact Nat.le_refl _
  | offered v acceptance =>
    rw [stepTask_work _ hs]
    cases acceptance with
    | fresh neighbors =>
      exact .reply hn ht role Payload.Broadcast.broadcastOk
        (fun r => .work (afterConfirmation v (.fresh neighbors) r)) (.forwarding v neighbors) rfl
        (Nat.lt_succ_self _)
    | duplicate =>
      exact .reply hn ht role Payload.Broadcast.broadcastOk
        (fun r => .work (afterConfirmation v .duplicate r)) .ending rfl (Nat.lt_succ_self _)
  | forwarding v neighbors =>
    rw [stepTask_work _ hs]
    cases neighbors with
    | nil => exact handles_finish hn ht role (by omega) now stamp
    | cons d rest =>
      have hsend : n.act now stamp t
        (.send d (Payload.encode (Payload.Broadcast.broadcast v)) fun _ =>
          .forwarding v rest) =
            (n.send d (Payload.encode (Payload.Broadcast.broadcast v))).2.goTo t.id
            (.work (.forwarding v rest)) := rfl
      show Handles n name t.message _ n.shared _
        (n.act now stamp t (.send d _ fun _ => .forwarding v rest))
      have hsent : sent name v (.fresh (d :: rest)) =
        [forward name d v] ++ sent name v (.fresh rest) := rfl
      rw [hsend, Payload.encode, Node.send_working hn.working, hn.name_eq]
      exact .goTo hn ht role (.forwarding v rest) hsent (Nat.lt_succ_self _) rfl
  | answering p =>
    rw [stepTask_work _ hs]
    exact .reply hn ht role p (fun r => .work (.ending r)) .ending (List.append_nil _).symm
      (Nat.lt_succ_self _)
  | ending =>
    rw [stepTask_work _ hs]
    exact handles_finish hn ht role (by omega) now stamp
  | concluding =>
    simp only [Node.stepTask, hs, Node.conclude]
    exact .remove hn ht rfl (by simp)
  | failing e =>
    have hrefuse : ∃ metrics, n.stepTask now stamp t =
        ({ n with metrics } : Node broadcast).goTo t.id (.refuse e.toRpcError) := by
      simp only [Node.stepTask, hs, Node.conclude, NodeError.toRpcError]
      cases e.rpcError? <;> exact ⟨_, rfl⟩
    obtain ⟨metrics, hrefuse⟩ := hrefuse
    rw [hrefuse]
    exact .goTo hn ht role (.refusing _) (List.nil_append _).symm (Nat.lt_succ_self _)
  | refusing e =>
    simp only [Node.stepTask, hs]
    cases hid : t.message.msgId? with
    | none =>
      rw [Node.reply_unnumbered hid]
      exact .remove hn ht rfl (by simp [answered, hid])
    | some id =>
      rw [Payload.encode, Node.reply_working hn.working hid, hn.name_eq]
      refine .remove hn ht rfl ?_
      simp only [answered, hid]
      rfl

end Step

/-- A node that handles a request and nothing else: what it has written for it and what it is still
to write make up the whole. -/
structure Turn (name : String) (m : Message) (start out : List Message) (final : Values)
    (n : Node broadcast) (steps : Nat) : Prop where
  placed : Placed n name
  state : (n.tasks = [] ∧ n.written = start ++ out ∧ n.shared = final) ∨
    ∃ t written left fewer, n.tasks = [t] ∧ t.role = .handle ∧ t.message = m ∧
      Owes name m n.shared t.stage left final fewer ∧ fewer ≤ steps ∧ n.written = start ++ written ∧
      out = written ++ left

section Turn

variable {n : Node broadcast} {name : String} {m : Message} {start out : List Message}
  {final : Values}
  {steps : Nat}

private theorem Turn.moves (h : Turn name m start out final n (steps + 1)) {t : Task broadcast.Job}
    (ht : n.tasks = [t]) (now : Nat) (stamp : Stamp) :
    Turn name m start out final (n.stepTask now stamp t) steps := by
  obtain ⟨hplaced, hstate⟩ := h
  rcases hstate with ⟨hnone, -⟩ | ⟨t', written, left, fewer, ht', role, rfl, due, hle, hwritten,
    rfl⟩
  · rw [hnone] at ht
    cases ht
  · obtain rfl : t' = t := List.singleton_inj.mp (ht'.symm.trans ht)
    obtain ⟨hplaced', o, ms, htasks, hmore, houtcome⟩ :=
      stepTask_handles hplaced ht' role due now stamp
    refine ⟨hplaced', ?_⟩
    rw [hmore, hwritten, htasks]
    generalize (n.stepTask now stamp t').shared = g at houtcome
    cases houtcome with
    | @goesOn x _ left' _ fewer' role' message' due' hleft less =>
      exact .inr ⟨x, written ++ ms, left', fewer', rfl, role', message', due', by omega, by simp,
        by rw [hleft, List.append_assoc]⟩
    | done hleft => exact .inl ⟨rfl, by rw [hleft, List.append_assoc], rfl⟩

private theorem Turn.mono (h : Turn name m start out final n steps) {more : Nat}
    (le : steps ≤ more) :
    Turn name m start out final n more := by
  obtain ⟨hplaced, hstate⟩ := h
  refine ⟨hplaced, hstate.imp id ?_⟩
  rintro ⟨t, written, left, fewer, ht, role, message, due, hle, h⟩
  exact ⟨t, written, left, fewer, ht, role, message, due, hle.trans le, h⟩

theorem Turn.step (h : Turn name m start out final n steps) (now : Nat) (stamp : Stamp) (id : Nat) :
    Turn name m start out final (n.step now stamp id) steps := by
  rw [Node.step]
  cases htask : n.task? id with
  | none => exact h
  | some t =>
    have ht := (Node.mem_of_task? htask).1
    obtain ⟨hplaced, hstate⟩ := h
    rcases hstate with ⟨hnone, -⟩ | ⟨t', written, left, fewer, ht', role, message, due, hle, h⟩
    · rw [hnone] at ht
      cases ht
    · obtain rfl : t = t' := List.mem_singleton.mp (ht' ▸ ht)
      obtain ⟨k, rfl⟩ := Nat.exists_eq_succ_of_ne_zero due.pos.ne'
      have hturn : Turn name m start out final n (k + 1) :=
        ⟨hplaced, .inr ⟨t, written, left, _, ht', role, message, due, Nat.le_refl _, h⟩⟩
      exact (hturn.moves ht' now stamp).mono (Nat.le_of_succ_le hle)

theorem Turn.ends (h : Turn name m start out final n steps) {id : Nat}
    (only : ∀ t ∈ n.tasks, t.id = id) (now : Nat) (stamp : Stamp) :
    (n.run (List.replicate steps (.step now stamp id))).tasks = [] := by
  induction steps generalizing n with
  | zero =>
    rcases h.state with ⟨hnone, -⟩ | ⟨t, written, left, fewer, -, -, -, due, hle, -⟩
    · exact hnone
    · exact absurd due.pos (Nat.not_lt.mpr hle)
  | succ steps ih =>
    rw [List.replicate_succ, Node.run_cons, Node.apply, Node.step]
    rcases h.state with ⟨hnone, hwritten, hshared⟩ | ⟨t, written, left, fewer, ht, -⟩
    · have htask : n.task? id = none := by simp [Node.task?, hnone]
      rw [htask]
      exact ih ⟨h.placed, .inl ⟨hnone, hwritten, hshared⟩⟩ only
    · obtain rfl : t.id = id := only t (by rw [ht]; exact List.mem_singleton_self t)
      have htask : n.task? t.id = some t := by simp [Node.task?, ht]
      have hround : n.Around [] t [] := ⟨ht, by simp, by simp⟩
      obtain ⟨o, ho, htasks⟩ := hround.stepTask now stamp
      rw [htask]
      refine ih (h.moves ht now stamp) fun x hx => ?_
      rw [htasks] at hx
      exact (ho x (by simpa using hx)).1

theorem receiveBytes_of_kind (hn : n.verdict = none) {line : List UInt8} {text : String}
    (hread : Reading.ofBytes line = .message m text) (hreply : m.inReplyTo? = none)
    (hkind : m.kind ∈ kinds) :
    n.receiveBytes line =
      ({ n with metrics := n.metrics.countReceived } : Node broadcast).spawn .handle m
      (.fresh (some (.received m))) := by
  have hhandler : broadcast.handlers.get? m.kind = some Job.received ∧ m.kind ≠ "init" := by
    revert hkind
    generalize m.kind = kind
    intro hkind
    simp only [kinds, List.mem_cons, List.not_mem_nil, or_false] at hkind
    rcases hkind with rfl | rfl | rfl <;> exact ⟨rfl, by decide⟩
  exact Node.receiveBytes_handler hn hread hreply hhandler.2 hhandler.1

/-- A node with nothing to do begins to handle a request that it receives. -/
theorem turn_of_receive (hn : Placed n name) (rest : n.tasks = []) {line : List UInt8}
    {text : String} (hread : Reading.ofBytes line = .message m text) (hreply : m.inReplyTo? = none)
    (hkind : m.kind ∈ kinds) : Turn name m n.written (handled name n.shared m).1
      (handled name n.shared m).2 (n.receiveBytes line) (n.shared.neighbors.length + 7) ∧
        ∀ t ∈ (n.receiveBytes line).tasks, t.id = n.nextTask := by
  rw [receiveBytes_of_kind hn.reading hread hreply hkind]
  refine ⟨⟨⟨hn.identity, hn.working, hn.reading⟩, .inr ⟨⟨n.nextTask, .handle, m,
    .fresh (some (.received m)), .empty⟩, [], _, _, ?_, rfl, rfl, .fresh, Nat.le_refl _,
    (List.append_nil _).symm, rfl⟩⟩, ?_⟩ <;> simp [Node.spawn, rest]

end Turn

end ClusterNode.Workload.Broadcast
