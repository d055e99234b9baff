import ClusterNode.Proofs.Node.Correlated
import ClusterNode.Workload.Counter

/-!
Requests and replies over whole runs: the numbers of a node's requests are distinct, a call that
ends with a reply ends with the first line that answered its own number after the number was taken,
and a reply that nobody waits for any more does nothing.
-/

set_option autoImplicit false

namespace ClusterNode.Node

variable {w : Workload}

section Events

variable {n n' : Node w} {h : History}

namespace Correlated

private theorem congr (hc : n.Correlated h) (htasks : n'.tasks = n.tasks := by rfl)
    (hnext : n'.nextTask = n.nextTask := by rfl) (hpending : n'.pending = n.pending := by rfl) :
    n'.Correlated h := by
  refine ⟨hc.numbered.congr htasks hnext, hc.sound, ?_, ?_⟩
  · rw [hpending]
    exact hc.pending
  · rw [htasks]
    exact hc.standing

private theorem spawn (hc : n.Correlated h) {role : Role} {m : Message} {stage : Stage w.Job}
    (hstand : Task.Standing ⟨n.nextTask, role, m, stage, .empty⟩ h) :
    (n.spawn role m stage).Correlated h := by
  refine ⟨hc.numbered.spawn role m stage, hc.sound, hc.pending, fun t ht => ?_⟩
  rcases mem_spawn.mp ht with ht | rfl
  · exact hc.standing t ht
  · exact hstand

private theorem stop (hc : n.Correlated h) (e : NodeError) : (n.stop e).Correlated h := by
  have hpending : (n.stop e).pending = n.pending := by
    obtain ⟨g, -, heq⟩ := stop_eq n e
    rw [heq]
  refine ⟨hc.numbered.stop e, hc.sound, hpending ▸ hc.pending, fun t ht => ?_⟩
  obtain ⟨y, hy, -, rfl | rfl⟩ := mem_stop ht
  · exact hc.standing _ hy
  · exact (hc.standing _ hy).lost

private theorem receiveReply (hc : n.Correlated h) {id : UInt64} {m : Message}
    (hm : m.inReplyTo? = some id) : (n.receiveReply id m).Correlated (h ++ [.replied id m]) := by
  have hsound : (h ++ [Occurrence.replied id m]).Sound := hc.sound.snoc hm
  have hpending : (n.pending.erase id).Agrees (h ++ [.replied id m]) := by
    refine hc.pending.shrink rfl (fun entry he => (Pending.mem_erase.mp he).1)
      (by simp [Occurrence.takenId?]) fun entry he o ho => ?_
    rw [List.mem_singleton.mp ho]
    simp [Occurrence.replyTo?, (Pending.mem_erase.mp he).2.symm]
  have hstanding : ∀ t ∈ n.tasks, t.Standing (h ++ [.replied id m]) := fun t ht =>
    (hc.standing t ht).append hsound (by simp [Occurrence.task?])
  have hbase : ∀ metrics, ({ n with pending := n.pending.erase id, metrics } : Node w).Correlated
      (h ++ [.replied id m]) := fun metrics =>
    ⟨hc.numbered.congr, hsound, hpending, hstanding⟩
  cases hget : n.pending.get? id with
  | none => exact receiveReply_of_none hget ▸ hbase _
  | some callback =>
    rw [receiveReply_of_some hget]
    cases callback with
    | deliver task =>
      obtain ⟨htaken, hfirst⟩ := hc.pending.unanswered _ (Pending.mem_of_get? hget)
      refine (hbase _).spawn ?_
      simp only [Task.Standing]
      rw [History.firstReply?_append_of_none htaken hfirst]
      simp [Occurrence.replyTo?]
    | start onReply => exact (hbase _).spawn (Task.standing_of_idle trivial)

private theorem receiveRequest (hc : n.Correlated h) (m : Message) (line : String) :
    (n.receiveRequest m line).Correlated h := by
  simp only [Node.receiveRequest]
  split
  · exact hc.spawn (Task.standing_of_idle trivial)
  · split
    · exact hc.spawn (Task.standing_of_idle trivial)
    · exact hc.stop _

theorem line (hc : n.Correlated h) (bytes : List UInt8) :
    (n.receiveBytes bytes).Correlated (h ++ n.lineOccurrences bytes) := by
  rw [receiveBytes_eq_take, lineOccurrences]
  split
  · simpa using hc
  · cases Reading.ofBytes bytes with
    | blank => simpa [Node.take] using hc
    | refused e => simpa [Node.take] using hc.stop e
    | message m line =>
      have hc' : ({ n with metrics := n.metrics.countReceived } : Node w).Correlated h := hc.congr
      cases hm : m.inReplyTo? with
      | none => simpa [Node.take, hm] using hc'.receiveRequest m line
      | some id => simpa [Node.take, hm] using hc'.receiveReply hm

private theorem apply (hc : n.Correlated h) (e : Event w)
    (few : (h ++ n.occurrences e).takenIds.length < UInt64.size) :
    (n.apply e).Correlated (h ++ n.occurrences e) := by
  cases e with
  | line bytes => exact hc.line bytes
  | step now stamp id =>
    simp only [occurrences, Node.apply, step] at few ⊢
    cases ht : n.task? id with
    | none => simpa using hc
    | some t =>
      rw [ht] at few
      exact hc.stepTask (mem_of_task? ht).1 now stamp few
  | settle =>
    simp only [occurrences, Node.apply, settle, List.append_nil]
    split <;> exact hc.congr
  | cancel => simpa [occurrences, Node.apply] using hc.congr
  | setMode mode => simpa [occurrences, Node.apply] using hc.congr
  | client job =>
    simp only [occurrences, Node.apply, List.append_nil]
    exact hc.spawn (Task.standing_of_idle trivial)

private theorem run (hc : n.Correlated h) (events : List (Event w))
    (few : (h ++ n.history events).takenIds.length < UInt64.size) :
    (n.run events).Correlated (h ++ n.history events) := by
  induction events generalizing n h with
  | nil => simpa [history] using hc
  | cons e events ih =>
    simp only [history, ← List.append_assoc] at few ⊢
    refine ih (hc.apply e ?_) few
    refine Nat.lt_of_le_of_lt ?_ few
    simp only [History.takenIds, List.filterMap_append, List.length_append]
    omega

end Correlated

end Events

section Late

variable {n : Node w} {h : History} {id : UInt64}

private theorem Correlated.stepTask_hand (hc : n.Correlated h) {t : Task w.Job} {task : Nat}
    (hs : t.stage = .hand task id) (hended : id ∈ h.endedIds) (now : Nat) (stamp : Stamp) :
    n.stepTask now stamp t = n.remove t.id := by
  have hidle : ∀ x ∈ n.tasks, x.callId? ≠ some id := by
    intro x hx hcall
    have hstand := hc.standing x hx
    cases hxs : x.stage with
    | dial dest i body limit next =>
      obtain rfl : i = id := by simpa [Task.callId?, hxs] using hcall
      simp only [Task.Standing, hxs] at hstand
      exact hstand.2.2.1 hended
    | flush wait | wait wait =>
      obtain rfl : wait.id = id := by simpa [Task.callId?, hxs] using hcall
      simp only [Task.Standing, hxs] at hstand
      exact hstand.2.2.1 hended
    | _ => simp [Task.callId?, hxs] at hcall
  have hpost : n.post task id (.full t.message) = n := by
    have hmap : n.tasks.map (fun x => if x.id = task then
        (if x.callId? = some id then { x with mailbox := .full t.message } else x) else x) =
          n.tasks := by
      conv_rhs => rw [← List.map_id n.tasks]
      exact List.map_congr_left fun x hx => by simp [hidle x hx]
    simp only [Node.post, Node.update]
    rw [hmap]
  simp only [Node.stepTask, hs, hpost]

private theorem hand_apply (hn : n.Numbered) {i task : Nat} (hi : i < n.nextTask)
    (hhand : ∀ x ∈ n.tasks, x.id = i → x.stage = .hand task id) (e : Event w) :
    ∀ x ∈ (n.apply e).tasks, x.id = i → x.stage = .hand task id := by
  intro x hx hid
  rcases mem_apply_cases hn hx
    (hid ▸ hi) with ⟨y, hy, hyid, -, hstage⟩ | ⟨now, stamp, t, ht, htid, hx⟩
  · rw [← hstage]
    exact hhand y hy (hyid.trans hid)
  · simp only [stepTask, hhand t ht (htid.trans hid)] at hx
    exact absurd htid.symm (mem_remove.mp hx).2

private theorem Correlated.step_run_hand (hc : n.Correlated h) {i task : Nat} (hi : i < n.nextTask)
    (hhand : ∀ x ∈ n.tasks, x.id = i → x.stage = .hand task id) (hended : id ∈ h.endedIds)
    (events : List (Event w)) (few : (h ++ n.history events).takenIds.length < UInt64.size)
    (now : Nat) (stamp : Stamp) :
    (n.run events).step now stamp i = (n.run events).remove i := by
  have hstays : ∀ (events : List (Event w)) {n : Node w}, n.Numbered → i < n.nextTask →
      (∀ x ∈ n.tasks, x.id = i → x.stage = .hand task id) →
      ∀ x ∈ (n.run events).tasks, x.id = i → x.stage = .hand task id := by
    intro events
    induction events with
    | nil => exact fun _ _ hhand => hhand
    | cons e events ih =>
      intro n hn hi hhand
      exact ih (hn.apply e) (Nat.lt_of_lt_of_le hi (nextTask_le_apply n e))
        (hand_apply hn hi hhand e)
  have hcr := hc.run events few
  simp only [step]
  cases ht : (n.run events).task? i with
  | none =>
    have hnone := task?_eq_none_iff.mp ht
    have hfilter : (n.run events).tasks.filter (fun x => x.id ≠ i) = (n.run events).tasks := by
      simpa [List.filter_eq_self] using hnone
    simp only [remove, hfilter]
  | some t =>
    obtain ⟨hmem, rfl⟩ := mem_of_task? ht
    refine hcr.stepTask_hand (hstays events hc.numbered hi hhand t hmem rfl) ?_ now stamp
    simp only [History.endedIds, List.filterMap_append]
    exact List.mem_append_left _ hended

private theorem Correlated.receiveBytes_late (hc : n.Correlated h) {bytes : List UInt8}
    {m : Message}
    {line : String} (hopen : n.verdict = none) (hread : Reading.ofBytes bytes = .message m line)
    (hm : m.inReplyTo? = some id) (late : n.pending.get? id = none ∨ id ∈ h.endedIds) :
    ∃ couriers : List (Task w.Job),
      (couriers = [] ∨ id ∈ h.endedIds ∧
        ∃ task, couriers = [⟨n.nextTask, .callback, m, .hand task id, .empty⟩]) ∧
      n.receiveBytes bytes = { n with
        pending := n.pending.erase id
        metrics := if n.pending.contains id then n.metrics.countReceived.countReplyMatched
          else n.metrics.countReceived.countReplyDropped
        tasks := n.tasks ++ couriers
        nextTask := n.nextTask + couriers.length } := by
  have hreceive : n.receiveBytes bytes =
      ({ n with metrics := n.metrics.countReceived } : Node w).receiveReply id m := by
    simp [receiveBytes_eq_take, hopen, hread, Node.take, hm]
  rw [hreceive]
  cases hget : n.pending.get? id with
  | none =>
    refine ⟨[], .inl rfl, ?_⟩
    simp [Node.receiveReply, Pending.take, hget, Pending.contains,
      Pending.erase_of_get?_eq_none hget]
  | some callback =>
    have hended : id ∈ h.endedIds := by
      rcases late with hnone | hended
      · rw [hget] at hnone
        cases hnone
      · exact hended
    have hentry := Pending.mem_of_get? hget
    cases callback with
    | deliver task =>
      refine ⟨_, .inr ⟨hended, task, rfl⟩, ?_⟩
      simp [Node.receiveReply, Pending.take, hget, Pending.contains, Node.spawn]
    | start onReply =>
      obtain ⟨asker, hasked⟩ := hc.pending.start id onReply hentry
      obtain ⟨o, ho, hoid⟩ := List.mem_filterMap.mp hended
      cases o <;> simp only [Occurrence.endedId?, Option.some.injEq, reduceCtorEq] at hoid
      subst hoid
      cases hc.sound.taken_unique hasked (hc.sound.called_of_ended ho) rfl rfl

end Late

structure RepliesMatch (n : Node w) (events : List (Event w)) : Prop where
  /-- The numbers of the requests on the output are distinct and at least one. -/
  distinct : (n.history events).requestedIds.Nodup ∧
    ∀ task id request, .requested task id request ∈ n.history events →
      1 ≤ id.toNat ∧ request.msgId? = some id
  /-- A call takes one number, which is at least one and which nobody else takes, and ends once. -/
  once : (n.history events).takenIds.Nodup ∧ (∀ id ∈ (n.history events).takenIds, 1 ≤ id.toNat) ∧
    (n.history events).endedIds.Nodup
  /-- A call that ends with a reply has made its request, and ends with the first line that answered
  the number of that request after the number was taken. -/
  first : ∀ before after task id reply result,
    n.history events = before ++ .ended task id (some reply) result :: after →
      ∃ earlier since request, before = earlier ++ .called task id :: since ∧
        .requested task id request ∈ since ∧ reply.inReplyTo? = some id ∧
        since.findSome? (Occurrence.replyTo? id) = some reply
  /-- A call ends well only with a reply, and only with one that reports no error. -/
  good : ∀ task id reply? reply, .ended task id reply? (.ok reply) ∈ n.history events →
    reply? = some reply ∧ reply.kind ≠ "error"
  /-- A call whose request is to be written puts it on the output and goes on, or it ends without a
  reply and its job goes on with an error. -/
  written : ∀ t ∈ (n.run events).tasks, ∀ dest id body limit next,
    t.stage = .dial dest id body limit next → ∀ now stamp,
      (∃ src stage, (stage = .flush ⟨dest, id, limit, next⟩ ∨
        stage = .wait ⟨dest, id, limit, next⟩) ∧
        (n.run events).occurrences (.step now stamp t.id) = [.requested t.id id ⟨src, dest, body⟩] ∧
        ((n.run events).step now stamp t.id).task? t.id = some { t with stage }) ∨
      ∃ (e : NodeError) (ms : List Message), (n.run events).occurrences (.step now stamp t.id) =
          ms.map (.requested t.id id) ++ [.ended t.id id none (.error e)] ∧
        ((n.run events).step now stamp t.id).task? t.id =
          some { t with stage := .work (next (.error e)) }
  /-- One whose request is being flushed stays, or waits for the reply, or ends likewise. -/
  flushed : ∀ t ∈ (n.run events).tasks, ∀ wait, t.stage = .flush wait → ∀ now stamp,
    (n.run events).step now stamp t.id = n.run events ∨
    ((n.run events).occurrences (.step now stamp t.id) = [] ∧
      ((n.run events).step now stamp t.id).task? t.id = some { t with stage := .wait wait }) ∨
    ∃ e, (n.run events).occurrences (.step now stamp t.id) = [.ended t.id wait.id none (.error e)] ∧
      ((n.run events).step now stamp t.id).task? t.id =
        some { t with stage := .work (wait.next (.error e)) }
  /-- A call whose deadline passes meanwhile ends with that, also when its reply has come, and
  nothing else happens: its entry stays if there is one, and nothing is written or counted. -/
  overdue : ∀ t ∈ (n.run events).tasks, ∀ wait now deadline after,
    ((∃ body, t.stage = .dial wait.dest wait.id body wait.limit wait.next) ∨
      t.stage = .flush wait ∧ (n.run events).mode = .stallingFlush) →
    wait.limit = some (deadline, after) → deadline < now → ∀ stamp,
      (n.run events).occurrences (.step now stamp t.id) =
          [.ended t.id wait.id none (.error (.timeout wait.dest after))] ∧
        (n.run events).step now stamp t.id =
          (n.run events).goTo t.id (.work (wait.next (.error (.timeout wait.dest after))))
  /-- A call that is waited for ends with an occurrence, and its job goes on with what that says. -/
  passed : ∀ t ∈ (n.run events).tasks, ∀ wait, t.stage = .wait wait → ∀ now stamp,
    (n.run events).step now stamp t.id = n.run events ∨ ∃ result,
      (n.run events).occurrences (.step now stamp t.id) =
        [.ended t.id wait.id t.mailbox.reply? result] ∧
      (n.run events).step now stamp t.id = (n.run events).update t.id fun t =>
        { t with stage := .work (wait.next result), mailbox := .empty }
  /-- A line that answers a number under which nothing waits, or that of a call that has ended,
  leaves the node as it is but for the entry of that number, the counts, and at most one task.
  Whenever such a task moves, as long as the numbers do not run out, it just goes away. -/
  late : ∀ bytes m line id, (n.run events).verdict = none →
    Reading.ofBytes bytes = .message m line → m.inReplyTo? = some id →
    ((n.run events).pending.get? id = none ∨ id ∈ (n.history events).endedIds) →
      ∃ couriers : List (Task w.Job),
        (n.run events).receiveBytes bytes = { n.run events with
          pending := (n.run events).pending.erase id
          metrics :=
            if (n.run events).pending.contains id then
              (n.run events).metrics.countReceived.countReplyMatched
            else (n.run events).metrics.countReceived.countReplyDropped
          tasks := (n.run events).tasks ++ couriers
          nextTask := (n.run events).nextTask + couriers.length } ∧
        ∀ c ∈ couriers, ∀ more now stamp,
          (n.history (events ++ .line bytes :: more)).takenIds.length < UInt64.size →
          (n.run (events ++ .line bytes :: more)).step now stamp c.id =
            (n.run (events ++ .line bytes :: more)).remove c.id

/-- In every run of a node that takes fewer numbers than there are, replies match requests. -/
theorem start_repliesMatch (w : Workload) (rpcTimeout : Duration) (events : List (Event w))
    (few : ((Node.start w rpcTimeout).history events).takenIds.length < UInt64.size) :
    (Node.start w rpcTimeout).RepliesMatch events := by
  have hc : ((Node.start w rpcTimeout).run events).Correlated
      ((Node.start w rpcTimeout).history events) := by
    simpa using (Correlated.start w rpcTimeout).run events (by simpa using few)
  refine ⟨⟨hc.sound.requestedIds_nodup, ?_⟩,
    ⟨hc.sound.takenIds_nodup, fun id hid => hc.sound.one_le_of_taken hid, hc.sound.endedIds_nodup⟩,
      ?_,
    ?_, ?_, ?_, ?_, ?_, ?_⟩
  · intro task id request hm
    exact ⟨hc.sound.one_le_of_requested hm, hc.sound.msgId?_of_requested hm⟩
  · intro before after task id reply result heq
    exact hc.sound.first_of_ended heq
  · intro task id reply? reply hm
    exact hc.sound.good_of_ended hm
  · intro t ht dest id body limit next hs now stamp
    exact hc.numbered.step_dial ht hs now stamp
  · intro t ht wait hs now stamp
    exact hc.numbered.step_flush ht hs now stamp
  · intro t ht wait now deadline after hs limit late stamp
    exact hc.numbered.step_overdue ht hs limit late stamp
  · intro t ht wait hs now stamp
    exact hc.numbered.step_wait ht hs now stamp
  · intro bytes m line id hopen hread hm hlate
    obtain ⟨couriers, hcouriers, hreceive⟩ := hc.receiveBytes_late hopen hread hm hlate
    refine ⟨couriers, hreceive, fun c hcourier more now stamp few' => ?_⟩
    rcases hcouriers with rfl | ⟨hended, task, rfl⟩
    · cases hcourier
    · obtain rfl := List.mem_singleton.mp hcourier
      rw [history_append] at few'
      simp only [history, ← List.append_assoc] at few'
      rw [run_append, run_cons]
      have hnext : ((Node.start w rpcTimeout).run events).nextTask <
          (((Node.start w rpcTimeout).run events).receiveBytes bytes).nextTask := by
        rw [hreceive]
        exact Nat.lt_succ_self _
      have hhand : ∀ x ∈ (((Node.start w rpcTimeout).run events).receiveBytes bytes).tasks,
          x.id = ((Node.start w rpcTimeout).run events).nextTask → x.stage = .hand task id := by
        intro x hx hid
        rw [hreceive] at hx
        rcases List.mem_append.mp hx with hx | hx
        · exact absurd hid (Nat.ne_of_lt (hc.numbered.below x hx))
        · rw [List.mem_singleton.mp hx]
      refine (hc.line bytes).step_run_hand hnext hhand ?_ more few' now stamp
      simp only [History.endedIds, List.filterMap_append]
      exact List.mem_append_left _ hended

/-- A run in which three callers sum over one key. The service answers the first; the reply to the
second comes while its request is being flushed, which is not over in time, and the reply to the
third comes when its request has not been written in time. -/
def summingThrice : List (Event (.counter ⟨"kv", .unbounded⟩)) :=
  let answer (id : String) := ("\x7b\"src\":\"kv\",\"dest\":\"\",\"body\":" ++
    "\x7b\"type\":\"read_ok\",\"value\":3,\"in_reply_to\":" ++ id ++ "\x7d\x7d").toUTF8.toList
  [.client (.summing (Counter.Total.start ["n1"])), .step 0 ⟨0, 0⟩ 0, .step 0 ⟨0, 0⟩ 0,
    .line (answer "1"),
    .step 0 ⟨0, 0⟩ 1, .step 0 ⟨0, 0⟩ 0,
    .client (.summing (Counter.Total.start ["n1"])), .step 0 ⟨0, 0⟩ 2, .setMode .stallingFlush,
    .step 0 ⟨0, 0⟩ 2, .line (answer "2"), .step 0 ⟨0, 0⟩ 3, .step 1001 ⟨0, 0⟩ 2,
    .client (.summing (Counter.Total.start ["n1"])), .step 1001 ⟨0, 0⟩ 4, .step 2002 ⟨0, 0⟩ 4,
    .line (answer "3"), .step 2002 ⟨0, 0⟩ 5]

/-- How the calls of a history have ended: the number of each, the kind of the reply that it ended
with, and what its task was told. -/
def endings (h : History) : List (UInt64 × Option String × String) :=
  h.filterMap fun
    | .ended _ id reply (.ok m) => some (id, reply.map Message.kind, m.kind)
    | .ended _ id reply (.error e) => some (id, reply.map Message.kind, e.message)
    | _ => none

theorem summingThrice_repliesMatch :
    ((Node.start (.counter ⟨"kv", .unbounded⟩) (.ofMillis 1000)).history
        summingThrice).takenIds.length < UInt64.size ∧
      endings ((Node.start (.counter ⟨"kv", .unbounded⟩) (.ofMillis 1000)).history summingThrice) =
        [(1, some "read_ok", "read_ok"), (2, none, "RPC to kv timed out after 1s"),
          (3, none, "RPC to kv timed out after 1s")] ∧
      ((Node.start (.counter ⟨"kv", .unbounded⟩) (.ofMillis 1000)).history
        summingThrice).requestedIds = [1, 2] ∧
      (Node.start (.counter ⟨"kv", .unbounded⟩) (.ofMillis 1000)).RepliesMatch summingThrice :=
  have runs :
      ((Node.start (.counter ⟨"kv", .unbounded⟩) (.ofMillis 1000)).history
          summingThrice).takenIds.length < UInt64.size ∧
        endings ((Node.start (.counter ⟨"kv", .unbounded⟩) (.ofMillis 1000)).history
          summingThrice) =
          [(1, some "read_ok", "read_ok"), (2, none, "RPC to kv timed out after 1s"),
            (3, none, "RPC to kv timed out after 1s")] ∧
        ((Node.start (.counter ⟨"kv", .unbounded⟩) (.ofMillis 1000)).history
          summingThrice).requestedIds = [1, 2] := by
    decide +kernel
  ⟨runs.1, runs.2.1, runs.2.2, start_repliesMatch _ _ _ runs.1⟩

end ClusterNode.Node
