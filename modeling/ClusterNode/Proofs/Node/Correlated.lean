import ClusterNode.Proofs.Node.Quiet
import ClusterNode.Proofs.Node.Standing
import ClusterNode.Proofs.Node.Turn

/-!
The agreement of a node with what has happened to its requests, which every step of a task keeps.
-/

set_option autoImplicit false

namespace ClusterNode.Node

variable {w : Workload}

structure Correlated (n : Node w) (h : History) : Prop where
  numbered : n.Numbered
  sound : h.Sound
  pending : n.pending.Agrees h
  standing : ∀ t ∈ n.tasks, t.Standing h

theorem Correlated.start (w : Workload) (rpcTimeout : Duration) :
    (Node.start w rpcTimeout).Correlated [] where
  numbered := .start w rpcTimeout
  sound := .nil
  pending := ⟨rfl, by simp [History.takenIds], by simp [Node.start, Pending.empty],
    by simp [Node.start, Pending.empty], by simp [Node.start, Pending.empty]⟩
  standing := fun _ ht => absurd ht List.not_mem_nil

section Steps

variable {n : Node w} {h more : History} {t : Task w.Job}

theorem newRequests_eq {n n' : Node w} {ms : List Message} {task : Nat} {id : UInt64}
    (h : n'.written = n.written ++ ms) :
    n.newRequests n' task id = ms.map (.requested task id) := by
  rw [newRequests, h, List.drop_left]

private theorem Correlated.move (hc : n.Correlated h) (ht : t ∈ n.tasks) (now : Nat) (stamp : Stamp)
    (sound : (h ++ more).Sound) (acts : ∀ o ∈ more, o.task? = some t.id)
    (pending : (n.stepTask now stamp t).pending.Agrees (h ++ more))
    (own : ∀ x ∈ (n.stepTask now stamp t).tasks, x.id = t.id → x.Standing (h ++ more)) :
    (n.stepTask now stamp t).Correlated (h ++ more) := by
  refine ⟨hc.numbered.stepTask now stamp ht, sound, pending, fun x hx => ?_⟩
  by_cases hid : x.id = t.id
  · exact own x hx hid
  · obtain ⟨y, hy, hne, rfl⟩ := (mem_stepTask_iff_of_ne now stamp hc.numbered ht hid).mp hx
    refine ((hc.standing t ht).receiving (hc.standing y hy)).append sound fun o ho => ?_
    rw [acts o ho, Task.receiving_id]
    exact fun heq => hne (Option.some.inj heq).symm

theorem Task.standing_of_idle {Job : Type} {x : Task Job} (idle : x.stage.Idle) :
    x.Standing h := by
  cases hs : x.stage with
  | post dest id body next => rw [hs] at idle; exact idle.elim
  | dial dest id body limit next => rw [hs] at idle; exact idle.elim
  | flush wait => rw [hs] at idle; exact idle.elim
  | wait wait => rw [hs] at idle; exact idle.elim
  | hand task id => rw [hs] at idle; exact idle.elim
  | _ => simp only [Task.Standing, hs]

private theorem Correlated.quiet (hc : n.Correlated h) (ht : t ∈ n.tasks) (now : Nat)
    (stamp : Stamp)
    (hq : Quiet n t (n.stepTask now stamp t)) : (n.stepTask now stamp t).Correlated h := by
  have hmove : (n.stepTask now stamp t).Correlated (h ++ []) :=
    hc.move ht now stamp (by simpa using hc.sound) (by simp)
      (by simpa [hq.pending] using hc.pending)
      fun x hx hid => Task.standing_of_idle (hq.idle x hx hid)
  simpa using hmove

private theorem Correlated.sound_requests (hc : n.Correlated h) {dest : String} {body : Json}
    {id : UInt64} {ms : List Message} (hms : ms = [] ∨ ∃ src, ms = [⟨src, dest, body⟩])
    (taken : .called t.id id ∈ h ∨ .asked t.id id ∈ h) (fresh : id ∉ h.requestedIds)
    (stamped : stampOf body = some id) : (h ++ ms.map (Occurrence.requested t.id id)).Sound := by
  rcases hms with rfl | ⟨src, rfl⟩
  · simpa using hc.sound
  · exact hc.sound.snoc ⟨taken, fresh, stamped⟩

private theorem Correlated.update (hc : n.Correlated h) (ht : t ∈ n.tasks) (now : Nat)
    (stamp : Stamp)
    {n' : Node w} {f : Task w.Job → Task w.Job} (hstep : n.stepTask now stamp t = n'.update t.id f)
    (tasks : n'.tasks = n.tasks) (sound : (h ++ more).Sound)
    (acts : ∀ o ∈ more, o.task? = some t.id)
    (pending : n'.pending.Agrees (h ++ more)) (own : (f t).Standing (h ++ more)) :
    (n.stepTask now stamp t).Correlated (h ++ more) := by
  refine hc.move ht now stamp sound acts ?_ fun x hx hid => ?_
  · rw [hstep]
    exact pending
  · rw [hstep] at hx
    rw [hc.numbered.eq_of_mem_update ht tasks hx hid]
    exact own

private theorem Correlated.turn (hc : n.Correlated h) (ht : t ∈ n.tasks) (now : Nat) (stamp : Stamp)
    {n' : Node w} {f : Task w.Job → Task w.Job} (hstep : n.stepTask now stamp t = n'.update t.id f)
    (tasks : n'.tasks = n.tasks) (last : n'.pending.lastId = n.pending.lastId)
    (entries : ∀ entry ∈ n'.pending.entries, entry ∈ n.pending.entries) (sound : (h ++ more).Sound)
    (acts : ∀ o ∈ more, o.task? = some t.id ∧ o.takenId? = none)
    (own : (f t).Standing (h ++ more)) :
    (n.stepTask now stamp t).Correlated (h ++ more) := by
  have hpending : n'.pending.Agrees (h ++ more) := by
    refine hc.pending.shrink last entries (fun o ho => (acts o ho).2) fun entry _ o ho => ?_
    have htask := (acts o ho).1
    cases o <;> first | rfl | cases htask
  exact hc.update ht now stamp hstep tasks sound (fun o ho => (acts o ho).1) hpending own

private theorem Correlated.post (hc : n.Correlated h) (ht : t ∈ n.tasks) (now : Nat) (stamp : Stamp)
    {dest : String} {id : UInt64} {body : Json} {next : Except NodeError UInt64 → w.Job}
    (hs : t.stage = .post dest id body next) :
    (n.stepTask now stamp t).Correlated (h ++ n.stepOccurrences now t) := by
  have hstand := hc.standing t ht
  simp only [Task.Standing, hs] at hstand
  obtain ⟨htaken, hfresh, hstamp⟩ := hstand
  obtain ⟨ms, hwritten, hms, hsub, hlast⟩ : ∃ ms : List Message,
      (n.writeRequest dest id body).2.written = n.written ++ ms ∧
      (ms = [] ∨ ∃ src, ms = [⟨src, dest, body⟩]) ∧
      (∀ entry ∈ (n.writeRequest dest id body).2.pending.entries, entry ∈ n.pending.entries) ∧
      (n.writeRequest dest id body).2.pending.lastId = n.pending.lastId := by
    cases hwrite : n.writeRequest dest id body with
    | mk result n' =>
      cases result with
      | ok _ =>
        obtain ⟨hpending, src, hwritten⟩ := writeRequest_ok hwrite
        exact ⟨_, hwritten, .inr ⟨src, rfl⟩, by simp [hpending], by simp [hpending]⟩
      | error e =>
        obtain ⟨hpending, ms, hwritten, hms⟩ := writeRequest_error hwrite
        exact ⟨ms, hwritten, hms, fun entry he => (Pending.mem_erase.mp (hpending ▸ he)).1,
          by simp [hpending, Pending.erase]⟩
  have hmore : n.stepOccurrences now t = ms.map (.requested t.id id) := by
    simp only [stepOccurrences, hs, newRequests_eq hwritten]
  have hstep : n.stepTask now stamp t = (n.writeRequest dest id body).2.goTo t.id
      (.work (next ((n.writeRequest dest id body).1.map fun _ => id))) := by
    simp only [stepTask, hs]
  rw [hmore]
  refine hc.turn ht now stamp hstep (writeRequest_tasks n dest id body) hlast hsub
    (hc.sound_requests hms (.inr htaken) hfresh hstamp) ?_ (Task.standing_of_idle trivial)
  intro o ho
  obtain ⟨m, -, rfl⟩ := List.mem_map.mp ho
  exact ⟨rfl, rfl⟩

private theorem Correlated.dial (hc : n.Correlated h) (ht : t ∈ n.tasks) (now : Nat) (stamp : Stamp)
    {dest : String} {id : UInt64} {body : Json} {limit : Option (Nat × Duration)}
    {next : Except NodeError Message → w.Job} (hs : t.stage = .dial dest id body limit next) :
    (n.stepTask now stamp t).Correlated (h ++ n.stepOccurrences now t) := by
  have hstand := hc.standing t ht
  simp only [Task.Standing, hs] at hstand
  obtain ⟨htaken, hfresh, hopen, hstamp, hmail⟩ := hstand
  have htasks := writeCall_tasks n now dest id body limit
  cases hwrite : n.writeCall now dest id body limit with
  | mk result n' =>
    rw [hwrite] at htasks
    cases result with
    | ok flushed =>
      obtain ⟨hpending, src, hwritten⟩ := writeCall_ok hwrite
      have hmore : n.stepOccurrences now t = [.requested t.id id ⟨src, dest, body⟩] := by
        simp only [stepOccurrences, hs, hwrite, newRequests_eq hwritten, List.map_cons,
          List.map_nil]
      obtain ⟨stage, hstage, hstep⟩ : ∃ stage : Stage w.Job,
          (stage = .flush ⟨dest, id, limit, next⟩ ∨ stage = .wait ⟨dest, id, limit, next⟩) ∧
            n.stepTask now stamp t = n'.goTo t.id stage := by
        cases flushed with
        | true => exact ⟨_, .inr rfl, by simp only [stepTask, hs, hwrite]⟩
        | false => exact ⟨_, .inl rfl, by simp only [stepTask, hs, hwrite]⟩
      rw [hmore]
      refine hc.turn ht now stamp hstep htasks (by simp [hpending]) (by simp [hpending])
        (hc.sound.snoc ⟨.inl htaken, hfresh, hstamp⟩)
        (by simp [Occurrence.task?, Occurrence.takenId?]) ?_
      rcases hstage with rfl | rfl <;>
        exact ⟨List.mem_append_left _ htaken,
          ⟨_, List.mem_append_right _ (List.mem_singleton.mpr rfl)⟩,
          History.not_mem_endedIds_append hopen (by simp),
          fun reply hr => History.firstReply?_append (hmail reply hr) _⟩
    | error e =>
      obtain ⟨hpending, ms, hwritten, hms⟩ := writeCall_error hwrite
      have hmore : n.stepOccurrences now t =
          ms.map (.requested t.id id) ++ [.ended t.id id none (.error e)] := by
        simp only [stepOccurrences, hs, hwrite, newRequests_eq hwritten]
      have hstep : n.stepTask now stamp t = n'.goTo t.id (.work (next (.error e))) := by
        simp only [stepTask, hs, hwrite]
      have hshrink : n'.pending.lastId = n.pending.lastId ∧
          ∀ entry ∈ n'.pending.entries, entry ∈ n.pending.entries := by
        rcases hpending with hkept | herased
        · exact ⟨by rw [hkept], by simp [hkept]⟩
        · exact ⟨by rw [herased]; rfl, fun entry he => (Pending.mem_erase.mp (herased ▸ he)).1⟩
      have hopen' : id ∉ (h ++ ms.map (Occurrence.requested t.id id)).endedIds :=
        History.not_mem_endedIds_append hopen (by simp)
      have hsound := (hc.sound_requests hms (.inl htaken) hfresh hstamp).snoc
        (o := .ended t.id id none (.error e)) ⟨List.mem_append_left _ htaken, hopen', e, rfl⟩
      rw [List.append_assoc] at hsound
      rw [hmore]
      refine hc.turn ht now stamp hstep htasks hshrink.1 hshrink.2 hsound ?_
        (Task.standing_of_idle trivial)
      intro o ho
      rcases List.mem_append.mp ho with ho | ho
      · obtain ⟨m, -, rfl⟩ := List.mem_map.mp ho
        exact ⟨rfl, rfl⟩
      · rw [List.mem_singleton.mp ho]
        exact ⟨rfl, rfl⟩

private theorem Correlated.flush (hc : n.Correlated h) (ht : t ∈ n.tasks) (now : Nat)
    (stamp : Stamp)
    {wait : Wait w.Job} (hs : t.stage = .flush wait) :
    (n.stepTask now stamp t).Correlated (h ++ n.stepOccurrences now t) := by
  have hstand := hc.standing t ht
  simp only [Task.Standing, hs] at hstand
  obtain ⟨htaken, hrequest, hopen, hmail⟩ := hstand
  have hsound : ∀ e, (h ++ [Occurrence.ended t.id wait.id none (.error e)]).Sound := fun e =>
    hc.sound.snoc ⟨htaken, hopen, e, rfl⟩
  have hacts : ∀ e, ∀ o ∈ [Occurrence.ended t.id wait.id none (.error e)],
      o.task? = some t.id ∧ o.takenId? = none := by
    simp [Occurrence.task?, Occurrence.takenId?]
  have hflushed := n.flushCall?_flushed now wait
  generalize hcall : n.flushCall? now wait = flushed at hflushed
  cases hflushed with
  | goesOn =>
    have hstep : n.stepTask now stamp t = n := by simp only [Node.stepTask, hs, hcall]
    have hmore : n.stepOccurrences now t = [] := by simp only [stepOccurrences, hs, hcall]
    rw [hstep, hmore, List.append_nil]
    exact hc
  | brokenOff deadline after =>
    have hstep : n.stepTask now stamp t =
        n.goTo t.id (.work (wait.next (.error (.timeout wait.dest after)))) := by
      simp only [Node.stepTask, hs, hcall]
    have hmore : n.stepOccurrences now t =
        [.ended t.id wait.id none (.error (.timeout wait.dest after))] := by
      simp only [stepOccurrences, hs, hcall]
    rw [hmore]
    exact hc.turn ht now stamp hstep rfl rfl (fun _ he => he) (hsound _) (hacts _)
      (Task.standing_of_idle trivial)
  | ended =>
    have hstep : n.stepTask now stamp t =
        ({ n with metrics := n.metrics.countSent.countRpcSent } : Node w).goTo t.id
            (.wait wait) := by
      simp only [Node.stepTask, hs, hcall]
    have hmore : n.stepOccurrences now t = [] := by simp only [stepOccurrences, hs, hcall]
    rw [hmore]
    exact hc.turn ht now stamp hstep rfl rfl (fun _ he => he) (by simpa using hc.sound) (by simp)
      (by simpa [Task.Standing] using ⟨htaken, hrequest, hopen, hmail⟩)
  | failed =>
    have hstep : n.stepTask now stamp t = ({ n with
        metrics := n.metrics.countSendFailure
        pending := (n.pending.cancel wait.id).2 } : Node w).goTo t.id
          (.work (wait.next (.error (.io "output closed")))) := by
      simp only [Node.stepTask, hs, hcall]
    have hmore : n.stepOccurrences now t =
        [.ended t.id wait.id none (.error (.io "output closed"))] := by
      simp only [stepOccurrences, hs, hcall]
    rw [hmore]
    exact hc.turn ht now stamp hstep rfl (by simp [Pending.cancel_snd, Pending.erase])
      (fun entry he => (Pending.mem_erase.mp (Pending.cancel_snd _ _ ▸ he)).1) (hsound _) (hacts _)
      (Task.standing_of_idle trivial)

theorem waitResult?_spec {now : Nat} {wait : Wait w.Job} {result : Except NodeError Message}
    (h : n.waitResult? now t wait = some result) :
    (∃ reply, t.mailbox = .full reply ∧ result = History.outcome reply) ∨
      (t.mailbox.reply? = none ∧ ∃ e, result = .error e) := by
  cases hm : t.mailbox with
  | full reply =>
    refine .inl ⟨reply, rfl, ?_⟩
    simp only [waitResult?, hm] at h
    cases he : reply.rpcError? <;> rw [he] at h <;> simpa [History.outcome, he] using h.symm
  | lost =>
    simp only [waitResult?, hm, Option.some.injEq] at h
    exact .inr ⟨rfl, _, h.symm⟩
  | empty =>
    refine .inr ⟨rfl, ?_⟩
    simp only [waitResult?, hm] at h
    split at h
    · split at h
      · exact ⟨_, (Option.some.inj h).symm⟩
      · cases h
    · split at h
      · exact ⟨_, (Option.some.inj h).symm⟩
      · cases h

theorem Numbered.step_dial (hn : n.Numbered) (ht : t ∈ n.tasks) {dest : String} {id : UInt64}
    {body : Json} {limit : Option (Nat × Duration)} {next : Except NodeError Message → w.Job}
    (hs : t.stage = .dial dest id body limit next) (now : Nat) (stamp : Stamp) :
    (∃ src stage, (stage = .flush ⟨dest, id, limit, next⟩ ∨ stage = .wait ⟨dest, id, limit, next⟩) ∧
      n.occurrences (.step now stamp t.id) = [.requested t.id id ⟨src, dest, body⟩] ∧
      (n.step now stamp t.id).task? t.id = some { t with stage }) ∨
    ∃ (e : NodeError) (ms : List Message), n.occurrences (.step now stamp t.id) =
        ms.map (.requested t.id id) ++ [.ended t.id id none (.error e)] ∧
      (n.step now stamp t.id).task? t.id = some { t with stage := .work (next (.error e)) } := by
  simp only [Node.step, occurrences, hn.task? ht, Option.map_some, Option.getD_some, Node.stepTask,
    stepOccurrences, hs]
  have htasks := writeCall_tasks n now dest id body limit
  cases hwrite : n.writeCall now dest id body limit with
  | mk result n' =>
    rw [hwrite] at htasks
    cases result with
    | ok flushed =>
      obtain ⟨-, src, hwritten⟩ := writeCall_ok hwrite
      refine .inl ⟨src, ?_⟩
      cases flushed with
      | true => exact ⟨_, .inr rfl, newRequests_eq hwritten, hn.task?_goTo ht _ htasks⟩
      | false => exact ⟨_, .inl rfl, newRequests_eq hwritten, hn.task?_goTo ht _ htasks⟩
    | error e =>
      obtain ⟨-, ms, hwritten, -⟩ := writeCall_error hwrite
      exact .inr ⟨e, ms, by simp only [newRequests_eq hwritten], hn.task?_goTo ht _ htasks⟩

theorem Numbered.step_flush (hn : n.Numbered) (ht : t ∈ n.tasks) {wait : Wait w.Job}
    (hs : t.stage = .flush wait) (now : Nat) (stamp : Stamp) :
    n.step now stamp t.id = n ∨
    (n.occurrences (.step now stamp t.id) = [] ∧
      (n.step now stamp t.id).task? t.id = some { t with stage := .wait wait }) ∨
    ∃ e, n.occurrences (.step now stamp t.id) = [.ended t.id wait.id none (.error e)] ∧
      (n.step now stamp t.id).task? t.id =
          some { t with stage := .work (wait.next (.error e)) } := by
  simp only [Node.step, occurrences, hn.task? ht, Option.map_some, Option.getD_some, Node.stepTask,
    stepOccurrences, hs]
  have hflushed := n.flushCall?_flushed now wait
  generalize n.flushCall? now wait = flushed at hflushed ⊢
  cases hflushed with
  | goesOn => exact .inl rfl
  | brokenOff => exact .inr (.inr ⟨_, rfl, hn.task?_goTo ht _⟩)
  | ended => exact .inr (.inl ⟨rfl, hn.task?_goTo ht _⟩)
  | failed => exact .inr (.inr ⟨_, rfl, hn.task?_goTo ht _⟩)

/-- A call whose deadline passes while its request is written or flushed ends with that, whatever
has come for it, and nothing else happens. -/
theorem Numbered.step_overdue (hn : n.Numbered) (ht : t ∈ n.tasks) {wait : Wait w.Job}
    {now deadline : Nat} {after : Duration}
    (hs : (∃ body, t.stage = .dial wait.dest wait.id body wait.limit wait.next) ∨
      t.stage = .flush wait ∧ n.mode = .stallingFlush)
    (limit : wait.limit = some (deadline, after)) (late : deadline < now) (stamp : Stamp) :
    n.occurrences (.step now stamp t.id) =
        [.ended t.id wait.id none (.error (.timeout wait.dest after))] ∧
      n.step now stamp t.id =
        n.goTo t.id (.work (wait.next (.error (.timeout wait.dest after)))) := by
  simp only [Node.step, occurrences, hn.task? ht, Option.map_some, Option.getD_some]
  rcases hs with ⟨body, hs⟩ | ⟨hs, hmode⟩
  · have hwrite : n.writeCall now wait.dest wait.id body wait.limit =
        (.error (.timeout wait.dest after), n) := by
      simp only [writeCall, limit, overdue?, if_pos late]
    simp [Node.stepTask, stepOccurrences, hs, hwrite, newRequests]
  · have hflush : n.flushCall? now wait = some (.error (.timeout wait.dest after), n) := by
      simp only [flushCall?, if_pos hmode, limit, if_pos (Nat.le_of_lt late)]
    simp only [Node.stepTask, stepOccurrences, hs, hflush, and_self]

theorem Numbered.step_wait (hn : n.Numbered) (ht : t ∈ n.tasks) {wait : Wait w.Job}
    (hs : t.stage = .wait wait) (now : Nat) (stamp : Stamp) :
    n.step now stamp t.id = n ∨ ∃ result,
      n.occurrences (.step now stamp t.id) = [.ended t.id wait.id t.mailbox.reply? result] ∧
      n.step now stamp t.id = n.update t.id fun t =>
        { t with stage := .work (wait.next result), mailbox := .empty } := by
  simp only [Node.step, occurrences, hn.task? ht, Option.map_some, Option.getD_some, Node.stepTask,
    stepOccurrences, hs]
  cases n.waitResult? now t wait with
  | none => exact .inl rfl
  | some result => exact .inr ⟨result, rfl, rfl⟩

private theorem Correlated.wait (hc : n.Correlated h) (ht : t ∈ n.tasks) (now : Nat) (stamp : Stamp)
    {wait : Wait w.Job} (hs : t.stage = .wait wait) :
    (n.stepTask now stamp t).Correlated (h ++ n.stepOccurrences now t) := by
  have hstand := hc.standing t ht
  simp only [Task.Standing, hs] at hstand
  obtain ⟨htaken, hrequest, hopen, hmail⟩ := hstand
  cases hresult : n.waitResult? now t wait with
  | none =>
    have hstep : n.stepTask now stamp t = n := by simp only [stepTask, hs, hresult]
    have hmore : n.stepOccurrences now t = [] := by simp only [stepOccurrences, hs, hresult]
    rw [hstep, hmore, List.append_nil]
    exact hc
  | some result =>
    have hstep : n.stepTask now stamp t = n.update t.id fun t =>
        { t with stage := .work (wait.next result), mailbox := .empty } := by
      simp only [stepTask, hs, hresult]
    have hmore : n.stepOccurrences now t = [.ended t.id wait.id t.mailbox.reply? result] := by
      simp only [stepOccurrences, hs, hresult]
    have hjust : h.Justifies (.ended t.id wait.id t.mailbox.reply? result) := by
      rcases waitResult?_spec hresult with ⟨reply, hm, hr⟩ | ⟨hm, herror⟩
      · rw [hm]
        exact ⟨htaken, hopen, hrequest, hmail reply hm, hr⟩
      · rw [hm]
        exact ⟨htaken, hopen, herror⟩
    rw [hmore]
    exact hc.turn ht now stamp hstep rfl rfl (fun _ he => he) (hc.sound.snoc hjust)
      (by simp [Occurrence.task?, Occurrence.takenId?]) (Task.standing_of_idle trivial)

private theorem Correlated.hand (hc : n.Correlated h) (ht : t ∈ n.tasks) (now : Nat) (stamp : Stamp)
    {task : Nat} {id : UInt64} (hs : t.stage = .hand task id) :
    (n.stepTask now stamp t).Correlated (h ++ n.stepOccurrences now t) := by
  have hmore : n.stepOccurrences now t = [] := by simp only [stepOccurrences, hs]
  have hstep : n.stepTask now stamp t = (n.post task id (.full t.message)).remove t.id := by
    simp only [stepTask, hs]
  rw [hmore]
  refine hc.move ht now stamp (by simpa using hc.sound) (by simp) ?_ ?_
  · rw [hstep, List.append_nil]
    exact hc.pending
  · intro x hx hid
    rw [hstep] at hx
    exact absurd hid (mem_remove.mp hx).2

private theorem Correlated.call (hc : n.Correlated h) (ht : t ∈ n.tasks) (now : Nat) (stamp : Stamp)
    {job : w.Job} {dest : String} {payload : Json} {patience : Patience}
    {next : Except NodeError Message → w.Job} (hs : t.stage = .work job)
    (haction : (w.step n.view n.shared job).1 = .call dest payload patience next)
    (few : n.pending.lastId.toNat + 1 < UInt64.size) :
    (n.stepTask now stamp t).Correlated (h ++ n.stepOccurrences now t) := by
  obtain ⟨hnonzero, -, hnew⟩ := hc.pending.fresh few
  have hsound := hc.sound.snoc (o := .called t.id (n.pending.lastId + 1)) ⟨hnonzero, hnew⟩
  have hregister : (n.pending.register (.deliver t.id)).2.Agrees
      (h ++ [.called t.id (n.pending.lastId + 1)]) :=
    hc.pending.register few rfl (by simp) (by simp)
  have hunrequested := hc.sound.not_mem_requestedIds hnew
  have hopen := hc.sound.not_mem_endedIds hnew
  cases hbody : encodeBody payload (some (n.pending.lastId + 1)) none with
  | ok body =>
    have hmore : n.stepOccurrences now t = [.called t.id (n.pending.lastId + 1)] := by
      simp only [stepOccurrences, hs, haction, hbody]
    have hstep : n.stepTask now stamp t = ({ n with
        shared := (w.step n.view n.shared job).2
        pending := (n.pending.register (.deliver t.id)).2 } : Node w).update t.id fun t =>
          { t with
            stage := .dial dest (n.pending.lastId + 1) body (limitOf now patience) next
            mailbox := .empty } := by
      simp only [stepTask, hs, haction, act, Node.register, Pending.register, hbody]
    rw [hmore]
    refine hc.update ht now stamp hstep rfl hsound (by simp [Occurrence.task?]) hregister ?_
    exact ⟨by simp, History.not_mem_requestedIds_append hunrequested (by simp),
      History.not_mem_endedIds_append hopen (by simp), stampOf_encodeBody hbody, by simp⟩
  | error e =>
    have hmore : n.stepOccurrences now t = [.called t.id (n.pending.lastId + 1)] ++
        [.ended t.id (n.pending.lastId + 1) none (.error (.codec e))] := by
      simp only [stepOccurrences, hs, haction, hbody, List.cons_append, List.nil_append]
    have hstep : n.stepTask now stamp t = ({ n with
        shared := (w.step n.view n.shared job).2
        pending := ((n.pending.register (.deliver t.id)).2.cancel (n.pending.lastId + 1)).2 } :
          Node w).goTo t.id (.work (next (.error (.codec e)))) := by
      simp only [stepTask, hs, haction, act, Node.register, Pending.register, hbody]
    have hsound' := hsound.snoc (o := .ended t.id (n.pending.lastId + 1) none (.error (.codec e)))
      ⟨by simp, History.not_mem_endedIds_append hopen (by simp), _, rfl⟩
    rw [List.append_assoc] at hsound'
    rw [hmore]
    refine hc.update ht now stamp hstep rfl hsound' (by simp [Occurrence.task?]) ?_
      (Task.standing_of_idle trivial)
    rw [← List.append_assoc]
    exact hregister.shrink (by simp [Pending.cancel_snd, Pending.erase])
      (fun entry he => (Pending.mem_erase.mp (Pending.cancel_snd _ _ ▸ he)).1)
      (by simp [Occurrence.takenId?]) (by simp [Occurrence.replyTo?])

private theorem Correlated.ask (hc : n.Correlated h) (ht : t ∈ n.tasks) (now : Nat) (stamp : Stamp)
    {job : w.Job} {dest : String} {payload : Json} {onReply : Message → w.Job}
    {next : Except NodeError UInt64 → w.Job} (hs : t.stage = .work job)
    (haction : (w.step n.view n.shared job).1 = .ask dest payload onReply next)
    (few : n.pending.lastId.toNat + 1 < UInt64.size) :
    (n.stepTask now stamp t).Correlated (h ++ n.stepOccurrences now t) := by
  obtain ⟨hnonzero, -, hnew⟩ := hc.pending.fresh few
  have hsound := hc.sound.snoc (o := .asked t.id (n.pending.lastId + 1)) ⟨hnonzero, hnew⟩
  have hregister : (n.pending.register (.start onReply)).2.Agrees
      (h ++ [.asked t.id (n.pending.lastId + 1)]) :=
    hc.pending.register few rfl (by simp) (by simp)
  have hmore : n.stepOccurrences now t = [.asked t.id (n.pending.lastId + 1)] := by
    simp only [stepOccurrences, hs, haction]
  have hunrequested := hc.sound.not_mem_requestedIds hnew
  rw [hmore]
  cases hbody : encodeBody payload (some (n.pending.lastId + 1)) none with
  | ok body =>
    have hstep : n.stepTask now stamp t = ({ n with
        shared := (w.step n.view n.shared job).2
        pending := (n.pending.register (.start onReply)).2 } : Node w).goTo t.id
          (.post dest (n.pending.lastId + 1) body next) := by
      simp only [stepTask, hs, haction, act, Node.register, Pending.register, hbody]
    exact hc.update ht now stamp hstep rfl hsound (by simp [Occurrence.task?]) hregister
      ⟨by simp, History.not_mem_requestedIds_append hunrequested (by simp),
        stampOf_encodeBody hbody⟩
  | error e =>
    have hstep : n.stepTask now stamp t = ({ n with
        shared := (w.step n.view n.shared job).2
        pending := ((n.pending.register (.start onReply)).2.cancel (n.pending.lastId + 1)).2 } :
          Node w).goTo t.id (.work (next (.error (.codec e)))) := by
      simp only [stepTask, hs, haction, act, Node.register, Pending.register, hbody]
    have hshrink : ((n.pending.register (.start onReply)).2.cancel
        (n.pending.lastId + 1)).2.Agrees (h ++ [.asked t.id (n.pending.lastId + 1)] ++ []) :=
      hregister.shrink (by simp [Pending.cancel_snd, Pending.erase])
        (fun entry he => (Pending.mem_erase.mp (Pending.cancel_snd _ _ ▸ he)).1) (by simp) (by simp)
    rw [List.append_nil] at hshrink
    exact hc.update ht now stamp hstep rfl hsound (by simp [Occurrence.task?]) hshrink
      (Task.standing_of_idle trivial)

end Steps

section StepTask

variable {n : Node w} {h : History} {t : Task w.Job}

/-- Every step of a task keeps the agreement, as long as the numbers do not run out. -/
theorem Correlated.stepTask (hc : n.Correlated h) (ht : t ∈ n.tasks) (now : Nat) (stamp : Stamp)
    (few : (h ++ n.stepOccurrences now t).takenIds.length < UInt64.size) :
    (n.stepTask now stamp t).Correlated (h ++ n.stepOccurrences now t) := by
  have hquiet : t.stage.Idle →
      (∀ job, t.stage = .work job → ¬ (w.step n.view n.shared job).1.IsRequest) →
      (n.stepTask now stamp t).Correlated (h ++ n.stepOccurrences now t) := by
    intro idle calm
    obtain ⟨hq, hnone⟩ := stepTask_quiet hc.numbered ht now stamp idle calm
    rw [hnone, List.append_nil]
    exact hc.quiet ht now stamp hq
  have hroom : 1 ≤ (n.stepOccurrences now t).takenIds.length →
      n.pending.lastId.toNat + 1 < UInt64.size := by
    intro htakes
    simp only [History.takenIds, List.filterMap_append, List.length_append] at few htakes
    rw [hc.pending.last]
    simp only [History.takenIds]
    omega
  cases hs : t.stage with
  | work job =>
    cases haction : (w.step n.view n.shared job).1 with
    | call dest payload patience next =>
      refine hc.call ht now stamp hs haction (hroom ?_)
      simp only [stepOccurrences, hs, haction]
      split <;> simp [History.takenIds, Occurrence.takenId?]
    | ask dest payload onReply next =>
      refine hc.ask ht now stamp hs haction (hroom ?_)
      simp only [stepOccurrences, hs, haction]
      simp [History.takenIds, Occurrence.takenId?]
    | _ =>
      refine hquiet (by rw [hs]; trivial) fun job' hjob' => ?_
      rw [hs] at hjob'
      cases hjob'
      rw [haction]
      exact id
  | post dest id body next => exact hc.post ht now stamp hs
  | dial dest id body limit next => exact hc.dial ht now stamp hs
  | flush wait => exact hc.flush ht now stamp hs
  | wait wait => exact hc.wait ht now stamp hs
  | hand task id => exact hc.hand ht now stamp hs
  | _ => exact hquiet (by rw [hs]; trivial) (by simp [hs])

end StepTask

end ClusterNode.Node
