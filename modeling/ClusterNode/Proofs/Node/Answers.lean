import ClusterNode.Proofs.Node.Ledger

/-!
Answers over whole runs: when the reading of input has ended well, each request that wants an answer
has had exactly one.
-/

set_option autoImplicit false

namespace ClusterNode

variable {w : Workload}

theorem Message.header_of_decode {line : String} {m : Message} (h : Message.decode line = .ok m) :
    ∃ fields header, m.body = .object fields ∧ Header.decode fields = .ok header := by
  simp only [Message.decode] at h
  split at h
  · cases h
  · rename_i m' _
    split at h
    · cases h
    · rename_i header hheader
      obtain rfl := Except.ok.inj h
      simp only [Message.header] at hheader
      split at hheader
      · rename_i fields hbody
        split at hheader
        · rename_i found hfound
          exact ⟨fields, found, hbody, hfound⟩
        · cases hheader
      · cases hheader

theorem Message.body_of_decode {line : String} {m : Message} (h : Message.decode line = .ok m) :
    ∃ fields, m.body = .object fields := by
  obtain ⟨fields, -, hbody, -⟩ := Message.header_of_decode h
  exact ⟨fields, hbody⟩

theorem Reading.body_of_ofBytes {bytes : List UInt8} {m : Message} {line : String}
    (h : Reading.ofBytes bytes = .message m line) : ∃ fields, m.body = .object fields := by
  simp only [Reading.ofBytes] at h
  split at h
  · simp only [Reading.ofText] at h
    split at h
    · cases h
    · split at h
      · cases h
      · rename_i m' hdecode
        obtain ⟨rfl, -⟩ := Reading.message.inj h
        exact Message.body_of_decode hdecode
  · cases h

namespace Node

/-- Events that are about the input and what it has begun; nobody inside the program calls, and the
writer works as it did. -/
def Event.FromInput : Event w → Prop
  | .line _ | .step _ _ _ | .settle | .cancel => True
  | .setMode _ | .client _ => False

def lineRequests (n : Node w) (bytes : List UInt8) : List Message :=
  if n.verdict.isSome then []
  else
    match Reading.ofBytes bytes with
    | .message m _ => if m.inReplyTo?.isNone then [m] else []
    | _ => []

/-- The requests that a run receives. -/
def requests (n : Node w) : List (Event w) → List Message
  | [] => []
  | .line bytes :: events => n.lineRequests bytes ++ (n.apply (.line bytes)).requests events
  | e :: events => (n.apply e).requests events

/-- The reading has ended with an error, or the accounts of the node are in order. -/
def Accounted (d : Duty w) (n : Node w) (requests : List Message) : Prop :=
  (∃ e, n.verdict = some (.error e)) ∨ ∃ done, Ledger d n requests done

section Run

variable {d : Duty w} {n : Node w} {requests done : List Message}

theorem verdict_stop (n : Node w) (e : NodeError) : (n.stop e).verdict = some (.error e) := by
  obtain ⟨g, -, h⟩ := stop_eq n e
  rw [h]

namespace Ledger

private theorem congr {n' : Node w} (hl : Ledger d n requests done)
    (hnext : n'.nextTask = n.nextTask)
    (hmode : n'.mode = n.mode) (htasks : n'.tasks = n.tasks) (hwritten : n'.written = n.written)
    (hpending : ∀ entry ∈ n'.pending.entries, entry ∈ n.pending.entries)
    (hclosed : ∀ result, n'.verdict = some result → result = .ok () ∧ n'.tasks = []) :
    Ledger d n' requests done where
  numbered := hl.numbered.congr htasks hnext
  working := hmode.trans hl.working
  fits := htasks ▸ hl.fits
  bodies := htasks ▸ hl.bodies
  deliver := fun entry he => hl.deliver entry (hpending entry he)
  balance := htasks ▸ hl.balance
  answered := hwritten ▸ hl.answered
  unasked := hwritten ▸ hl.unasked
  closed := hclosed

private theorem spawn (hl : Ledger d n requests done) (hopen : n.verdict = none) {role : Role}
    {m : Message}
    {stage : Stage w.Job} (hbody : ∃ fields, m.body = .object fields) {more : List Message}
    (hfits : Task.Fits d ⟨n.nextTask, role, m, stage, .empty⟩)
    (howed : Task.owed d ⟨n.nextTask, role, m, stage, .empty⟩ = more.filter wantsAnswer) :
    Ledger d (n.spawn role m stage) (requests ++ more) done where
  numbered := hl.numbered.spawn role m stage
  working := hl.working
  fits := by
    intro t ht
    rcases mem_spawn.mp ht with ht | rfl
    · exact hl.fits t ht
    · exact hfits
  bodies := by
    intro t ht
    rcases mem_spawn.mp ht with ht | rfl
    · exact hl.bodies t ht
    · exact hbody
  deliver := hl.deliver
  balance := by
    simp only [Node.spawn, List.flatMap_append, List.flatMap_cons, List.flatMap_nil,
      List.append_nil,
      List.filter_append, howed]
    rw [← List.append_assoc]
    exact hl.balance.append_right _
  answered := hl.answered
  unasked := hl.unasked
  closed := by
    intro result hresult
    have : n.verdict = some result := hresult
    rw [hopen] at this
    cases this

private theorem owed_fresh (id : Nat) (role : Role) (m : Message) (job : Option w.Job) :
    Task.owed d ⟨id, role, m, .fresh job, .empty⟩ = [m].filter wantsAnswer := by
  cases hid : m.msgId? <;> simp [Task.owed, Task.owes, wantsAnswer, hid]

private theorem receiveReply (hl : Ledger d n requests done) (hopen : n.verdict = none)
    {m : Message}
    (hbody : ∃ fields, m.body = .object fields) (id : UInt64) :
    Ledger d (n.receiveReply id m) requests done := by
  have hnone : ∀ result, n.verdict = some result → result = .ok () ∧ n.tasks = [] := hl.closed
  have hbase : ∀ metrics,
      Ledger d { n with pending := n.pending.erase id, metrics } requests done :=
    fun metrics => hl.congr rfl rfl rfl rfl (fun entry he => (Pending.mem_erase.mp he).1) hnone
  cases hget : n.pending.get? id with
  | none => exact receiveReply_of_none hget ▸ hbase _
  | some callback =>
    obtain ⟨task, rfl⟩ := hl.deliver _ (Pending.mem_of_get? hget)
    have hspawn : Ledger d (({ n with
        pending := n.pending.erase id
        metrics := n.metrics.countReplyMatched } : Node w).spawn .callback m (.hand task id))
        (requests ++ []) done :=
      (hbase n.metrics.countReplyMatched).spawn hopen hbody (by simp only [Task.Fits])
        (by simp [Task.owed, Task.owes])
    rw [receiveReply_of_some hget]
    simpa using hspawn

private theorem receiveRequest (hd : d.Kept) (hl : Ledger d n requests done)
    (hopen : n.verdict = none)
    {m : Message} (hbody : ∃ fields, m.body = .object fields) (line : String) :
    Accounted d (n.receiveRequest m line) (requests ++ [m]) := by
  simp only [Node.receiveRequest]
  split
  · rename_i hkind
    refine .inr ⟨done, hl.spawn hopen hbody ?_ ?_⟩
    · simpa only [Task.Fits] using hkind
    · exact owed_fresh _ _ _ _
  · split
    · rename_i handler hhandler
      obtain ⟨fields, hfields⟩ := hbody
      refine .inr ⟨done, hl.spawn hopen ⟨fields, hfields⟩ ?_ ?_⟩
      · simpa only [Task.Fits] using hd.handler m fields handler hfields hhandler
      · exact owed_fresh _ _ _ _
    · exact .inl ⟨_, verdict_stop _ _⟩

private theorem line (hd : d.Kept) (hl : Ledger d n requests done) (bytes : List UInt8) :
    Accounted d (n.receiveBytes bytes) (requests ++ n.lineRequests bytes) := by
  rw [receiveBytes_eq_take, lineRequests]
  cases hverdict : n.verdict with
  | some result => exact .inr ⟨done, by simpa using hl⟩
  | none =>
    simp only [Option.isSome_none, Bool.false_eq_true, if_false]
    cases hread : Reading.ofBytes bytes with
    | blank => exact .inr ⟨done, by simpa [Node.take] using hl⟩
    | refused e => exact .inl ⟨e, verdict_stop n e⟩
    | message m line =>
      have hbody := Reading.body_of_ofBytes hread
      have hl' : Ledger d { n with metrics := n.metrics.countReceived } requests done :=
        hl.congr rfl rfl rfl rfl (fun _ he => he) hl.closed
      simp only [Node.take]
      cases hreply : m.inReplyTo? with
      | some id => exact .inr ⟨done, by simpa using hl'.receiveReply hverdict hbody id⟩
      | none => simpa using hl'.receiveRequest hd hverdict hbody line

end Ledger

namespace Accounted

private theorem stopped (h : ∃ e, n.verdict = some (.error e)) (e : Event w) (more : List Message) :
    Accounted d (n.apply e) more := by
  obtain ⟨error, h⟩ := h
  refine .inl ⟨error, ?_⟩
  cases e with
  | line bytes => simp [apply, receiveBytes, h]
  | step now stamp id =>
    simp only [apply, step]
    cases n.task? id with
    | none => exact h
    | some t => exact (SameCourse.stepTask n now stamp t).verdict.trans h
  | settle => simp [apply, settle, h]
  | _ => exact h

private theorem apply (hd : d.Kept) (ha : Accounted d n requests) {e : Event w} (he : e.FromInput) :
    Accounted d (n.apply e) (requests ++ match e with
      | .line bytes => n.lineRequests bytes
      | _ => []) := by
  rcases ha with hstop | ⟨done, hl⟩
  · exact stopped hstop e _
  cases e with
  | line bytes => exact hl.line hd bytes
  | step now stamp id =>
    simp only [Node.apply, step, List.append_nil]
    cases ht : n.task? id with
    | none => exact .inr ⟨done, hl⟩
    | some t =>
      obtain ⟨paid, hl'⟩ := hl.stepTask hd (mem_of_task? ht).1 now stamp
      exact .inr ⟨_, hl'⟩
  | settle =>
    simp only [Node.apply, settle, List.append_nil]
    split
    · rename_i hdone
      have hrole : ∀ t ∈ n.tasks, t.role ≠ .client := by
        intro t ht hclient
        have hfits := hl.fits t ht
        simp only [Task.Fits, hclient] at hfits
      have hempty : n.tasks = [] := by
        have howned : n.ownTasks = n.tasks := by
          simpa [ownTasks, List.filter_eq_self] using hrole
        rw [← howned]
        simpa using hdone.2
      refine .inr ⟨done, hl.congr rfl rfl rfl rfl (fun _ he => he) fun result hresult => ?_⟩
      exact ⟨(Option.some.inj hresult).symm, hempty⟩
    · exact .inr ⟨done, hl⟩
  | cancel =>
    simp only [Node.apply, List.append_nil]
    exact .inr ⟨done, hl.congr rfl rfl rfl rfl (fun _ he => he) hl.closed⟩
  | setMode mode => exact he.elim
  | client job => exact he.elim

private theorem run (hd : d.Kept) (ha : Accounted d n requests) {events : List (Event w)}
    (he : ∀ e ∈ events, e.FromInput) :
    Accounted d (n.run events) (requests ++ n.requests events) := by
  induction events generalizing n requests with
  | nil => simpa [Node.requests] using ha
  | cons e events ih =>
    have hstep := ha.apply hd (he e List.mem_cons_self)
    have htail := ih hstep fun e he' => he e (List.mem_cons_of_mem _ he')
    cases e <;> simpa [Node.requests] using htail

end Accounted

end Run

/-- What is answered once: a request that wants an answer, by a message that answers it; everything
else that is written is sent unasked. -/
structure AnsweredOnce (kinds : List String) (written requests : List Message) : Prop where
  /-- The receivers and numbers of the answers are the senders and numbers of the requests. -/
  keys : (written.filterMap fun a => a.answers?.map fun id => (a.dest, id)).Perm
    (requests.filterMap fun m => m.msgId?.map fun id => (m.src, id))
  /-- Answers and requests belong together one by one, and each answer is of the kind that goes with
  its request. -/
  kind : ∃ answered : List Message, answered.Perm (requests.filter wantsAnswer) ∧
    List.Forall₂ Message.Answers (written.filter fun a => a.answers?.isSome) answered
  unasked : ∀ m ∈ written, m.answers? = none → m.Unasked kinds

private theorem AnsweredOnce.of_forall₂ {kinds : List String}
    {written requests answered : List Message}
    (hperm : answered.Perm (requests.filter wantsAnswer))
    (hanswers : List.Forall₂ Message.Answers (written.filter fun a => a.answers?.isSome) answered)
    (hunasked : ∀ m ∈ written, m.answers? = none → m.Unasked kinds) :
    AnsweredOnce kinds written requests := by
  have hkeys : ∀ {as qs : List Message}, List.Forall₂ Message.Answers as qs →
      (as.filterMap fun a => a.answers?.map fun id => (a.dest, id)) =
        qs.filterMap fun m => m.msgId?.map fun id => (m.src, id) := by
    intro as qs h
    induction h with
    | nil => rfl
    | cons hab _ ih => simp only [List.filterMap_cons, hab.number, hab.dest, ih]
  have hwritten : (written.filterMap fun a => a.answers?.map fun id => (a.dest, id)) =
      (written.filter fun a => a.answers?.isSome).filterMap
        fun a => a.answers?.map fun id => (a.dest, id) := by
    rw [List.filterMap_filter]
    refine List.filterMap_congr fun a _ => ?_
    cases a.answers? <;> simp
  have hrequests : (requests.filterMap fun m => m.msgId?.map fun id => (m.src, id)) =
      (requests.filter wantsAnswer).filterMap fun m => m.msgId?.map fun id => (m.src, id) := by
    rw [List.filterMap_filter]
    refine List.filterMap_congr fun m _ => ?_
    cases hid : m.msgId? <;> simp [wantsAnswer, hid]
  refine ⟨?_, ⟨answered, hperm, hanswers⟩, hunasked⟩
  rw [hwritten, hrequests, hkeys hanswers]
  exact hperm.filterMap _

/-- A workload that keeps a duty answers each request once in every run that ends well. -/
theorem answeredOnce_of_kept {d : Duty w} (hd : d.Kept) (rpcTimeout : Duration)
    {events : List (Event w)} (he : ∀ e ∈ events, e.FromInput)
    (hok : ((Node.start w rpcTimeout).run events).verdict = some (.ok ())) :
    AnsweredOnce d.kinds ((Node.start w rpcTimeout).run events).written
      ((Node.start w rpcTimeout).requests events) := by
  have hstart : Accounted d (Node.start w rpcTimeout) [] := .inr ⟨[], .start d rpcTimeout⟩
  rcases hstart.run hd he with ⟨e, herror⟩ | ⟨done, hl⟩
  · rw [hok] at herror
    cases herror
  · have hbalance := hl.balance
    rw [(hl.closed _ hok).2] at hbalance
    simp only [List.flatMap_nil, List.append_nil, List.nil_append] at hbalance
    exact .of_forall₂ hbalance hl.answered hl.unasked

end Node

end ClusterNode
