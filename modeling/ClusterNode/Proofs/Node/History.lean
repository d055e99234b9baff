import ClusterNode.Proofs.Node.Run

/-!
The history of a node's requests: which task took which number for one, what was written under it,
which lines answered it, and how the call that it was made for ended.
-/

set_option autoImplicit false

namespace ClusterNode

variable {w : Workload}

/-- What happens to the requests of a node. -/
inductive Occurrence where
  /-- A task takes a number for a call. -/
  | called (task : Nat) (id : UInt64)
  /-- A task takes a number for a request that starts a job when it is answered. -/
  | asked (task : Nat) (id : UInt64)
  /-- The request of a task appears on the output. -/
  | requested (task : Nat) (id : UInt64) (request : Message)
  /-- A line is received that answers a number. -/
  | replied (id : UInt64) (reply : Message)
  /-- A call ends: the reply that it ends with, if any, and what its task is given. -/
  | ended (task : Nat) (id : UInt64) (reply : Option Message) (result : Except NodeError Message)

namespace Occurrence

def takenId? : Occurrence → Option UInt64
  | .called _ id | .asked _ id => some id
  | _ => none

def requestedId? : Occurrence → Option UInt64
  | .requested _ id _ => some id
  | _ => none

def endedId? : Occurrence → Option UInt64
  | .ended _ id _ _ => some id
  | _ => none

def replyTo? (id : UInt64) : Occurrence → Option Message
  | .replied i reply => if i = id then some reply else none
  | _ => none

end Occurrence

abbrev History := List Occurrence

namespace History

/-- The numbers that were taken. -/
def takenIds (h : History) : List UInt64 := h.filterMap Occurrence.takenId?

/-- The numbers under which requests were written. -/
def requestedIds (h : History) : List UInt64 := h.filterMap Occurrence.requestedId?

/-- The numbers of the calls that have ended. -/
def endedIds (h : History) : List UInt64 := h.filterMap Occurrence.endedId?

def since (id : UInt64) : History → History
  | [] => []
  | o :: h => if o.takenId? = some id then h else since id h

/-- The first reply to a number after it was taken. -/
def firstReply? (id : UInt64) (h : History) : Option Message :=
  (h.since id).findSome? (Occurrence.replyTo? id)

section Since

variable {id : UInt64} {h : History}

private theorem mem_takenIds : id ∈ h.takenIds ↔ ∃ o ∈ h, o.takenId? = some id :=
  List.mem_filterMap

private theorem mem_takenIds_of_called {task : Nat} (hc : .called task id ∈ h) : id ∈ h.takenIds :=
  mem_takenIds.mpr ⟨_, hc, rfl⟩

private theorem mem_takenIds_of_asked {task : Nat} (hc : .asked task id ∈ h) : id ∈ h.takenIds :=
  mem_takenIds.mpr ⟨_, hc, rfl⟩

theorem mem_requestedIds_of_requested {task : Nat} {request : Message}
    (hr : .requested task id request ∈ h) : id ∈ h.requestedIds :=
  List.mem_filterMap.mpr ⟨_, hr, rfl⟩

private theorem since_of_not_mem (hid : id ∉ h.takenIds) : h.since id = [] := by
  induction h with
  | nil => rfl
  | cons o h ih =>
    have ho : o.takenId? ≠ some id := fun ho => hid (mem_takenIds.mpr ⟨o, by simp, ho⟩)
    have hh : id ∉ takenIds h := fun hh => by
      obtain ⟨p, hp, hpid⟩ := mem_takenIds.mp hh
      exact hid (mem_takenIds.mpr ⟨p, by simp [hp], hpid⟩)
    simp only [since, ho, if_false]
    exact ih hh

private theorem since_append (hid : id ∈ h.takenIds) (more : History) :
    (h ++ more).since id = h.since id ++ more := by
  induction h with
  | nil => cases hid
  | cons o h ih =>
    simp only [List.cons_append, since]
    split
    · rfl
    · rename_i ho
      obtain ⟨p, hp, hpid⟩ := mem_takenIds.mp hid
      refine ih (mem_takenIds.mpr ⟨p, ?_, hpid⟩)
      rcases List.mem_cons.mp hp with rfl | hp
      · exact absurd hpid ho
      · exact hp

private theorem eq_append_since (hid : id ∈ h.takenIds) :
    ∃ before o, o.takenId? = some id ∧ h = before ++ o :: h.since id := by
  induction h with
  | nil => cases hid
  | cons o h ih =>
    by_cases ho : o.takenId? = some id
    · exact ⟨[], o, ho, by simp [since, ho]⟩
    · obtain ⟨p, hp, hpid⟩ := mem_takenIds.mp hid
      have hh : id ∈ takenIds h := by
        refine mem_takenIds.mpr ⟨p, ?_, hpid⟩
        rcases List.mem_cons.mp hp with rfl | hp
        · exact absurd hpid ho
        · exact hp
      obtain ⟨before, q, hq, heq⟩ := ih hh
      refine ⟨o :: before, q, hq, ?_⟩
      simp only [since, ho, if_false, List.cons_append]
      exact congrArg (o :: ·) heq

private theorem mem_takenIds_of_firstReply? {reply : Message} (hr : h.firstReply? id = some reply) :
    id ∈ h.takenIds := by
  by_contra hid
  rw [firstReply?, since_of_not_mem hid] at hr
  cases hr

theorem firstReply?_append {reply : Message} (hr : h.firstReply? id = some reply)
    (more : History) : (h ++ more).firstReply? id = some reply := by
  rw [firstReply?, since_append (mem_takenIds_of_firstReply? hr), List.findSome?_append,
    ← firstReply?, hr, Option.some_or]

theorem firstReply?_append_of_none (hid : id ∈ h.takenIds) (hr : h.firstReply? id = none)
    (more : History) : (h ++ more).firstReply? id = more.findSome? (Occurrence.replyTo? id) := by
  rw [firstReply?, since_append hid, List.findSome?_append, ← firstReply?, hr, Option.none_or]

theorem firstReply?_append_self (hid : id ∉ h.takenIds) {o : Occurrence}
    (ho : o.takenId? = some id) (more : History) :
    (h ++ o :: more).firstReply? id = more.findSome? (Occurrence.replyTo? id) := by
  have hsince : (h ++ o :: more).since id = more := by
    induction h with
    | nil => simp [since, ho]
    | cons p h ih =>
      have hp : p.takenId? ≠ some id := fun hp => hid (mem_takenIds.mpr ⟨p, by simp, hp⟩)
      have hh : id ∉ takenIds h := fun hh => by
        obtain ⟨q, hq, hqid⟩ := mem_takenIds.mp hh
        exact hid (mem_takenIds.mpr ⟨q, by simp [hq], hqid⟩)
      simp only [List.cons_append, since, hp, if_false]
      exact ih hh
  rw [firstReply?, hsince]

end Since

/-- What a call ends with when a reply has come: the reply, or the error that it reports. -/
def outcome (reply : Message) : Except NodeError Message :=
  match reply.rpcError? with
  | some e => .error (.rpc e)
  | none => .ok reply

def Justifies (h : History) : Occurrence → Prop
  | .called _ id | .asked _ id => id ≠ 0 ∧ id ∉ h.takenIds
  | .requested task id request =>
    (.called task id ∈ h ∨ .asked task id ∈ h) ∧ id ∉ h.requestedIds ∧ request.msgId? = some id
  | .replied id reply => reply.inReplyTo? = some id
  | .ended task id (some reply) result =>
    .called task id ∈ h ∧ id ∉ h.endedIds ∧ (∃ request, .requested task id request ∈ h) ∧
      h.firstReply? id = some reply ∧ result = outcome reply
  | .ended task id none result =>
    .called task id ∈ h ∧ id ∉ h.endedIds ∧ ∃ e, result = .error e

inductive Sound : History → Prop
  | nil : Sound []
  | snoc {h : History} {o : Occurrence} (sound : Sound h) (just : h.Justifies o) : Sound (h ++ [o])

namespace Sound

variable {h : History} {id : UInt64}

private theorem before (hs : h.Sound) {before after : History} (heq : h = before ++ after) :
    before.Sound := by
  induction hs generalizing after with
  | nil =>
    obtain ⟨rfl, -⟩ := List.append_eq_nil_iff.mp heq.symm
    exact .nil
  | @snoc h o sound just ih =>
    rcases List.eq_nil_or_concat after with rfl | ⟨init, last, rfl⟩
    · rw [← List.append_nil before, ← heq]
      exact sound.snoc just
    · rw [List.concat_eq_append, ← List.append_assoc] at heq
      exact ih (List.append_inj' heq rfl).1

private theorem justifies (hs : h.Sound) {before after : History} {o : Occurrence}
    (heq : h = before ++ o :: after) : before.Justifies o := by
  induction hs generalizing after with
  | nil => simp at heq
  | snoc _ just ih =>
    rcases split_concat heq with ⟨rfl, rfl⟩ | ⟨rest, hrest, -⟩
    · exact just
    · exact ih hrest

private theorem nodup_filterMap (hs : h.Sound) {f : Occurrence → Option UInt64}
    (new : ∀ {h : History} {o id}, h.Justifies o → f o = some id → id ∉ h.filterMap f) :
    (h.filterMap f).Nodup := by
  induction hs with
  | nil => exact List.nodup_nil
  | @snoc h o _ just ih =>
    cases ho : f o with
    | none => simpa [ho] using ih
    | some id =>
      have heq : (h ++ [o]).filterMap f = (h.filterMap f).concat id := by simp [ho]
      rw [heq]
      exact ih.concat (new just ho)

theorem takenIds_nodup (hs : h.Sound) : h.takenIds.Nodup := by
  refine hs.nodup_filterMap fun {h o id} just ho => ?_
  cases o <;> simp only [Occurrence.takenId?, Option.some.injEq, reduceCtorEq] at ho <;>
    exact ho ▸ just.2

theorem endedIds_nodup (hs : h.Sound) : h.endedIds.Nodup := by
  refine hs.nodup_filterMap fun {h o id} just ho => ?_
  cases o <;> simp only [Occurrence.endedId?, Option.some.injEq, reduceCtorEq] at ho
  rename_i reply result
  cases reply <;> exact ho ▸ just.2.1

theorem requestedIds_nodup (hs : h.Sound) : h.requestedIds.Nodup := by
  refine hs.nodup_filterMap fun {h o id} just ho => ?_
  cases o <;> simp only [Occurrence.requestedId?, Option.some.injEq, reduceCtorEq] at ho
  exact ho ▸ just.2.1

theorem taken_unique (hs : h.Sound) {o p : Occurrence} (ho : o ∈ h) (hp : p ∈ h)
    (hoid : o.takenId? = some id) (hpid : p.takenId? = some id) : o = p :=
  eq_of_nodup_filterMap hs.takenIds_nodup ho hp hoid hpid

theorem task_unique (hs : h.Sound) {a b : Nat}
    (ha : .called a id ∈ h ∨ .asked a id ∈ h) (hb : .called b id ∈ h ∨ .asked b id ∈ h) :
    a = b := by
  rcases ha with ha | ha <;> rcases hb with hb | hb
  · cases hs.taken_unique ha hb rfl rfl; rfl
  · cases hs.taken_unique ha hb rfl rfl
  · cases hs.taken_unique ha hb rfl rfl
  · cases hs.taken_unique ha hb rfl rfl; rfl

theorem taken_of_requested (hs : h.Sound) {task : Nat} {request : Message}
    (ho : .requested task id request ∈ h) : .called task id ∈ h ∨ .asked task id ∈ h := by
  obtain ⟨before, after, rfl⟩ := List.append_of_mem ho
  rcases (hs.justifies rfl).1 with hc | hc
  · exact .inl (List.mem_append_left _ hc)
  · exact .inr (List.mem_append_left _ hc)

theorem called_of_ended (hs : h.Sound) {task : Nat} {reply : Option Message}
    {result : Except NodeError Message} (ho : .ended task id reply result ∈ h) :
    .called task id ∈ h := by
  obtain ⟨before, after, rfl⟩ := List.append_of_mem ho
  have just := hs.justifies rfl
  cases reply <;> exact List.mem_append_left _ just.1

private theorem called_justified (hs : h.Sound) {task : Nat}
    (ho : .called task id ∈ h ∨ .asked task id ∈ h) : id ≠ 0 := by
  rcases ho with ho | ho <;> obtain ⟨before, after, rfl⟩ := List.append_of_mem ho <;>
    exact (hs.justifies rfl).1

theorem one_le_of_taken (hs : h.Sound) (hid : id ∈ h.takenIds) : 1 ≤ id.toNat := by
  obtain ⟨o, ho, hoid⟩ := mem_takenIds.mp hid
  have hne : id ≠ 0 := by
    cases o <;> simp only [Occurrence.takenId?, Option.some.injEq, reduceCtorEq] at hoid
      <;> subst hoid
    · exact hs.called_justified (.inl ho)
    · exact hs.called_justified (.inr ho)
  have hnat : id.toNat ≠ 0 := fun hzero => hne (UInt64.toNat_inj.mp hzero)
  omega

theorem one_le_of_requested (hs : h.Sound) {task : Nat} {request : Message}
    (ho : .requested task id request ∈ h) : 1 ≤ id.toNat := by
  rcases hs.taken_of_requested ho with hc | hc
  · exact hs.one_le_of_taken (mem_takenIds_of_called hc)
  · exact hs.one_le_of_taken (mem_takenIds_of_asked hc)

theorem msgId?_of_requested (hs : h.Sound) {task : Nat} {request : Message}
    (ho : .requested task id request ∈ h) : request.msgId? = some id := by
  obtain ⟨before, after, rfl⟩ := List.append_of_mem ho
  exact (hs.justifies rfl).2.2

theorem requested_unique (hs : h.Sound) {a b : Nat} {m m' : Message} (hm : .requested a id m ∈ h)
    (hm' : .requested b id m' ∈ h) : m = m' := by
  cases eq_of_nodup_filterMap hs.requestedIds_nodup hm hm' rfl rfl
  rfl

private theorem inReplyTo?_of_replied (hs : h.Sound) {reply : Message}
    (ho : .replied id reply ∈ h) :
    reply.inReplyTo? = some id := by
  obtain ⟨before, after, rfl⟩ := List.append_of_mem ho
  exact hs.justifies rfl

/-- A call that ends with a reply has made its request, and ends with the first reply to it. -/
theorem first_of_ended (hs : h.Sound) {before after : History} {task : Nat} {reply : Message}
    {result : Except NodeError Message}
    (heq : h = before ++ .ended task id (some reply) result :: after) :
    ∃ earlier since request, before = earlier ++ .called task id :: since ∧
      .requested task id request ∈ since ∧ reply.inReplyTo? = some id ∧
      since.findSome? (Occurrence.replyTo? id) = some reply := by
  obtain ⟨hcalled, -, ⟨request, hrequest⟩, hfirst, -⟩ := hs.justifies heq
  have hs' : before.Sound := hs.before heq
  have hid := mem_takenIds_of_called hcalled
  obtain ⟨earlier, o, hoid, hsplit⟩ := eq_append_since hid
  obtain rfl : o = .called task id :=
    hs'.taken_unique (by rw [hsplit]; simp) hcalled hoid rfl
  refine ⟨earlier, before.since id, request, hsplit, ?_, ?_, hfirst⟩
  · rw [hsplit] at hrequest
    rcases List.mem_append.mp hrequest with hm | hm
    · have hs₀ : History.Sound earlier := hs'.before hsplit
      have hnew := (hs'.justifies hsplit).2
      rcases hs₀.taken_of_requested hm with ht | ht
      · exact absurd (mem_takenIds_of_called ht) hnew
      · exact absurd (mem_takenIds_of_asked ht) hnew
    · simpa using hm
  · obtain ⟨o, ho, horeply⟩ := List.exists_of_findSome?_eq_some hfirst
    cases o <;> simp only [Occurrence.replyTo?, reduceCtorEq] at horeply
    rename_i i r
    split at horeply
    · rename_i hi
      obtain rfl := Option.some.inj horeply
      subst hi
      exact hs'.inReplyTo?_of_replied (by rw [hsplit]; simp [ho])
    · cases horeply

/-- A call ends well only with the reply that came, and not with one that reports an error. -/
theorem good_of_ended (hs : h.Sound) {task : Nat} {reply? : Option Message} {reply : Message}
    (ho : .ended task id reply? (.ok reply) ∈ h) : reply? = some reply ∧ reply.kind ≠ "error" := by
  obtain ⟨before, after, rfl⟩ := List.append_of_mem ho
  have just := hs.justifies rfl
  cases reply? with
  | none =>
    obtain ⟨-, -, e, he⟩ := just
    cases he
  | some r =>
    obtain ⟨-, -, -, -, hr⟩ := just
    simp only [outcome] at hr
    split at hr
    · cases hr
    · rename_i hnone
      obtain rfl := Except.ok.inj hr
      refine ⟨rfl, fun hkind => ?_⟩
      simp only [Message.rpcError?, Message.isError, hkind, decide_true, if_true] at hnone
      split at hnone <;> cases hnone

theorem not_mem_requestedIds (hs : h.Sound) (hid : id ∉ h.takenIds) : id ∉ h.requestedIds := by
  intro hreq
  obtain ⟨o, ho, hoid⟩ := List.mem_filterMap.mp hreq
  cases o <;> simp only [Occurrence.requestedId?, Option.some.injEq, reduceCtorEq] at hoid
  subst hoid
  rcases hs.taken_of_requested ho with hm | hm
  · exact hid (mem_takenIds_of_called hm)
  · exact hid (mem_takenIds_of_asked hm)

theorem not_mem_endedIds (hs : h.Sound) (hid : id ∉ h.takenIds) : id ∉ h.endedIds := by
  intro hend
  obtain ⟨o, ho, hoid⟩ := List.mem_filterMap.mp hend
  cases o <;> simp only [Occurrence.endedId?, Option.some.injEq, reduceCtorEq] at hoid
  subst hoid
  exact hid (mem_takenIds_of_called (hs.called_of_ended ho))

end Sound

end History

def Mailbox.reply? : Mailbox → Option Message
  | .full reply => some reply
  | _ => none

namespace Node

def newRequests (n n' : Node w) (task : Nat) (id : UInt64) : History :=
  (n'.written.drop n.written.length).map (.requested task id)

def stepOccurrences (n : Node w) (now : Nat) (t : Task w.Job) : History :=
  match t.stage with
  | .work job =>
    match (w.step n.view n.shared job).1 with
    | .call _ payload _ _ =>
      let id := n.pending.lastId + 1
      match encodeBody payload (some id) none with
      | .ok _ => [.called t.id id]
      | .error e => [.called t.id id, .ended t.id id none (.error (.codec e))]
    | .ask _ _ _ _ => [.asked t.id (n.pending.lastId + 1)]
    | _ => []
  | .post dest id body _ => n.newRequests (n.writeRequest dest id body).2 t.id id
  | .dial dest id body limit _ =>
    match n.writeCall now dest id body limit with
    | (.ok _, n') => n.newRequests n' t.id id
    | (.error e, n') => n.newRequests n' t.id id ++ [.ended t.id id none (.error e)]
  | .flush wait =>
    match n.flushCall? now wait with
    | some (.error e, _) => [.ended t.id wait.id none (.error e)]
    | _ => []
  | .wait wait =>
    match n.waitResult? now t wait with
    | some result => [.ended t.id wait.id t.mailbox.reply? result]
    | none => []
  | _ => []

def lineOccurrences (n : Node w) (bytes : List UInt8) : History :=
  if n.verdict.isSome then []
  else
    match Reading.ofBytes bytes with
    | .message m _ => (m.inReplyTo?.map fun id => .replied id m).toList
    | _ => []

/-- What an event does about requests. -/
def occurrences (n : Node w) : Event w → History
  | .line bytes => n.lineOccurrences bytes
  | .step now _ id => ((n.task? id).map (n.stepOccurrences now)).getD []
  | _ => []

/-- What a run does about requests. -/
def history (n : Node w) : List (Event w) → History
  | [] => []
  | e :: events => n.occurrences e ++ (n.apply e).history events

theorem history_append (n : Node w) (first second : List (Event w)) :
    n.history (first ++ second) = n.history first ++ (n.run first).history second := by
  induction first generalizing n with
  | nil => rfl
  | cons e first ih => simp only [List.cons_append, history, ih, run_cons, List.append_assoc]

end Node

end ClusterNode
