import ClusterNode.Proofs.Node.History
import ClusterNode.Proofs.Pending

/-!
How the tasks of a node and its table of requests stand, in view of what has happened to its
requests.
-/

set_option autoImplicit false

namespace ClusterNode

variable {w : Workload}

def stampOf (body : Json) : Option UInt64 := (body.field? "msg_id").bind Json.toUInt64?

theorem stampOf_encodeBody {payload body : Json} {id : UInt64}
    (h : encodeBody payload (some id) none = .ok body) : stampOf body = some id := by
  cases payload with
  | object fields =>
    obtain rfl := Except.ok.inj h
    simp [stampOf, Json.field?, Dictionary.get?_insert_self, Json.ofUInt64, Json.toUInt64?,
      Number.toUInt64?]
  | _ => cases h

namespace History

variable {h : History} {more : History} {id : UInt64}

private theorem mem_takenIds_append (hid : id ∈ h.takenIds) : id ∈ (h ++ more).takenIds := by
  simp only [takenIds, List.filterMap_append]
  exact List.mem_append_left _ hid

theorem not_mem_requestedIds_append (hid : id ∉ h.requestedIds)
    (hmore : ∀ task request, .requested task id request ∉ more) :
    id ∉ (h ++ more).requestedIds := by
  simp only [requestedIds, List.filterMap_append, List.mem_append, not_or]
  refine ⟨hid, fun hm => ?_⟩
  obtain ⟨o, ho, hoid⟩ := List.mem_filterMap.mp hm
  cases o <;> simp only [Occurrence.requestedId?, Option.some.injEq, reduceCtorEq] at hoid
  exact hmore _ _ (hoid ▸ ho)

theorem not_mem_endedIds_append (hid : id ∉ h.endedIds)
    (hmore : ∀ task reply result, .ended task id reply result ∉ more) :
    id ∉ (h ++ more).endedIds := by
  simp only [endedIds, List.filterMap_append, List.mem_append, not_or]
  refine ⟨hid, fun hm => ?_⟩
  obtain ⟨o, ho, hoid⟩ := List.mem_filterMap.mp hm
  cases o <;> simp only [Occurrence.endedId?, Option.some.injEq, reduceCtorEq] at hoid
  exact hmore _ _ _ (hoid ▸ ho)

end History

def Occurrence.task? : Occurrence → Option Nat
  | .called task _ | .asked task _ | .requested task _ _ | .ended task _ _ _ => some task
  | .replied _ _ => none

def Task.Standing {Job : Type} (t : Task Job) (h : History) : Prop :=
  match t.stage with
  | .post _ id body _ => .asked t.id id ∈ h ∧ id ∉ h.requestedIds ∧ stampOf body = some id
  | .dial _ id body _ _ =>
    .called t.id id ∈ h ∧ id ∉ h.requestedIds ∧ id ∉ h.endedIds ∧ stampOf body = some id ∧
      ∀ reply, t.mailbox = .full reply → h.firstReply? id = some reply
  | .flush wait | .wait wait =>
    .called t.id wait.id ∈ h ∧ (∃ request, .requested t.id wait.id request ∈ h) ∧
      wait.id ∉ h.endedIds ∧
      ∀ reply, t.mailbox = .full reply → h.firstReply? wait.id = some reply
  | .hand _ id => h.firstReply? id = some t.message
  | _ => True

namespace Task.Standing

variable {Job : Type} {t : Task Job} {h more : History}

theorem append (ht : t.Standing h) (hs : (h ++ more).Sound)
    (others : ∀ o ∈ more, o.task? ≠ some t.id) : t.Standing (h ++ more) := by
  have hreq : ∀ {id}, (.called t.id id ∈ h ∨ .asked t.id id ∈ h) → ∀ task request,
      .requested task id request ∉ more := by
    intro id htaken task request hm
    have htask := hs.taken_of_requested (List.mem_append_right h hm)
    have htaken' : .called t.id id ∈ h ++ more ∨ .asked t.id id ∈ h ++ more :=
      htaken.imp (List.mem_append_left _) (List.mem_append_left _)
    exact others _ hm (congrArg some (hs.task_unique htask htaken'))
  have hend : ∀ {id}, .called t.id id ∈ h → ∀ task reply result,
      .ended task id reply result ∉ more := by
    intro id htaken task reply result hm
    have htask := hs.called_of_ended (List.mem_append_right h hm)
    exact others _ hm (congrArg some
      (hs.task_unique (.inl htask) (.inl (List.mem_append_left _ htaken))))
  cases hstage : t.stage with
  | post dest id body next =>
    simp only [Task.Standing, hstage] at ht ⊢
    obtain ⟨htaken, hreq', hbody⟩ := ht
    exact ⟨List.mem_append_left _ htaken,
      History.not_mem_requestedIds_append hreq' (hreq (.inr htaken)), hbody⟩
  | dial dest id body limit next =>
    simp only [Task.Standing, hstage] at ht ⊢
    obtain ⟨htaken, hreq', hend', hbody, hmail⟩ := ht
    exact ⟨List.mem_append_left _ htaken,
      History.not_mem_requestedIds_append hreq' (hreq (.inl htaken)),
      History.not_mem_endedIds_append hend' (hend htaken), hbody,
      fun reply hr => History.firstReply?_append (hmail reply hr) more⟩
  | flush wait | wait wait =>
    simp only [Task.Standing, hstage] at ht ⊢
    obtain ⟨htaken, ⟨request, hrequest⟩, hend', hmail⟩ := ht
    exact ⟨List.mem_append_left _ htaken, ⟨request, List.mem_append_left _ hrequest⟩,
      History.not_mem_endedIds_append hend' (hend htaken),
      fun reply hr => History.firstReply?_append (hmail reply hr) more⟩
  | hand task id =>
    simp only [Task.Standing, hstage] at ht ⊢
    exact History.firstReply?_append ht more
  | _ => simp only [Task.Standing, hstage]

theorem lost (ht : t.Standing h) : ({ t with mailbox := .lost } : Task Job).Standing h := by
  cases hstage : t.stage with
  | dial dest id body limit next =>
    simp only [Task.Standing, hstage] at ht ⊢
    exact ⟨ht.1, ht.2.1, ht.2.2.1, ht.2.2.2.1, by simp⟩
  | flush wait | wait wait =>
    simp only [Task.Standing, hstage] at ht ⊢
    exact ⟨ht.1, ht.2.1, ht.2.2.1, by simp⟩
  | hand task id => simpa only [Task.Standing, hstage] using ht
  | post dest id body next => simpa only [Task.Standing, hstage] using ht
  | _ => simp only [Task.Standing]

theorem receiving {c : Task Job} (hc : c.Standing h) (ht : t.Standing h) :
    (c.receiving t).Standing h := by
  rcases c.receiving_cases t with heq | ⟨id, hhand, hcall, heq⟩
  · rw [heq]
    exact ht
  · have hfirst : h.firstReply? id = some c.message := by
      simpa only [Task.Standing, hhand] using hc
    have hmail : ∀ reply, Mailbox.full c.message = .full reply → h.firstReply? id = some reply := by
      rintro reply hr
      cases hr
      exact hfirst
    rw [heq]
    cases hstage : t.stage with
    | dial dest i body limit next =>
      obtain rfl : i = id := by simpa [callId?, hstage] using hcall
      simp only [Task.Standing, hstage] at ht ⊢
      exact ⟨ht.1, ht.2.1, ht.2.2.1, ht.2.2.2.1, hmail⟩
    | flush wait | wait wait =>
      obtain rfl : wait.id = id := by simpa [callId?, hstage] using hcall
      simp only [Task.Standing, hstage] at ht ⊢
      exact ⟨ht.1, ht.2.1, ht.2.2.1, hmail⟩
    | _ => simp [callId?, hstage] at hcall

end Task.Standing

/-- A table of requests agrees with what has happened: its last number counts the numbers that were
taken, and what waits under a number was put there by its taker and has had no reply. -/
structure Pending.Agrees {Job : Type} (p : Pending (Callback Job)) (h : History) : Prop where
  last : p.lastId.toNat = h.takenIds.length
  taken_le : ∀ id ∈ h.takenIds, id.toNat ≤ p.lastId.toNat
  unanswered : ∀ entry ∈ p.entries, entry.1 ∈ h.takenIds ∧ h.firstReply? entry.1 = none
  deliver : ∀ id task, (id, .deliver task) ∈ p.entries → .called task id ∈ h
  start : ∀ id onReply, (id, .start onReply) ∈ p.entries → ∃ task, .asked task id ∈ h

namespace Pending

namespace Agrees

variable {Job : Type} {p : Pending (Callback Job)} {h more : History}

/-- What takes no number and answers nothing that waits leaves a table in agreement, also when some
of its entries are gone. -/
theorem shrink (hp : p.Agrees h) {p' : Pending (Callback Job)} (hlast : p'.lastId = p.lastId)
    (hsub : ∀ entry ∈ p'.entries, entry ∈ p.entries) (takes : ∀ o ∈ more, o.takenId? = none)
    (answers : ∀ entry ∈ p'.entries, ∀ o ∈ more, o.replyTo? entry.1 = none) :
    p'.Agrees (h ++ more) := by
  have htaken : (h ++ more).takenIds = h.takenIds := by
    simp only [History.takenIds, List.filterMap_append]
    rw [List.filterMap_eq_nil_iff.mpr takes, List.append_nil]
  refine ⟨?_, ?_, ?_, ?_, ?_⟩
  · rw [hlast, htaken, hp.last]
  · rw [hlast, htaken]
    exact hp.taken_le
  · intro entry hentry
    obtain ⟨hid, hfirst⟩ := hp.unanswered entry (hsub entry hentry)
    refine ⟨htaken ▸ hid, ?_⟩
    rw [History.firstReply?_append_of_none hid hfirst]
    exact List.findSome?_eq_none_iff.mpr (answers entry hentry)
  · exact fun id task hm => List.mem_append_left _ (hp.deliver id task (hsub _ hm))
  · intro id onReply hm
    obtain ⟨task, htask⟩ := hp.start id onReply (hsub _ hm)
    exact ⟨task, List.mem_append_left _ htask⟩

theorem fresh (hp : p.Agrees h) (few : p.lastId.toNat + 1 < UInt64.size) :
    p.lastId + 1 ≠ 0 ∧ (p.lastId + 1).toNat = p.lastId.toNat + 1 ∧ p.lastId + 1 ∉ h.takenIds := by
  have hnat := lastId_succ few
  refine ⟨lastId_succ_ne_zero few, hnat, fun hid => ?_⟩
  have hle := hp.taken_le _ hid
  omega

theorem register (hp : p.Agrees h) (few : p.lastId.toNat + 1 < UInt64.size)
    {callback : Callback Job} {o : Occurrence} (ho : o.takenId? = some (p.lastId + 1))
    (deliver : ∀ task, callback = .deliver task → o = .called task (p.lastId + 1))
    (start : ∀ onReply, callback = .start onReply → ∃ task, o = .asked task (p.lastId + 1)) :
    (p.register callback).2.Agrees (h ++ [o]) := by
  obtain ⟨-, hnat, hnew⟩ := hp.fresh few
  have htaken : (h ++ [o]).takenIds = h.takenIds ++ [p.lastId + 1] := by
    simp [History.takenIds, ho]
  have hreply : ∀ id, o.replyTo? id = none := by
    intro id
    cases o <;> first | rfl | cases ho
  refine ⟨?_, ?_, ?_, ?_, ?_⟩
  · simp only [Pending.register, htaken, List.length_append, List.length_singleton, hnat, hp.last]
  · intro id hid
    simp only [Pending.register, hnat]
    rw [htaken] at hid
    rcases List.mem_append.mp hid with hid | hid
    · exact Nat.le_succ_of_le (hp.taken_le id hid)
    · obtain rfl := List.mem_singleton.mp hid
      exact Nat.le_of_eq hnat
  · intro entry hentry
    rcases List.mem_append.mp hentry with hentry | hentry
    · obtain ⟨hid, hfirst⟩ := hp.unanswered entry hentry
      refine ⟨History.mem_takenIds_append hid, ?_⟩
      rw [History.firstReply?_append_of_none hid hfirst]
      simp [hreply]
    · obtain rfl := List.mem_singleton.mp hentry
      refine ⟨by simp [htaken], ?_⟩
      rw [History.firstReply?_append_self hnew ho]
      rfl
  · intro id task hm
    rcases List.mem_append.mp hm with hm | hm
    · exact List.mem_append_left _ (hp.deliver id task hm)
    · obtain ⟨rfl, hcallback⟩ := Prod.mk.inj (List.mem_singleton.mp hm)
      rw [deliver task hcallback.symm]
      simp
  · intro id onReply hm
    rcases List.mem_append.mp hm with hm | hm
    · obtain ⟨task, htask⟩ := hp.start id onReply hm
      exact ⟨task, List.mem_append_left _ htask⟩
    · obtain ⟨rfl, hcallback⟩ := Prod.mk.inj (List.mem_singleton.mp hm)
      obtain ⟨task, rfl⟩ := start onReply hcallback.symm
      exact ⟨task, by simp⟩

end Agrees

end Pending

end ClusterNode
