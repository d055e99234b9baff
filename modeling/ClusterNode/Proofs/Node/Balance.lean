import Mathlib.Algebra.BigOperators.Finprod
import Mathlib.Algebra.Order.BigOperators.Group.Finset
import ClusterNode.Proofs.Dictionary
import ClusterNode.Proofs.Node.Books
import ClusterNode.Proofs.Node.Verdict
import ClusterNode.Workload.Counter

/-!
The balance of the books over whole runs: the counts of a node agree with each other, with what it
has written, with its table of requests and with its tasks.
-/

set_option autoImplicit false

namespace ClusterNode

variable {w : Workload}

section Counts

private theorem toNat_succ {count : UInt64} {events : Nat} (h : count.toNat ≤ events)
    (few : events + 1 < UInt64.size) : (count + 1).toNat = count.toNat + 1 := by
  rw [UInt64.toNat_add]
  exact Nat.mod_eq_of_lt (Nat.lt_of_le_of_lt (Nat.succ_le_succ h) few)

private theorem toNat_pred {count : UInt64} (h : 0 < count.toNat) :
    (count - 1).toNat = count.toNat - 1 :=
  UInt64.toNat_sub_of_le count 1 (UInt64.le_iff_toNat_le.mpr h)

private theorem Metrics.handledOf_countHandlerStart (m : Metrics) (kind other : String) :
    (m.countHandlerStart kind).handledOf other =
      if other = kind then m.handledOf kind + 1 else m.handledOf other := by
  rw [Metrics.handledOf, Metrics.countHandlerStart, Dictionary.get?_insert]
  split <;> rfl

end Counts

/-- The books are balanced after some events, in view of the kinds of the requests for which
handlers have begun, of how many handlers have failed, and of what the tasks add. -/
structure Even {Job : Type} (b : Books Job) (events : Nat) (begun : List String) (failures : Nat)
    (s : Share) : Prop where
  received : b.metrics.received.toNat =
    b.metrics.repliesMatched.toNat + b.metrics.repliesDropped.toNat + begun.length + s.waiting
  handled : ∀ kind, (b.metrics.handledOf kind).toNat = begun.count kind
  active : b.metrics.activeHandlers.toNat = s.active
  sent : b.metrics.sent.toNat = b.written.length
  sendFailures : b.metrics.sendFailures = 0
  requests : b.metrics.rpcsSent.toNat + s.calling = b.metrics.repliesMatched.toNat + b.pending.size
  errors : b.metrics.errorReplies.toNat + b.metrics.crashes.toNat + s.failed = failures
  orderly : b.pending.Orderly
  receivedFew : b.metrics.received.toNat ≤ events
  writtenFew : b.written.length ≤ events
  requestsFew : b.metrics.rpcsSent.toNat ≤ events
  failuresFew : failures ≤ events
  numbersFew : b.pending.lastId.toNat ≤ events
  handlersFew : s.waiting + s.active ≤ events

namespace Even

variable {Job : Type} {b b' : Books Job} {events : Nat} {begun : List String} {failures : Nat}
  {s s' others : Share}

private theorem later (hb : Even b events begun failures s) :
    Even b (events + 1) begun failures s :=
  { hb with
    receivedFew := Nat.le_succ_of_le hb.receivedFew
    writtenFew := Nat.le_succ_of_le hb.writtenFew
    requestsFew := Nat.le_succ_of_le hb.requestsFew
    failuresFew := Nat.le_succ_of_le hb.failuresFew
    numbersFew := Nat.le_succ_of_le hb.numbersFew
    handlersFew := Nat.le_succ_of_le hb.handlersFew }

private theorem ended (hb : Even b events begun failures (others + s)) (hactive : s.active = 1) :
    (b.metrics.activeHandlers - 1).toNat = (others + 0).active ∧
      (others + 0).waiting + (others + 0).active ≤ events + 1 := by
  have hcounted := hb.active
  have hfew := hb.handlersFew
  simp only [Share.waiting_add, Share.active_add, Share.waiting_zero, Share.active_zero,
    hactive] at hcounted hfew ⊢
  rw [toNat_pred (by omega)]
  omega

private theorem handled_countHandlerStart (hb : Even b events begun failures s)
    (few : events + 1 < UInt64.size)
    (hbegun : begun.length ≤ events) (kind other : String) :
    ((b.metrics.countHandlerStart kind).handledOf other).toNat = (kind :: begun).count other := by
  rw [Metrics.handledOf_countHandlerStart, List.count_cons]
  by_cases heq : other = kind
  · subst heq
    have hcount : (b.metrics.handledOf other).toNat ≤ events := by
      rw [hb.handled]
      exact List.count_le_length.trans hbegun
    rw [if_pos rfl, if_pos (beq_self_eq_true other), ← hb.handled]
    exact toNat_succ hcount few
  · rw [if_neg heq, if_neg (by simpa using Ne.symm heq)]
    exact hb.handled other

private theorem enter (hb : Even b events begun failures (others + s))
    (few : events + 1 < UInt64.size)
    (h : Entry b b' s s') :
    ∃ begun', Even b' (events + 1) begun' (failures + s'.failed) (others + s') := by
  have hlater := hb.later
  have hreceived := hb.received
  have hactive := hb.active
  have hrequests := hb.requests
  have herrors := hb.errors
  have hreceivedFew := hb.receivedFew
  have hrequestsFew := hb.requestsFew
  have hfailuresFew := hb.failuresFew
  have hhandlersFew := hb.handlersFew
  have hreceived_succ := toNat_succ hb.receivedFew few
  have hmatched_succ : (b.metrics.repliesMatched + 1).toNat = b.metrics.repliesMatched.toNat + 1 :=
    toNat_succ (by omega) few
  have hdropped_succ : (b.metrics.repliesDropped + 1).toNat = b.metrics.repliesDropped.toNat + 1 :=
    toNat_succ (by omega) few
  have hsent_succ : (b.metrics.sent + 1).toNat = b.metrics.sent.toNat + 1 :=
    toNat_succ (hb.sent ▸ hb.writtenFew) few
  have hrequests_succ := toNat_succ hb.requestsFew few
  have hnumber : b.pending.lastId.toNat + 1 < UInt64.size :=
    Nat.lt_of_le_of_lt (Nat.succ_le_succ hb.numbersFew) few
  have hnumber_succ := Pending.lastId_succ hnumber
  have hwritten : ∀ m, (b.metrics.sent + 1).toNat = (b.written ++ [m]).length := fun m => by
    rw [hsent_succ, hb.sent, List.length_append, List.length_singleton]
  have hwrittenFew : ∀ m, (b.written ++ [m]).length ≤ events + 1 := fun m => by
    rw [List.length_append]
    exact Nat.succ_le_succ hb.writtenFew
  cases h with
  | nothing active => exact ⟨begun, hlater⟩
  | replyMatched id waits =>
    have hsize := hb.orderly.size_erase waits
    refine ⟨begun, { hlater with received := ?_, requests := ?_, orderly := hb.orderly.erase id,
                                 receivedFew := ?_ }⟩
    · show (b.metrics.received + 1).toNat =
        (b.metrics.repliesMatched + 1).toNat + b.metrics.repliesDropped.toNat + _ + _
      omega
    · show b.metrics.rpcsSent.toNat + _ =
        (b.metrics.repliesMatched + 1).toNat + (b.pending.erase id).size
      omega
    · show (b.metrics.received + 1).toNat ≤ events + 1
      omega
  | replyDropped =>
    refine ⟨begun, { hlater with received := ?_, receivedFew := ?_ }⟩
    · show (b.metrics.received + 1).toNat =
        b.metrics.repliesMatched.toNat + (b.metrics.repliesDropped + 1).toNat + _ + _
      omega
    · show (b.metrics.received + 1).toNat ≤ events + 1
      omega
  | requestReceived =>
    refine ⟨begun, { hlater with received := ?_, receivedFew := ?_, handlersFew := ?_ }⟩
    · show (b.metrics.received + 1).toNat =
        b.metrics.repliesMatched.toNat + b.metrics.repliesDropped.toNat + _ + (others.waiting + 1)
      simp only [Share.waiting_add, Share.waiting_zero] at hreceived
      omega
    · show (b.metrics.received + 1).toNat ≤ events + 1
      omega
    · simp only [Share.waiting_add, Share.active_add, Share.waiting_zero,
        Share.active_zero] at hhandlersFew ⊢
      omega
  | handlerBegan kind =>
    simp only [Share.waiting_add, Share.active_add] at hreceived hactive hhandlersFew
    refine ⟨kind :: begun, { hlater with received := ?_, active := ?_, handlersFew := ?_,
                                         handled := hb.handled_countHandlerStart few
                                           (by omega) kind }⟩
    · show b.metrics.received.toNat =
        b.metrics.repliesMatched.toNat + b.metrics.repliesDropped.toNat + (begun.length + 1) +
          (others.waiting + 0)
      omega
    · show (b.metrics.activeHandlers + 1).toNat = others.active + 1
      rw [toNat_succ (by omega) few, hactive]
    · simp only [Share.waiting_add, Share.active_add]
      omega
  | lineWritten m active =>
    exact ⟨begun, { hlater with sent := hwritten m, writtenFew := hwrittenFew m }⟩
  | numberTaken callback active =>
    have hsize := Pending.size_register b.pending callback
    refine ⟨begun, { hlater with requests := ?_, orderly := hb.orderly.register hnumber callback,
                                 numbersFew := ?_ }⟩
    · simp only [Share.calling_add] at hrequests ⊢
      omega
    · show (b.pending.lastId + 1).toNat ≤ events + 1
      rw [hnumber_succ]
      exact Nat.succ_le_succ hb.numbersFew
  | numberReturned callback active =>
    have hcancel := Pending.cancel_register hb.orderly.counted hnumber callback
    refine ⟨begun, { hlater with requests := ?_, orderly := ?_, numbersFew := ?_ }⟩
    · rw [hcancel]
      exact hrequests
    · rw [hcancel]
      exact ⟨fun entry hentry => (hb.orderly.counted entry hentry).trans (by
        rw [hnumber_succ]
        exact Nat.le_succ _), hb.orderly.nodup⟩
    · rw [hcancel, hnumber_succ]
      exact Nat.succ_le_succ hb.numbersFew
  | requestWritten m active =>
    refine ⟨begun, { hlater with sent := hwritten m, requests := ?_, writtenFew := hwrittenFew m,
                                 requestsFew := ?_ }⟩
    · show (b.metrics.rpcsSent + 1).toNat + (others.calling + 0) =
        b.metrics.repliesMatched.toNat + b.pending.size
      simp only [Share.calling_add] at hrequests
      omega
    · show (b.metrics.rpcsSent + 1).toNat ≤ events + 1
      omega
  | handlerFailed active =>
    refine ⟨begun, { hlater with errors := ?_, failuresFew := Nat.succ_le_succ hb.failuresFew }⟩
    simp only [Share.failed_add] at herrors ⊢
    omega
  | handlerEnded =>
    obtain ⟨hended, hfew⟩ := hb.ended rfl
    exact ⟨begun, { hlater with active := hended, handlersFew := hfew }⟩
  | errorReported =>
    obtain ⟨hended, hfew⟩ := hb.ended rfl
    refine ⟨begun, { hlater with active := hended, errors := ?_, handlersFew := hfew }⟩
    show (b.metrics.errorReplies + 1).toNat + b.metrics.crashes.toNat + (others.failed + 0) =
      failures + 0
    simp only [Share.failed_add] at herrors
    rw [toNat_succ (by omega) few]
    omega
  | crashReported =>
    obtain ⟨hended, hfew⟩ := hb.ended rfl
    refine ⟨begun, { hlater with active := hended, errors := ?_, handlersFew := hfew }⟩
    show b.metrics.errorReplies.toNat + (b.metrics.crashes + 1).toNat + (others.failed + 0) =
      failures + 0
    simp only [Share.failed_add] at herrors
    rw [toNat_succ (by omega) few]
    omega

end Even

namespace Node

/-- What a handler has returned, and for which request, if an event has brought it to its end. -/
def returned? (n : Node w) : Event w → Option (Message × Except NodeError Unit)
  | .step now stamp id =>
    match (n.step now stamp id).task? id with
    | some ⟨_, _, m, .conclude result, _⟩ => some (m, result)
    | _ => none
  | _ => none

/-- What handlers return in a run, and for which requests, in order. -/
def returns (n : Node w) (events : List (Event w)) : List (Message × Except NodeError Unit) :=
  n.record (fun n e => (n.returned? e).toList) events

def isFailure (returned : Message × Except NodeError Unit) : Bool := !returned.2.isOk

def Event.Breaks (n : Node w) : Event w → Prop
  | .step _ _ id => ∃ t job, n.task? id = some t ∧ t.role.isRequest ∧ t.stage = .work job ∧
      (w.step n.view n.shared job).1 = .abandon
  | _ => False

/-- An event at which a call is given up because its request is not written in time. -/
def Event.BreaksOff (n : Node w) : Event w → Prop
  | .step now _ id => ∃ t dest number body deadline after next, n.task? id = some t ∧
      t.stage = .dial dest number body (some (deadline, after)) next ∧ deadline < now
  | _ => False

/-- The books of a node are balanced after some events, in view of how many handlers have failed. -/
structure Balanced (n : Node w) (events failures : Nat) : Prop where
  cast : n.Cast
  working : n.mode = .working
  own : ∀ t ∈ n.tasks, t.role ≠ .client
  flushed : ∀ t ∈ n.tasks, ∀ wait, t.stage ≠ .flush wait
  even : ∃ begun, Even n.books events begun failures (total n.tasks)
  closed : ∀ result, n.verdict = some result → n.tasks = []

section Run

variable {n n' : Node w} {count failures : Nat}

private theorem Balanced.start (w : Workload) (rpcTimeout : Duration) :
    (Node.start w rpcTimeout).Balanced 0 0 where
  cast := .start w rpcTimeout
  working := rfl
  own := fun _ ht => absurd ht List.not_mem_nil
  flushed := fun _ ht => absurd ht List.not_mem_nil
  even := ⟨[], rfl, fun _ => rfl, rfl, rfl, rfl, rfl, rfl, .empty, Nat.le_refl 0, Nat.le_refl 0,
    Nat.le_refl 0, Nat.le_refl 0, Nat.le_refl 0, Nat.le_refl 0⟩
  closed := fun _ _ => rfl

private theorem Balanced.congr (hb : n.Balanced count failures)
    (hbooks : n'.books = n.books := by rfl)
    (htasks : n'.tasks = n.tasks := by rfl) (hnext : n'.nextTask = n.nextTask := by rfl)
    (hmode : n'.mode = n.mode := by rfl)
    (hclosed : ∀ result, n'.verdict = some result → n'.tasks = [] := by exact hb.closed) :
    n'.Balanced (count + 1) failures := by
  obtain ⟨begun, heven⟩ := hb.even
  refine ⟨hb.cast.congr htasks hnext, hmode.trans hb.working, htasks ▸ hb.own, htasks ▸ hb.flushed,
    ⟨begun, ?_⟩, hclosed⟩
  rw [hbooks, htasks]
  exact heven.later

private theorem total_spawn (n : Node w) (role : Role) (m : Message) (stage : Stage w.Job) :
    total (n.spawn role m stage).tasks =
      total n.tasks + (⟨n.nextTask, role, m, stage, .empty⟩ : Task w.Job).share := by
  simp [total, spawn]

private theorem Routed.entry {m : Message} (h : Routed n m n') :
    ∃ s, Entry n.books n'.books 0 s ∧ total n'.tasks = total n.tasks + s ∧ s.failed = 0 := by
  cases h with
  | taken id callback reply waits =>
    refine ⟨0, .replyMatched id (Option.isSome_of_eq_some waits), ?_, rfl⟩
    rw [total_spawn]
    cases callback <;> rfl
  | dropped id reply waits => exact ⟨0, .replyDropped, rfl, rfl⟩
  | initialise request kind => exact ⟨_, .requestReceived, total_spawn _ _ _ _, rfl⟩
  | handled handler request kind serves => exact ⟨_, .requestReceived, total_spawn _ _ _ _, rfl⟩

private theorem Routed.own {m : Message} (h : Routed n m n')
    (hown : ∀ t ∈ n.tasks, t.role ≠ .client) :
    ∀ t ∈ n'.tasks, t.role ≠ .client := by
  intro t ht
  cases h with
  | dropped id reply waits => exact hown t ht
  | _ =>
    rcases mem_spawn.mp ht with ht | rfl
    · exact hown t ht
    · simp

private theorem Routed.flushed {m : Message} (h : Routed n m n')
    (hflushed : ∀ t ∈ n.tasks, ∀ wait, t.stage ≠ .flush wait) :
    ∀ t ∈ n'.tasks, ∀ wait, t.stage ≠ .flush wait := by
  intro t ht
  cases h with
  | dropped id reply waits => exact hflushed t ht
  | taken id callback reply waits =>
    rcases mem_spawn.mp ht with ht | rfl
    · exact hflushed t ht
    · cases callback <;> simp
  | _ =>
    rcases mem_spawn.mp ht with ht | rfl
    · exact hflushed t ht
    · simp

private theorem Routed.mode {m : Message} (h : Routed n m n') : n'.mode = n.mode := by
  cases h <;> rfl

private theorem Balanced.line (hb : n.Balanced count failures) (few : count + 1 < UInt64.size)
    (bytes : List UInt8)
    (going : ∀ error, (n.receiveBytes bytes).verdict ≠ some (.error error)) :
    (n.receiveBytes bytes).Balanced (count + 1) failures := by
  cases hverdict : n.verdict with
  | some result =>
    rw [receiveBytes_of_verdict hverdict]
    exact hb.congr
  | none =>
    have hcast := hb.cast.apply (.line bytes)
    have hafter := verdict_receiveBytes hverdict bytes
    simp only [Node.apply, receiveBytes_eq_take, hverdict, Option.isSome_none, Bool.false_eq_true,
      if_false]
      at hcast hafter going ⊢
    cases hread : Reading.ofBytes bytes with
    | blank => exact hb.congr
    | refused e => exact absurd (by rw [hafter, hread]; rfl) (going e)
    | message m line =>
      rw [hread] at hcast hafter going
      cases hfault : (Reading.message m line).fault? w.handlers.contains with
      | some e => exact absurd (by rw [hafter, hfault]; rfl) (going e)
      | none =>
        have hrouted : Routed n m (n.take (.message m line)) := take_routed hfault
        obtain ⟨begun, heven⟩ := hb.even
        obtain ⟨s, hentry, htotal, hfailed⟩ := hrouted.entry
        rw [← add_zero (total n.tasks)] at heven
        obtain ⟨begun', heven'⟩ := heven.enter few hentry
        rw [hfailed] at heven'
        refine ⟨hcast, hrouted.mode.trans hb.working, hrouted.own hb.own,
          hrouted.flushed hb.flushed,
          ⟨begun', htotal ▸ heven'⟩, ?_⟩
        intro result hresult
        rw [verdict_routed hrouted, hverdict] at hresult
        cases hresult

private theorem countP_returned? (n : Node w) (now : Nat) (stamp : Stamp) (id : Nat) :
    (n.returned? (.step now stamp id)).toList.countP isFailure =
      (shareOf ((n.step now stamp id).task? id)).failed := by
  simp only [returned?]
  cases (n.step now stamp id).task? id with
  | none => rfl
  | some t =>
    obtain ⟨_, _, _, stage, _⟩ := t
    cases stage with
    | conclude result => cases result <;> rfl
    | _ => rfl

private theorem Balanced.step (hb : n.Balanced count failures) (few : count + 1 < UInt64.size)
    (now : Nat) (stamp : Stamp) (id : Nat) (unbroken : ¬ (Event.step now stamp id).Breaks n)
    (timely : ¬ (Event.step now stamp id).BreaksOff n) :
    (n.step now stamp id).Balanced (count + 1)
      (failures + (n.returned? (.step now stamp id)).toList.countP isFailure) := by
  rw [countP_returned?]
  simp only [Node.step]
  cases ht : n.task? id with
  | none =>
    simp only [ht]
    exact hb.congr
  | some t =>
    obtain ⟨hmem, rfl⟩ := mem_of_task? ht
    obtain ⟨begun, heven⟩ := hb.even
    obtain ⟨others, hbefore, hafter⟩ := hb.cast.numbered.total_turn hmem now stamp
    have hentry := stepTask_entry hb.cast.numbered hmem (hb.cast.inRole t hmem) hb.working
      (hb.flushed t hmem) now stamp
      (fun dest number body deadline after next hs => Nat.le_of_not_lt fun hlate =>
        timely ⟨t, dest, number, body, deadline, after, next, ht, hs, hlate⟩)
      fun hrole job hs habandon => unbroken ⟨t, job, ht, hrole, hs, habandon⟩
    rw [hbefore] at heven
    obtain ⟨begun', heven'⟩ := heven.enter few hentry
    have hcourse := SameCourse.stepTask n now stamp t
    refine ⟨hb.cast.stepTask hmem now stamp, hcourse.mode.trans hb.working, fun x hx => ?_,
      fun x hx => ?_, ⟨begun', hafter ▸ heven'⟩, fun result hresult => ?_⟩
    · rcases hb.cast.numbered.mem_turn hmem hx with ⟨y, hy, rfl⟩ | hx
      · rw [Task.receiving_role]
        exact hb.own y hy
      · rw [(hb.cast.numbered.role_turn hmem hx).1]
        exact hb.own t hmem
    · rcases hb.cast.numbered.mem_turn hmem hx with ⟨y, hy, rfl⟩ | hx
      · rw [Task.receiving_stage]
        exact hb.flushed y hy
      · exact (hb.cast.numbered.own_turn hmem hx).2.2.flushed hb.working (hb.flushed t hmem)
    · rw [hcourse.verdict] at hresult
      rw [hb.closed result hresult] at hmem
      cases hmem

private theorem Balanced.apply (hb : n.Balanced count failures) (few : count + 1 < UInt64.size)
    {e : Event w} (input : e.FromInput) (unbroken : ¬ e.Breaks n) (timely : ¬ e.BreaksOff n)
    (going : ∀ error, (n.apply e).verdict ≠ some (.error error)) :
    (n.apply e).Balanced (count + 1) (failures + (n.returned? e).toList.countP isFailure) := by
  cases e with
  | line bytes => exact hb.line few bytes going
  | step now stamp id => exact hb.step few now stamp id unbroken timely
  | settle =>
    simp only [Node.apply, settle]
    split
    · rename_i hover
      refine hb.congr rfl rfl rfl rfl fun _ _ => ?_
      have hown : n.ownTasks = n.tasks := by simpa [ownTasks, List.filter_eq_self] using hb.own
      rw [← hown]
      simpa using hover.2
    · exact hb.congr
  | cancel => exact hb.congr
  | setMode mode => exact input.elim
  | client job => exact input.elim

private theorem Balanced.run (hb : n.Balanced count failures) {events : List (Event w)}
    (few : count + events.length < UInt64.size) (input : ∀ e ∈ events, e.FromInput)
    (unbroken : ∀ before e after, events = before ++ e :: after → ¬ e.Breaks (n.run before))
    (timely : ∀ before e after, events = before ++ e :: after → ¬ e.BreaksOff (n.run before))
    (going : ∀ error, (n.run events).verdict ≠ some (.error error)) :
    (n.run events).Balanced (count + events.length)
    (failures + (n.returns events).countP isFailure) := by
  induction events generalizing n count failures with
  | nil => exact hb
  | cons e events ih =>
    have hgoing : ∀ error, (n.apply e).verdict ≠ some (.error error) := fun error herror =>
      going error (verdict_run_of_verdict herror events)
    have hfirst := hb.apply (by simp only [List.length_cons] at few; omega)
      (input e List.mem_cons_self)
      (unbroken [] e events rfl) (timely [] e events rfl) hgoing
    have hrest := ih hfirst (by simp only [List.length_cons] at few; omega)
      (fun e' he' => input e' (List.mem_cons_of_mem _ he'))
      (fun before e' after h => unbroken (e :: before) e' after (by rw [h]; rfl))
      (fun before e' after h => timely (e :: before) e' after (by rw [h]; rfl)) going
    rw [returns, record, ← returns, List.countP_append, List.length_cons]
    rw [Nat.add_comm events.length, ← Nat.add_assoc, ← Nat.add_assoc]
    exact hrest

end Run

structure Balance (n : Node w) (events : List (Event w)) : Prop where
  /-- What was received is a reply that was matched or dropped, or a request for which a handler
  began. -/
  received : (n.run events).metrics.received.toNat =
    (n.run events).metrics.repliesMatched.toNat + (n.run events).metrics.repliesDropped.toNat +
      ∑ᶠ kind, ((n.run events).metrics.handledOf kind).toNat
  /-- No handler is at work in the end. -/
  idle : (n.run events).metrics.activeHandlers = 0
  /-- At any time before, those are counted that have begun and have not ended. -/
  active : ∀ before after, events = before ++ after →
    (n.run before).metrics.activeHandlers.toNat = (n.run before).tasks.countP Task.isActive
  sent : (n.run events).metrics.sent.toNat = (n.run events).written.length
  sendFailures : (n.run events).metrics.sendFailures = 0
  /-- The requests that were sent had a reply, or wait for one still. -/
  requests : (n.run events).metrics.rpcsSent.toNat =
    (n.run events).metrics.repliesMatched.toNat + (n.run events).pending.size
  /-- The errors that handlers returned are counted as what they were reported as. -/
  errors : (n.run events).metrics.errorReplies.toNat + (n.run events).metrics.crashes.toNat =
    (n.returns events).countP isFailure

private theorem finsum_count (begun : List String) : ∑ᶠ kind, begun.count kind = begun.length := by
  have hsupport : Function.support (fun kind => begun.count kind) ⊆ begun.toFinset :=
      fun kind hkind => by
    simpa [List.count_eq_zero] using hkind
  rw [finsum_eq_sum_of_support_subset _ hsupport, List.sum_toFinset_count_eq_length]

/-- In every run of a node over its input that ends well, in which no handler breaks down and
requests are written in time, the counts agree, whatever the workload, the order of the steps and
the replies. -/
theorem run_balance (w : Workload) (rpcTimeout : Duration) (events : List (Event w))
    (input : ∀ e ∈ events, e.FromInput) (few : events.length < UInt64.size)
    (unbroken : ∀ before e after, events = before ++ e :: after →
      ¬ e.Breaks ((Node.start w rpcTimeout).run before))
    (timely : ∀ before e after, events = before ++ e :: after →
      ¬ e.BreaksOff ((Node.start w rpcTimeout).run before))
    (ok : ((Node.start w rpcTimeout).run events).verdict = some (.ok ())) :
    (Node.start w rpcTimeout).Balance events := by
  have hbalanced : ∀ before after, events = before ++ after →
      ((Node.start w rpcTimeout).run before).Balanced before.length
        (((Node.start w rpcTimeout).returns before).countP isFailure) := by
    intro before after hevents
    have hgoing : ∀ error,
        ((Node.start w rpcTimeout).run before).verdict ≠ some (.error error) := by
      intro error herror
      rw [hevents, run_append, verdict_run_of_verdict herror after] at ok
      cases ok
    have hb := (Balanced.start w rpcTimeout).run
      (by simp only [hevents, List.length_append] at few; omega)
      (fun e he => input e (hevents ▸ List.mem_append_left _ he))
      (fun first e last h => unbroken first e (last ++ after) (by rw [hevents, h]; simp))
      (fun first e last h => timely first e (last ++ after) (by rw [hevents, h]; simp)) hgoing
    simpa using hb
  have hend := hbalanced events [] (by simp)
  have htasks := hend.closed _ ok
  obtain ⟨begun, heven⟩ := hend.even
  rw [htasks] at heven
  have hsum :
      ∑ᶠ kind, (((Node.start w rpcTimeout).run events).metrics.handledOf kind).toNat =
          begun.length := by
    rw [← finsum_count]
    exact finsum_congr heven.handled
  refine ⟨?_, UInt64.toNat_inj.mp heven.active, fun before after hevents => ?_, heven.sent,
    heven.sendFailures, heven.requests, heven.errors⟩
  · rw [hsum]
    exact heven.received
  · obtain ⟨_, hbefore⟩ := (hbalanced before after hevents).even
    rw [← total_active]
    exact hbefore.active

/-- A node of a counter is asked for the total before it has an identity and again after, and sums
up the one value there is. The reply of the store arrives twice. -/
def summingLate : List (Event (.counter ⟨"kv", .unbounded⟩)) :=
  let read := "\x7b\"src\":\"c\",\"dest\":\"n\",\"body\":\x7b\"type\":\"read\",\"msg_id\":1\x7d\x7d"
  let init := "\x7b\"src\":\"c\",\"dest\":\"n\",\"body\":\x7b\"type\":\"init\",\"msg_id\":2,"
    ++ "\"node_id\":\"n\",\"node_ids\":[\"n\"]\x7d\x7d"
  let answer := "\x7b\"src\":\"kv\",\"dest\":\"n\",\"body\":"
    ++ "\x7b\"type\":\"read_ok\",\"value\":3,\"in_reply_to\":1\x7d\x7d"
  .line read.toUTF8.toList :: List.replicate 4 (.step 0 ⟨0, 0⟩ 0)
    ++ .line init.toUTF8.toList :: List.replicate 4 (.step 0 ⟨0, 0⟩ 1)
    ++ .line read.toUTF8.toList :: List.replicate 4 (.step 0 ⟨0, 0⟩ 2)
    ++ .line answer.toUTF8.toList :: .line answer.toUTF8.toList :: .step 0 ⟨0, 0⟩ 3
    :: List.replicate 4 (.step 0 ⟨0, 0⟩ 2) ++ [.settle]

private theorem counter_begin_ne_abandon (settings : Workload.Counter.Settings) (view : View)
    (request : Message) :
    Workload.Counter.begin settings view request ≠ .abandon := by
  cases hp : (request.payload : Except RpcError Payload.Counter) with
  | error e =>
    rw [Workload.Counter.begin, hp]
    simp [Action.fail]
  | ok p =>
    rw [Workload.Counter.begin, hp]
    cases p with
    | add delta => cases view.identify <;> simp
    | read => cases view.identify <;> simp
    | _ => simp [Action.notARequest, Action.fail]

private theorem counter_step_ne_abandon (settings : Workload.Counter.Settings) (view : View)
    (job : Workload.Counter.Job) : Workload.Counter.step settings view job ≠ .abandon := by
  have hcarry : ∀ {σ : Type} (resume : σ → Workload.Counter.Job) answer (move : StoreMove σ),
      Workload.Counter.carryOut settings view resume answer move ≠ .abandon := by
    intro σ resume answer move
    cases move with
    | done result => cases result <;> simp [Workload.Counter.carryOut]
    | _ => simp [Workload.Counter.carryOut]
  cases job with
  | received request => exact counter_begin_ne_abandon settings view request
  | adding add state => exact hcarry _ _ _
  | summing state => exact hcarry _ _ _
  | ending result => simp [Workload.Counter.step]

theorem summingLate_balance :
    (∀ e ∈ summingLate, e.FromInput) ∧ summingLate.length < UInt64.size ∧
      ((Node.start (.counter ⟨"kv", .unbounded⟩) ⟨1000⟩).run summingLate).verdict = some (.ok ()) ∧
      ((Node.start (.counter ⟨"kv", .unbounded⟩) ⟨1000⟩).run
        summingLate).metrics.repliesDropped = 1 ∧
      (Node.start (.counter ⟨"kv", .unbounded⟩) ⟨1000⟩).Balance summingLate :=
  have input : ∀ e ∈ summingLate, e.FromInput := by simp [summingLate, Event.FromInput]
  have few : summingLate.length < UInt64.size := by decide
  have ends :
      ((Node.start (.counter ⟨"kv", .unbounded⟩) ⟨1000⟩).run summingLate).verdict = some (.ok ()) ∧
        ((Node.start (.counter ⟨"kv", .unbounded⟩) ⟨1000⟩).run
          summingLate).metrics.repliesDropped = 1 := by
    decide +kernel
  have unbroken : ∀ before e after, summingLate = before ++ e :: after →
      ¬ e.Breaks ((Node.start (.counter ⟨"kv", .unbounded⟩) ⟨1000⟩).run before) := by
    intro before e after _ hbreaks
    cases e with
    | step now stamp id =>
      obtain ⟨t, job, -, -, -, habandon⟩ := hbreaks
      exact counter_step_ne_abandon _ _ job habandon
    | _ => exact hbreaks
  have instant : ∀ e ∈ summingLate, ∀ now stamp id, e = .step now stamp id → now = 0 := by
    simp +contextual [summingLate]
  have timely : ∀ before e after, summingLate = before ++ e :: after →
      ¬ e.BreaksOff ((Node.start (.counter ⟨"kv", .unbounded⟩) ⟨1000⟩).run before) := by
    intro before e after hevents hlate
    cases e with
    | step now stamp id =>
      obtain ⟨t, dest, number, body, deadline, span, next, -, -, hlate⟩ := hlate
      have hnow := instant (.step now stamp id) (by rw [hevents]; simp) now stamp id rfl
      omega
    | _ => exact hlate
  ⟨input, few, ends.1, ends.2, run_balance _ ⟨1000⟩ summingLate input few unbroken timely ends.1⟩

end Node

end ClusterNode
