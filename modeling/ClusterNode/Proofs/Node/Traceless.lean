import ClusterNode.Proofs.Node.Resolve
import Mathlib.Data.List.Induction

/-!
Runs of a node whose jobs decide at their first step, and whose writer works: whatever the order of
the steps, a task that fails has left no mark, what fails is refused as malformed, and nothing
crashes.
-/

set_option autoImplicit false

namespace ClusterNode

variable {w : Workload}

namespace Node

def Alters (n n' : Node w) : Prop := n'.identity ≠ n.identity ∨ n'.shared ≠ n.shared

def Marks (n : Node w) (events : List (Event w)) (id : Nat) : Prop :=
  ∃ before now stamp after, events = before ++ .step now stamp id :: after ∧
    (n.run before).Alters ((n.run before).step now stamp id)

section Marks

variable {n : Node w} {events : List (Event w)} {e : Event w} {id : Nat}

private theorem marks_nil : ¬ n.Marks [] id := by
  rintro ⟨before, now, stamp, after, hsplit, -⟩
  simp at hsplit

private theorem marks_concat : n.Marks (events ++ [e]) id ↔ n.Marks events id ∨
    ∃ now stamp, e = .step now stamp id ∧
      (n.run events).Alters ((n.run events).step now stamp id) := by
  constructor
  · rintro ⟨before, now, stamp, after, hsplit, halters⟩
    rcases split_concat hsplit with ⟨rfl, he⟩ | ⟨rest, hrest, -⟩
    · exact .inr ⟨now, stamp, he, halters⟩
    · exact .inl ⟨before, now, stamp, rest, hrest, halters⟩
  · rintro (⟨before, now, stamp, after, rfl, halters⟩ | ⟨now, stamp, rfl, halters⟩)
    · exact ⟨before, now, stamp, after ++ [e], by simp, halters⟩
    · exact ⟨events, now, stamp, [], rfl, halters⟩

end Marks

/-- What is known of the tasks in view of those that have left a mark: a task that may still fail
has left none. -/
def resolute (w : Workload) (marks : Nat → Prop) : Conduct w where
  Seeks id m := m.kind = "init" ∧ (∃ fields, m.body = .object fields) ∧ ¬ marks id
  Fits id m job := w.Opens m job ∧ ¬ marks id ∨ w.Settles job
  Fails id e := e.toRpcError.code = .malformedRequest ∧ ¬ marks id
  refusable _ _ hseeks _ hcode := ⟨hcode, hseeks.2.2⟩

private theorem not_lenient_resolute (marks : Nat → Prop) : ¬ (resolute w marks).Lenient :=
    fun h => by
  cases (h 0 (.io "")).1

/-- A node on which no task has left a mark that may still fail: nothing has crashed, and all errors
that were told are about malformed requests. -/
structure Traceless (marks : Nat → Prop) (n : Node w) : Prop where
  course : n.OnCourse (resolute w marks)
  begun : ∀ id, marks id → id < n.nextTask
  crashes : n.metrics.crashes = 0
  told : ∀ line ∈ n.written, ∀ e, line.rpcError? = some e → e.code.toInt64 = 12

section Traceless

variable {marks marks' : Nat → Prop} {n n' : Node w} {t : Task w.Job} {stamp : Stamp}
  {o : Outcome w}

private theorem allows_of_settles {job : w.Job} (hjob : w.Settles job) (id : Nat) (m : Message)
    (stamp : Stamp)
    (view : View) (shared : w.Shared) :
    (resolute w marks).Allows id m stamp (w.step view shared job).1 := by
  have hresult : ∀ {r : Except NodeError Unit}, r = .ok () ∨ (resolute w marks).Lenient →
      r = .ok () :=
    fun hr => hr.resolve_right (not_lenient_resolute marks)
  cases hjob with
  | done _ step =>
    rw [step]
    trivial
  | looks _ next step after =>
    rw [step]
    exact .inr (after shared)
  | stamps _ next step after =>
    rw [step]
    exact .inr (after stamp)
  | sends _ dest payload next step object kind after =>
    rw [step]
    exact ⟨object, fun r hr => .inr (hresult hr ▸ after)⟩
  | replies _ payload next step object kind after =>
    rw [step]
    exact ⟨object, fun r hr => .inr (hresult hr ▸ after)⟩

private theorem allows_of_opens (hw : w.Decides) {m : Message} {job : w.Job} (hjob : w.Opens m job)
    (id : Nat) (stamp : Stamp) (view : View) (shared : w.Shared)
    (unmarked : (w.step view shared job).2 = shared → ¬ marks id) :
    (resolute w marks).Allows id m stamp (w.step view shared job).1 := by
  obtain ⟨e, hstep, hcode⟩ | ⟨next, shared', hstep, hsettles⟩ := hw.first view shared m job hjob
  · rw [hstep] at unmarked ⊢
    exact ⟨hcode, unmarked rfl⟩
  · rw [hstep]
    exact .inr hsettles

private theorem kind_of_fits (hw : w.Decides) {id : Nat} {m : Message} {job : w.Job}
    (hfits : (resolute w marks).Fits id m job)
    {view : View} {shared shared' : w.Shared} {action : Action w.Job}
    (hstep : w.step view shared job = (action, shared')) :
    ∀ payload, action.payload? = some payload → kindOf payload ≠ "error" := by
  intro payload hpayload
  rcases hfits with ⟨hopens, -⟩ | hsettles
  · rcases hw.first view shared m job hopens with ⟨e, hfirst, -⟩ | ⟨next, shared'', hfirst, -⟩ <;>
      obtain ⟨rfl, -⟩ := Prod.mk.inj (hstep.symm.trans hfirst) <;> cases hpayload
  · cases hsettles with
    | done _ step =>
      obtain ⟨rfl, -⟩ := Prod.mk.inj (hstep.symm.trans (step view shared))
      cases hpayload
    | looks _ next step after =>
      obtain ⟨rfl, -⟩ := Prod.mk.inj (hstep.symm.trans (step view shared))
      cases hpayload
    | stamps _ next step after =>
      obtain ⟨rfl, -⟩ := Prod.mk.inj (hstep.symm.trans (step view shared))
      cases hpayload
    | sends _ dest payload' next step object kind after =>
      obtain ⟨rfl, -⟩ := Prod.mk.inj (hstep.symm.trans (step view shared))
      exact Option.some.inj hpayload ▸ kind
    | replies _ payload' next step object kind after =>
      obtain ⟨rfl, -⟩ := Prod.mk.inj (hstep.symm.trans (step view shared))
      exact Option.some.inj hpayload ▸ kind

private theorem plain_of_fits (hw : w.Decides) {id : Nat} {m : Message} {job : w.Job}
    (hfits : (resolute w marks).Fits id m job)
    (view : View) (shared : w.Shared) : (w.step view shared job).1.Plain := by
  rcases hfits with ⟨hopens, hunmarked⟩ | hsettles
  · exact (allows_of_opens hw hopens id ⟨0, 0⟩ view shared fun _ => hunmarked).plain
  · exact (allows_of_settles hsettles id m ⟨0, 0⟩ view shared :
      (resolute w marks).Allows _ _ _ _).plain

private theorem rpcError?_of_wrote {dest : String} {payload : Json} {inReplyTo : Option UInt64}
    {lines : List Message}
    (wrote : n.MayWrite dest payload inReplyTo lines) (kind : kindOf payload ≠ "error") :
    ∀ line ∈ lines, line.rpcError? = none := by
  intro line hline
  have hkind : line.kind ≠ "error" := (wrote.line_eq line hline).1 ▸ kind
  simp [Message.rpcError?, Message.isError, hkind]

private theorem told_of_moves (hw : w.Decides) (hc : n.OnCourse (resolute w marks))
    (ht : t ∈ n.tasks)
    (hm : n.Moves t stamp o) : ∀ line ∈ o.lines, ∀ e, line.rpcError? = some e →
      e.code.toInt64 = 12 := by
  have hquiet : ∀ {dest payload inReplyTo lines}, n.MayWrite dest payload inReplyTo lines →
      kindOf payload ≠ "error" → ∀ line ∈ lines, ∀ e, line.rpcError? = some e →
          e.code.toInt64 = 12 := by
    intro dest payload inReplyTo lines wrote kind line hline e he
    rw [rpcError?_of_wrote wrote kind line hline] at he
    cases he
  cases hm with
  | sends job dest payload next shared result lines hs hstep wrote succeeds =>
    exact hquiet wrote (kind_of_fits hw ((hc.follows t ht).of_stage hs).2 hstep payload rfl)
  | replies job payload next shared result lines hs hstep wrote succeeds =>
    exact hquiet wrote (kind_of_fits hw ((hc.follows t ht).of_stage hs).2 hstep payload rfl)
  | confirms result lines hs wrote succeeds =>
    exact hquiet wrote (by rw [kindOf_encode Payload.Init.initOk rfl (by simp)]; decide)
  | reported e lines hs wrote =>
    intro line hline e' he'
    obtain ⟨-, cause, ⟨hcode, -⟩, rfl⟩ := (hc.follows t ht).of_stage hs
    obtain ⟨-, fields, hfields, rfl⟩ := wrote.line_eq line hline
    obtain rfl := Json.object.inj hfields
    rw [← Option.some.inj ((RpcError.rpcError?_message cause.toRpcError).symm.trans he'),
      ErrorCode.toInt64_ofInt64,
      hcode]
    rfl
  | _ => exact fun _ hline => absurd hline List.not_mem_nil

private theorem Traceless.start (w : Workload) (rpcTimeout : Duration) {marks : Nat → Prop}
    (none : ∀ id, ¬ marks id) :
    Traceless marks (Node.start w rpcTimeout) where
  course := .start _ rpcTimeout
  begun id hid := absurd hid (none id)
  crashes := rfl
  told _ hline := absurd hline List.not_mem_nil

private theorem Traceless.stepTask (hw : w.Decides) (h : Traceless marks n) (ht : t ∈ n.tasks)
    (now : Nat) (stamp : Stamp)
    (hmarks : ∀ id, marks' id ↔ marks id ∨ id = t.id ∧ n.Alters (n.stepTask now stamp t)) :
    Traceless marks' (n.stepTask now stamp t) := by
  have hfollows := h.course.follows t ht
  obtain ⟨o, hm, hchanges⟩ := h.course.moves hw.bare ht
    (fun job hs => plain_of_fits hw (hfollows.of_stage hs).2 n.view n.shared) now stamp
  have hunaltered : o.identity = n.identity → o.shared = n.shared →
      ¬ n.Alters (n.stepTask now stamp t) := by
    rintro hidentity hshared (halters | halters)
    · exact halters (hchanges.identity.trans hidentity)
    · exact halters (hchanges.shared.trans hshared)
  have hstill : (∀ job, t.stage ≠ .work job) → o.identity = n.identity → marks' = marks := by
    intro hidle hidentity
    funext id
    rw [eq_iff_iff, hmarks]
    exact or_iff_left fun ⟨_, halters⟩ => hunaltered hidentity (hm.shared_of_idle hidle) halters
  have hother : ∀ id, id ≠ t.id → ¬ marks id → ¬ marks' id := fun id hid hunmarked hmarked =>
    ((hmarks id).mp hmarked).elim hunmarked fun hown => hid hown.1
  refine ⟨h.course.stepTask ht hm hchanges
    (fun hl => absurd hl (not_lenient_resolute marks)) ?_ ?_ ?_, ?_, ?_, ?_⟩
  · exact ⟨fun id m hid hseeks => ⟨hseeks.1, hseeks.2.1, hother id hid hseeks.2.2⟩,
      fun id m job hid hfits =>
        hfits.imp (fun hopens => ⟨hopens.1, hother id hid hopens.2⟩) fun hsettles => hsettles,
      fun id e hid hfails => ⟨hfails.1, hother id hid hfails.2⟩⟩
  · exact fun hidle hidentity => by rw [hstill hidle hidentity]
  · intro job hs
    rcases (hfollows.of_stage hs).2 with ⟨hopens, hunmarked⟩ | hsettles
    · refine allows_of_opens hw hopens t.id stamp n.view n.shared fun hsame hmarked => ?_
      rcases (hmarks t.id).mp hmarked with hbefore | ⟨-, halters⟩
      · exact hunmarked hbefore
      · obtain ⟨hidentity, hshared, -⟩ := hm.of_work hs rfl
        exact hunaltered hidentity (hshared.trans hsame) halters
    · exact allows_of_settles hsettles t.id t.message stamp n.view n.shared
  · intro id hmarked
    rw [(SameCourse.stepTask n now stamp t).nextTask]
    rcases (hmarks id).mp hmarked with hbefore | ⟨rfl, -⟩
    · exact h.begun id hbefore
    · exact h.course.numbered.below t ht
  · rw [hchanges.crashes fun e hs =>
      NodeError.rpcError?_isSome (hfollows.of_stage hs).2.1, h.crashes]
  · rw [hchanges.written]
    exact List.forall_mem_append.mpr ⟨h.told, told_of_moves hw h.course ht hm⟩

private theorem Traceless.still (h : Traceless marks n) (course : n'.OnCourse (resolute w marks))
    (next : n.nextTask ≤ n'.nextTask) (still : Still n n') : Traceless marks n' where
  course := course
  begun id hid := Nat.lt_of_lt_of_le (h.begun id hid) next
  crashes := still.crashes.trans h.crashes
  told := by
    rw [still.written]
    exact h.told

private theorem Traceless.opens (h : Traceless marks n) {bytes : List UInt8} {m : Message}
    (hm : m ∈ n.dispatched bytes) :
    (resolute w marks).Opens n.nextTask m where
  seeks hkind := ⟨hkind, (routed_of_mem_dispatched hm).1, fun hmarked =>
    absurd (h.begun _ hmarked) (Nat.lt_irrefl _)⟩
  fits handler hhandler := .inl ⟨⟨(routed_of_mem_dispatched hm).1, handler, hhandler, rfl⟩,
    fun hmarked => absurd (h.begun _ hmarked) (Nat.lt_irrefl _)⟩

theorem traceless_run (hw : w.Decides) (rpcTimeout : Duration) (events : List (Event w))
    (input : ∀ e ∈ events, e.FromInput) :
    Traceless ((Node.start w rpcTimeout).Marks events) ((Node.start w rpcTimeout).run events) := by
  induction events using List.reverseRecOn with
  | nil => exact .start w rpcTimeout fun _ => marks_nil
  | append_singleton events e ih =>
    obtain ⟨hbefore, he⟩ := List.forall_mem_append.mp input
    have hinput := List.forall_mem_singleton.mp he
    replace ih := ih hbefore
    rw [run_append, run_cons, run_nil]
    have hother : (∀ now stamp id, e ≠ .step now stamp id) → e.FromOutside →
      (∀ mode, e ≠ .setMode mode) →
        Traceless ((Node.start w rpcTimeout).Marks (events ++ [e]))
          (((Node.start w rpcTimeout).run events).apply e) := by
      intro hstep houtside hmode
      have hmarks : (Node.start w rpcTimeout).Marks (events ++ [e]) =
          (Node.start w rpcTimeout).Marks events := by
        funext id
        rw [eq_iff_iff, marks_concat]
        exact or_iff_left fun ⟨now, stamp, hstep', _⟩ => hstep now stamp id hstep'
      rw [hmarks]
      exact ih.still (ih.course.apply houtside (fun bytes _ m hm => ih.opens hm) hstep
        fun mode he => absurd he (hmode mode)) (nextTask_le_apply _ e) (still_apply hstep)
    cases e with
    | step now stamp id =>
      simp only [apply, step]
      cases htask : ((Node.start w rpcTimeout).run events).task? id with
      | none =>
        have hmarks : (Node.start w rpcTimeout).Marks (events ++ [.step now stamp id]) =
            (Node.start w rpcTimeout).Marks events := by
          funext id'
          rw [eq_iff_iff, marks_concat]
          refine or_iff_left ?_
          rintro ⟨now', stamp', heq, halters⟩
          obtain ⟨-, -, rfl⟩ := Event.step.inj heq
          simp [step, htask, Alters] at halters
        rw [hmarks]
        exact ih
      | some t =>
        obtain ⟨ht, rfl⟩ := mem_of_task? htask
        refine ih.stepTask hw ht now stamp fun id => ?_
        rw [marks_concat]
        refine or_congr_right ⟨?_, ?_⟩
        · rintro ⟨now', stamp', heq, halters⟩
          obtain ⟨rfl, rfl, rfl⟩ := Event.step.inj heq
          rw [step, htask] at halters
          exact ⟨rfl, halters⟩
        · rintro ⟨rfl, halters⟩
          refine ⟨now, stamp, rfl, ?_⟩
          rw [step, htask]
          exact halters
    | setMode mode => exact hinput.elim
    | client job => exact hinput.elim
    | _ => exact hother (by simp) trivial (by simp)

end Traceless

end Node

end ClusterNode
