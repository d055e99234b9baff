import Mathlib.Algebra.Order.Group.Multiset
import Mathlib.Data.List.Forall2
import ClusterNode.Proofs.Node.Decisions
import ClusterNode.Proofs.Store.Client

/-!
Whoever asks a node for an identity and wants an answer is told what has become of the request,
unless the line that tells it cannot be written.
-/

set_option autoImplicit false

namespace ClusterNode

variable {w : Workload}

namespace Decision

/-- A line that tells whoever made the request what has become of it. -/
structure Told (d : Decision) (line : Message) : Prop where
  dest : line.dest = d.request.src
  number : line.answers? = d.request.msgId?
  granted : d.refusal = none → line.body.Confirms
  refused : ∀ e, d.refusal = some e → line.rpcError? = some e

/-- Whether a node decides so; an error of another kind is about a line that could not be
written. -/
def isProper (d : Decision) : Bool := d.refusal.all fun e => e.code = .malformedRequest

end Decision

def Task.notice? {Job : Type} (t : Task Job) : Option Decision :=
  match t.stage with
  | .confirm => some ⟨t.message, none⟩
  | .conclude (.error e) => some ⟨t.message, some e.toRpcError⟩
  | .refuse e => some ⟨t.message, some e⟩
  | _ => none

/-- What was decided about a request for an identity and is still to be told. -/
def Task.untold {Job : Type} (t : Task Job) : List Decision :=
  if t.role = .initialise then t.notice?.toList.filter fun d => d.isProper && d.isHeard else []

private theorem Payload.Init.plain_initOk : Payload.Plain Payload.Init.initOk "init_ok" :=
  ⟨[], rfl, fun _ h => absurd h List.not_mem_nil⟩

private theorem sublistForall₂_append {α β : Type} {R : α → β → Prop} {as cs : List α}
    {bs ds : List β}
    (h : List.SublistForall₂ R as bs) (h' : List.SublistForall₂ R cs ds) :
    List.SublistForall₂ R (as ++ cs) (bs ++ ds) := by
  obtain ⟨l, hl, hsub⟩ := List.sublistForall₂_iff.mp h
  obtain ⟨l', hl', hsub'⟩ := List.sublistForall₂_iff.mp h'
  exact List.sublistForall₂_iff.mpr ⟨l ++ l', List.rel_append hl hl', hsub.append hsub'⟩

namespace Node

section Tells

variable {n n' : Node w} {t x : Task w.Job} {d : Decision}

structure Tells (n : Node w) (t : Task w.Job) (n' : Node w) (told lost : List Decision) : Prop where
  balance : ((n.settles t).filter Decision.isHeard ++ t.untold).Perm
    (told ++ lost ++ (n'.task? t.id).toList.flatMap Task.untold)
  written : ∃ lines, n'.written = n.written ++ lines ∧ List.SublistForall₂ Decision.Told told lines
  lost : ∀ d ∈ lost, (n.mode.outcome d.request.src).1 = false

theorem reply_written {α : Type} [Payload α] (n : Node w) (a : α) {m : Message} {id : UInt64}
    (hid : m.msgId? = some id) :
    (n.reply m (Payload.encode a)).2.written = n.written ++
      if (n.mode.outcome m.src).1 then [Payload.Plain.message a n.name m.src none (some id)]
        else [] := by
  simp only [reply, hid, Payload.encode, encodeBody_object, write_eq]
  rfl

private theorem reply_error {α : Type} [Payload α] {a : α} {m : Message} {e : NodeError}
    (h : (n.reply m (Payload.encode a)).1 = .error e) : e.toRpcError.code = .crash := by
  simp only [reply, Payload.encode, encodeBody_object, write_eq] at h
  split at h
  · cases h
  · split at h
    · cases h
    · rw [← Except.error.inj h]
      rfl

private theorem told_initOk (m : Message) {id : UInt64} (hid : m.msgId? = some id) (src : String) :
    Decision.Told ⟨m, none⟩
      (Payload.Plain.message Payload.Init.initOk src m.src none (some id)) where
  dest := rfl
  number := (answers?_insert src m.src id _).trans hid.symm
  granted _ := Payload.Init.plain_initOk.kind
  refused _ he := by cases he

private theorem told_error {e : RpcError} (he : e.code = .malformedRequest) (m : Message)
    {id : UInt64}
    (hid : m.msgId? = some id) (src : String) :
    Decision.Told ⟨m, some e⟩ (Payload.Plain.message e src m.src none (some id)) where
  dest := rfl
  number := (answers?_insert src m.src id _).trans hid.symm
  granted hnone := by cases hnone
  refused e' he' := by
    rw [← Option.some.inj he', e.rpcError?_message, ErrorCode.ofInt64_toInt64 (by rw [he]; decide)]

private theorem isHeard_of_msgId? {m : Message} {id : UInt64} (hid : m.msgId? = some id)
    (refusal : Option RpcError) :
    Decision.isHeard ⟨m, refusal⟩ = true := by
  rw [Decision.isHeard, hid]
  rfl

theorem untold_eq_nil (h : t.role ≠ .initialise ∨ t.message.msgId? = none) : t.untold = [] := by
  unfold Task.untold
  split
  · rename_i hrole
    have hid : t.message.msgId? = none := h.resolve_left (absurd hrole)
    refine List.filter_eq_nil_iff.mpr fun d hd => ?_
    have hrequest : d.request = t.message := by
      unfold Task.notice? at hd
      split at hd
      all_goals first | rw [List.mem_singleton.mp hd] | exact absurd hd List.not_mem_nil
    simp [Decision.isHeard, hrequest, hid]
  · rfl

private theorem untold_receiving (t x : Task w.Job) : (t.receiving x).untold = x.untold := by
  simp only [Task.untold, Task.notice?, Task.receiving_role, Task.receiving_stage,
    Task.receiving_message]

private theorem conclude_error (n : Node w) (t : Task w.Job) (e : NodeError) :
    ∃ metrics, n.conclude t (.error e) =
      ({ n with metrics } : Node w).goTo t.id (.refuse e.toRpcError) := by
  simp only [conclude, NodeError.toRpcError]
  cases e.rpcError? <;> exact ⟨_, rfl⟩

private theorem Tells.silent (hwritten : n.written <+: n'.written)
    (hbalance : (n.settles t).filter Decision.isHeard ++ t.untold =
      (n'.task? t.id).toList.flatMap Task.untold) : Tells n t n' [] [] := by
  obtain ⟨lines, hlines⟩ := hwritten
  exact ⟨by rw [hbalance]; rfl, ⟨lines, hlines.symm, .nil⟩, fun _ h => absurd h List.not_mem_nil⟩

private theorem Tells.answers {α : Type} [Payload α] {a : α} {id : UInt64}
    (hid : t.message.msgId? = some id)
    (hsettles : n.settles t = []) (huntold : t.untold = [d]) (hrequest : d.request = t.message)
    (htold : ∀ src, d.Told (Payload.Plain.message a src t.message.src none (some id)))
    (hwritten : n'.written = (n.reply t.message (Payload.encode a)).2.written)
    (hown : (n'.task? t.id).toList.flatMap Task.untold = []) :
    ∃ told lost, Tells n t n' told lost := by
  rw [reply_written n a hid] at hwritten
  cases happears : (n.mode.outcome t.message.src).1 with
  | true =>
    rw [happears] at hwritten
    refine ⟨[d], [], ?_, ⟨_, hwritten, .cons (htold n.name) .nil⟩, fun _ h =>
      absurd h List.not_mem_nil⟩
    rw [hsettles, huntold, hown]
    rfl
  | false =>
    rw [happears] at hwritten
    refine ⟨[], [d], ?_, ⟨_, hwritten, .nil⟩, fun d' hd' => ?_⟩
    · rw [hsettles, huntold, hown]
      rfl
    · rwa [List.mem_singleton.mp hd', hrequest]

private theorem adopt_tells (bare : w.handlers.get? "init" = none) (hn : n.Numbered)
    (ht : t ∈ n.tasks) (hadopt : t.stage = .adopt) (hrole : t.role = .initialise) {id : UInt64}
    (hid : t.message.msgId? = some id) : Tells n t (n.adopt t) [] [] := by
  have hsettles : n.settles t = [n.decision t] := by simp only [settles, hadopt]
  have huntold : t.untold = [] := by simp [Task.untold, Task.notice?, hadopt]
  have hwritten := (SameCourse.adopt n t).written
  have hheard := isHeard_of_msgId? hid
  have hadopts := adopt_cases bare n t
  refine .silent hwritten ?_
  rw [hsettles, huntold, decision]
  generalize n.adopt t = n' at hadopts
  cases hadopts with
  | malformed e offer code =>
    rw [hn.task?_goTo ht]
    simp [hheard, Task.untold, hrole, Task.notice?, Decision.isProper, NodeError.toRpcError,
      NodeError.rpcError?, code]
  | late i identity offer =>
    rw [hn.task?_goTo ht]
    simp [hheard, Task.untold, hrole, Task.notice?, Decision.isProper, NodeError.toRpcError,
      NodeError.rpcError?]
  | granted i identity offer =>
    rw [hn.task?_goTo ht]
    simp [hheard, Task.untold, hrole, Task.notice?, Decision.isProper]

private theorem stepTask_tells (bare : w.handlers.get? "init" = none) (hc : n.Candid)
    (ht : t ∈ n.tasks) (now : Nat)
    (stamp : Stamp) : ∃ told lost, Tells n t (n.stepTask now stamp t) told lost := by
  have hn := hc.cast.numbered
  have hin := hc.cast.inRole t ht
  have hwritten := (SameCourse.stepTask n now stamp t).written
  by_cases hquiet : t.role ≠ .initialise ∨ t.message.msgId? = none
  · refine ⟨[], [], .silent hwritten ?_⟩
    have hsettles : (n.settles t).filter Decision.isHeard = [] := by
      unfold settles
      split
      · rename_i hadopt
        simp only [Task.InRole, hadopt] at hin
        simp [Decision.isHeard, decision, hquiet.resolve_left (absurd hin)]
      · rfl
    have hown : ((n.stepTask now stamp t).task? t.id).toList.flatMap Task.untold = [] :=
      List.flatMap_eq_nil_iff.mpr fun x hx => by
        obtain ⟨hrole, hmessage⟩ := hn.role_turn ht (Option.mem_toList.mp hx)
        exact untold_eq_nil (by rwa [hrole, hmessage])
    rw [hsettles, untold_eq_nil hquiet, hown, List.nil_append]
  · obtain ⟨hrole, hid⟩ := not_or.mp hquiet
    replace hrole : t.role = .initialise := not_not.mp hrole
    obtain ⟨id, hid⟩ := Option.ne_none_iff_exists'.mp hid
    have hidle := hc.idle t ht hrole
    have huntold : t.untold = t.notice?.toList.filter fun d => d.isProper && d.isHeard :=
      if_pos hrole
    have hheard := isHeard_of_msgId? hid
    by_cases hadopt : t.stage = .adopt
    · simp only [stepTask, hadopt]
      exact ⟨[], [], adopt_tells bare hn ht hadopt hrole hid⟩
    have hsettles : n.settles t = [] := settles_eq_nil hadopt
    cases hs : t.stage with
    | adopt => exact absurd hs hadopt
    | fresh job =>
      refine ⟨[], [], .silent hwritten ?_⟩
      simp only [stepTask, hs]
      rw [hsettles, huntold, Task.notice?, hs, hn.task?_goTo ht]
      cases job <;> simp [Task.untold, Task.notice?]
    | confirm =>
      simp only [stepTask, hs]
      refine Tells.answers (d := ⟨t.message, none⟩) (a := Payload.Init.initOk) hid hsettles ?_ rfl
        (told_initOk t.message hid) rfl ?_
      · rw [huntold, Task.notice?, hs]
        simp [Decision.isProper, hheard]
      · rw [hn.task?_goTo ht _ (reply_tasks n t.message _)]
        cases hresult : (n.reply t.message (Payload.encode Payload.Init.initOk)).1 with
        | ok u => simp [Task.untold, Task.notice?]
        | error e => simp [Task.untold, Task.notice?, Decision.isProper, reply_error hresult]
    | conclude result =>
      refine ⟨[], [], .silent hwritten ?_⟩
      simp only [stepTask, hs]
      rw [hsettles, huntold, Task.notice?, hs]
      cases result with
      | ok u =>
        simp only [conclude]
        rw [task?_remove]
        rfl
      | error e =>
        obtain ⟨metrics, hconclude⟩ := conclude_error n t e
        rw [hconclude, hn.task?_goTo ht]
        simp [Task.untold, Task.notice?, hrole]
    | refuse e =>
      by_cases hproper : e.code = .malformedRequest
      · simp only [stepTask, hs]
        refine Tells.answers (d := ⟨t.message, some e⟩) (a := e) hid hsettles ?_ rfl
          (told_error hproper t.message hid) rfl ?_
        · rw [huntold, Task.notice?, hs]
          simp [Decision.isProper, hheard, hproper]
        · rw [task?_remove]
          rfl
      · refine ⟨[], [], .silent hwritten ?_⟩
        simp only [stepTask, hs]
        rw [hsettles, huntold, Task.notice?, hs, task?_remove]
        simp [Decision.isProper, hproper]
    | hand task id =>
      simp only [Task.InRole, hs, hrole] at hin
      cases hin
    | _ => exact absurd (hs ▸ trivial) hidle

end Tells

/-- How far the decisions of a node have been told by now, where the lines to some receivers may be
lost. -/
structure Telling (deaf : String → Prop) (n : Node w) (ds told lost : List Decision) : Prop where
  mute : ∀ dest, (n.mode.outcome dest).1 = false → deaf dest
  balance : (∃ e, n.verdict = some (.error e)) ∨
    (told ++ lost ++ n.tasks.flatMap Task.untold).Perm (ds.filter Decision.isHeard)
  written : List.SublistForall₂ Decision.Told told n.written
  lost : ∀ d ∈ lost, deaf d.request.src

namespace Telling

variable {deaf : String → Prop} {n n' : Node w} {t : Task w.Job} {ds told lost : List Decision}

theorem start (deaf : String → Prop) (w : Workload) (rpcTimeout : Duration) :
    Telling deaf (Node.start w rpcTimeout) [] [] [] where
  mute := fun _ h => by cases h
  balance := .inr .nil
  written := .nil
  lost := fun _ h => absurd h List.not_mem_nil

private theorem congr (htelling : Telling deaf n ds told lost) (hmode : n'.mode = n.mode := by rfl)
    (htasks : n'.tasks = n.tasks := by rfl) (hwritten : n'.written = n.written := by rfl)
    (hverdict : n'.verdict = n.verdict := by rfl) : Telling deaf n' ds told lost :=
  ⟨hmode ▸ htelling.mute, htasks ▸ hverdict ▸ htelling.balance, hwritten ▸ htelling.written,
    htelling.lost⟩

private theorem spawn (htelling : Telling deaf n ds told lost) {role : Role} {m : Message}
    {stage : Stage w.Job}
    (hnew : Task.untold ⟨n.nextTask, role, m, stage, .empty⟩ = []) :
    Telling deaf (n.spawn role m stage) ds told lost := by
  refine ⟨htelling.mute, htelling.balance.imp_right fun hbalance =>
    ?_, htelling.written, htelling.lost⟩
  rwa [Node.spawn, List.flatMap_append, List.flatMap_singleton, hnew, List.append_nil]

private theorem stop (htelling : Telling deaf n ds told lost) (e : NodeError) :
    Telling deaf (n.stop e) ds told lost := by
  have hverdict := verdict_stop n e
  obtain ⟨g, -, hstop⟩ := stop_eq n e
  rw [hstop] at hverdict ⊢
  exact ⟨htelling.mute, .inl ⟨e, rfl⟩, htelling.written, htelling.lost⟩

private theorem routed (htelling : Telling deaf n ds told lost) {m : Message} (h : Routed n m n') :
    Telling deaf n' ds told lost := by
  cases h with
  | taken id callback reply waits => exact Telling.spawn htelling.congr rfl
  | dropped id reply waits => exact htelling.congr
  | initialise request kind => exact Telling.spawn htelling.congr rfl
  | handled handler request kind serves => exact Telling.spawn htelling.congr rfl

private theorem line (htelling : Telling deaf n ds told lost) (bytes : List UInt8) :
    Telling deaf (n.receiveBytes bytes) ds told lost := by
  rw [receiveBytes_eq_take]
  split
  · exact htelling
  · cases hread : Reading.ofBytes bytes with
    | blank => exact htelling
    | refused e => exact htelling.stop e
    | message m text =>
      cases hfault : (Reading.message m text).fault? w.handlers.contains with
      | none => exact htelling.routed (take_routed hfault)
      | some e =>
        rw [take_of_fault hfault]
        exact Telling.stop htelling.congr e

private theorem stepTask (bare : w.handlers.get? "init" = none) (hc : n.Candid)
    (htelling : Telling deaf n ds told lost) (ht : t ∈ n.tasks) (now : Nat) (stamp : Stamp) :
    ∃ told' lost', Telling deaf (n.stepTask now stamp t) (ds ++ n.settles t) told' lost' := by
  obtain ⟨more, missed, hbalance, ⟨lines, hwritten, hlines⟩, hmissed⟩ :=
    stepTask_tells bare hc ht now stamp
  have hcourse := SameCourse.stepTask n now stamp t
  obtain ⟨others, hbefore, hafter⟩ :=
    hc.cast.numbered.flatMap_turn ht (untold_receiving t) now stamp
  refine ⟨told ++ more, lost ++ missed, hcourse.mode ▸ htelling.mute, ?_, ?_, fun d hd => ?_⟩
  · rw [hcourse.verdict]
    refine htelling.balance.imp_right fun hperm => ?_
    generalize ((n.stepTask now stamp t).task? t.id).toList.flatMap Task.untold =
      own at hbalance hafter
    rw [List.filter_append]
    simp only [← Multiset.coe_eq_coe, ← Multiset.coe_add] at hbalance hbefore hafter hperm ⊢
    rw [hbefore] at hperm
    calc _ = (told + lost + others : Multiset Decision) + (more + missed + own) := by
          rw [hafter]
          ac_rfl
      _ = (told + lost + (others + t.untold) : Multiset Decision) +
          (n.settles t).filter Decision.isHeard := by
          rw [← hbalance]
          ac_rfl
      _ = _ := by rw [hperm]
  · rw [hwritten]
    exact sublistForall₂_append htelling.written hlines
  · rcases List.mem_append.mp hd with hd | hd
    · exact htelling.lost d hd
    · exact htelling.mute _ (hmissed d hd)

private theorem apply (bare : w.handlers.get? "init" = none) (hc : n.Candid)
    (htelling : Telling deaf n ds told lost)
    {e : Event w} (muted : ∀ mode dest, e = .setMode mode → (mode.outcome dest).1 = false →
      deaf dest) :
    ∃ told' lost', Telling deaf (n.apply e) (ds ++ n.decides e) told' lost' := by
  cases e with
  | line bytes =>
    simp only [decides, List.append_nil]
    exact ⟨told, lost, htelling.line bytes⟩
  | step now stamp id =>
    simp only [decides, Node.apply, Node.step]
    cases ht : n.task? id with
    | none => exact ⟨told, lost, by simpa using htelling⟩
    | some t => simpa using htelling.stepTask bare hc (mem_of_task? ht).1 now stamp
  | settle =>
    simp only [decides, List.append_nil, Node.apply, settle]
    split
    · rename_i hover
      refine ⟨told, lost, htelling.mute, .inr ?_, htelling.written, htelling.lost⟩
      refine htelling.balance.resolve_left ?_
      rintro ⟨e, he⟩
      rw [he] at hover
      exact absurd hover.1 (by simp)
    · exact ⟨told, lost, htelling⟩
  | cancel =>
    simp only [decides, List.append_nil]
    exact ⟨told, lost, htelling.congr⟩
  | setMode mode =>
    simp only [decides, List.append_nil]
    exact ⟨told, lost, fun dest =>
      muted mode dest rfl, htelling.balance, htelling.written, htelling.lost⟩
  | client job =>
    simp only [decides, List.append_nil]
    exact ⟨told, lost, htelling.spawn rfl⟩

theorem run (bare : w.handlers.get? "init" = none) (hw : w.Discreet) (hc : n.Candid)
    (htelling : Telling deaf n ds told lost) {events : List (Event w)}
    (muted : ∀ mode dest, .setMode mode ∈ events → (mode.outcome dest).1 = false → deaf dest) :
    ∃ told' lost', Telling deaf (n.run events) (ds ++ n.decisions events) told' lost' := by
  induction events generalizing n ds told lost with
  | nil => exact ⟨told, lost, by simpa [decisions, record] using htelling⟩
  | cons e events ih =>
    obtain ⟨told', lost', hfirst⟩ := htelling.apply bare hc (e := e) fun mode dest he =>
      muted mode dest (he ▸ List.mem_cons_self)
    rw [run_cons, decisions, record, ← decisions, ← List.append_assoc]
    exact ih (hc.apply bare hw e).1 hfirst fun mode dest he =>
      muted mode dest (List.mem_cons_of_mem _ he)

end Telling

end Node

end ClusterNode
