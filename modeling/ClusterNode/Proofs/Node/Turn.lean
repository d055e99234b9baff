import ClusterNode.Proofs.Node.Run

/-!
The turn of a task: what stands in its place after it has taken a step, where the step may have led
it, and that it stays at the stages of its role.
-/

set_option autoImplicit false

namespace ClusterNode

variable {w : Workload}

def Role.isRequest : Role → Bool
  | .initialise | .handle => true
  | .callback | .client => false

def Task.InRole {Job : Type} (t : Task Job) : Prop :=
  match t.stage with
  | .fresh none | .adopt | .confirm => t.role = .initialise
  | .fresh (some _) => t.role = .handle
  | .conclude _ | .refuse _ => t.role.isRequest
  | .hand _ _ => t.role = .callback
  | _ => True

def Stage.Busy {Job : Type} : Stage Job → Prop
  | .work _ | .post _ _ _ _ | .dial _ _ _ _ _ | .flush _ | .wait _ | .sleep _ _ => True
  | _ => False

private theorem Task.InRole.receiving {Job : Type} {t x : Task Job} (h : x.InRole) :
    (t.receiving x).InRole := by
  simpa only [Task.InRole, Task.receiving_stage, Task.receiving_role] using h

namespace Node

section Own

variable {n n₁ : Node w} {t x : Task w.Job}

theorem task?_remove (n : Node w) (id : Nat) : (n.remove id).task? id = none := by
  simp [task?, remove]

theorem Numbered.task?_update (hn : n.Numbered) (ht : t ∈ n.tasks) {f : Task w.Job → Task w.Job}
    (hf : (f t).id = t.id) (htasks : n₁.tasks = n.tasks := by rfl) :
    (n₁.update t.id f).task? t.id = some (f t) := by
  obtain ⟨before, after, ha⟩ := hn.around ht
  have ha' : n₁.Around before t after := ⟨htasks ▸ ha.tasks, ha.before_ne, ha.after_ne⟩
  have hbefore : before.find? (fun x => x.id = t.id) = none :=
    List.find?_eq_none.mpr fun x hx => by simpa using ha.before_ne x hx
  rw [Node.task?, ha'.update, List.find?_append, hbefore, Option.none_or,
    List.find?_cons_of_pos (by simpa using hf)]

theorem Numbered.task?_goTo (hn : n.Numbered) (ht : t ∈ n.tasks) (stage : Stage w.Job)
    (htasks : n₁.tasks = n.tasks := by rfl) :
    (n₁.goTo t.id stage).task? t.id = some { t with stage } :=
  hn.task?_update ht rfl htasks

/-- Around the task that moves, the others stay, and one of them may have received a reply. -/
theorem Numbered.turn (hn : n.Numbered) (ht : t ∈ n.tasks) (now : Nat) (stamp : Stamp) :
    ∃ before after, n.tasks = before ++ t :: after ∧
      (n.stepTask now stamp t).tasks = before.map t.receiving ++
        ((n.stepTask now stamp t).task? t.id).toList ++ after.map t.receiving ∧
      ∀ x, (n.stepTask now stamp t).task? t.id = some x → x.role = t.role ∧
        x.message = t.message := by
  obtain ⟨before, after, ha⟩ := hn.around ht
  obtain ⟨o, ho, htasks⟩ := ha.stepTask now stamp
  have hout : ∀ {l : List (Task w.Job)}, (∀ x ∈ l, x.id ≠ t.id) →
      (l.map t.receiving).find? (fun x => x.id = t.id) = none := by
    intro l hl
    refine List.find?_eq_none.mpr fun x hx => ?_
    obtain ⟨y, hy, rfl⟩ := List.mem_map.mp hx
    simpa using hl y hy
  have hown : (n.stepTask now stamp t).task? t.id = o := by
    rw [Node.task?, htasks, List.find?_append, List.find?_append, hout ha.before_ne,
      hout ha.after_ne]
    cases o with
    | none => rfl
    | some x => simp [(ho x rfl).1]
  refine ⟨before, after, ha.tasks, by rw [hown, htasks], fun x hx => ?_⟩
  rw [hown] at hx
  exact (ho x hx).2

theorem Numbered.role_turn (hn : n.Numbered) (ht : t ∈ n.tasks) {now : Nat} {stamp : Stamp}
    (hx : (n.stepTask now stamp t).task? t.id = some x) :
    x.role = t.role ∧ x.message = t.message := by
  obtain ⟨before, after, -, -, hown⟩ := hn.turn ht now stamp
  exact hown x hx

theorem Numbered.flatMap_turn {α : Type} (hn : n.Numbered) (ht : t ∈ n.tasks)
    {holds : Task w.Job → List α}
    (hholds : ∀ x, holds (t.receiving x) = holds x) (now : Nat) (stamp : Stamp) :
    ∃ others, (n.tasks.flatMap holds).Perm (others ++ holds t) ∧
      ((n.stepTask now stamp t).tasks.flatMap holds).Perm
        (others ++ ((n.stepTask now stamp t).task? t.id).toList.flatMap holds) := by
  obtain ⟨before, after, hbefore, hafter, -⟩ := hn.turn ht now stamp
  have hsame : ∀ l : List (Task w.Job), (l.map t.receiving).flatMap holds = l.flatMap holds :=
      fun l => by
    simp only [List.flatMap_map, hholds]
  have hperm : ∀ own : List α, (before.flatMap holds ++ (own ++ after.flatMap holds)).Perm
      (before.flatMap holds ++ after.flatMap holds ++ own) := fun own => by
    rw [List.append_assoc]
    exact List.Perm.append_left _ List.perm_append_comm
  refine ⟨before.flatMap holds ++ after.flatMap holds, ?_, ?_⟩
  · rw [hbefore, List.flatMap_append, List.flatMap_cons]
    exact hperm _
  · rw [hafter, List.flatMap_append, List.flatMap_append, hsame, hsame, List.append_assoc]
    exact hperm _

theorem Numbered.mem_turn (hn : n.Numbered) (ht : t ∈ n.tasks) {now : Nat} {stamp : Stamp}
    (hx : x ∈ (n.stepTask now stamp t).tasks) :
    (∃ y ∈ n.tasks, x = t.receiving y) ∨ (n.stepTask now stamp t).task? t.id = some x := by
  obtain ⟨before, after, hbefore, hafter, -⟩ := hn.turn ht now stamp
  rw [hafter] at hx
  rw [hbefore]
  simp only [List.mem_append, List.mem_map, Option.mem_toList] at hx
  rcases hx with (⟨y, hy, rfl⟩ | hx) | ⟨y, hy, rfl⟩
  · exact .inl ⟨y, List.mem_append_left _ hy, rfl⟩
  · exact .inr hx
  · exact .inl ⟨y, List.mem_append_right _ (List.mem_cons_of_mem _ hy), rfl⟩

end Own

inductive Leads (n : Node w) (t : Task w.Job) : Option (Stage w.Job) → Prop
  | stays : Leads n t (some t.stage)
  | begins (stage : t.stage = .fresh none) : Leads n t (some .adopt)
  | starts (job : w.Job) (stage : t.stage = .fresh (some job)) : Leads n t (some (.work job))
  | refused (e : NodeError) (stage : t.stage = .adopt) : Leads n t (some (.conclude (.error e)))
  | granted (stage : t.stage = .adopt) (handler : w.handlers.get? "init" = none) :
    Leads n t (some .confirm)
  | passedOn (handler : Message → w.Job) (stage : t.stage = .adopt)
      (serves : w.handlers.get? "init" = some handler) :
        Leads n t (some (.work (handler t.message)))
  | works (next : w.Job) (stage : t.stage.Busy) : Leads n t (some (.work next))
  | sleeps (wake : Nat) (next : w.Job) (stage : t.stage.Busy) : Leads n t (some (.sleep wake next))
  | calls (job : w.Job) (dest : String) (payload body : Json) (patience : Patience) (begun : Nat)
      (next : Except NodeError Message → w.Job) (id : UInt64) (stage : t.stage = .work job)
      (action : (w.step n.view n.shared job).1 = .call dest payload patience next)
      (stamped : encodeBody payload (some id) none = .ok body) :
      Leads n t (some (.dial dest id body (limitOf begun patience) next))
  | asks (job : w.Job) (dest : String) (payload body : Json) (onReply : Message → w.Job)
      (next : Except NodeError UInt64 → w.Job) (id : UInt64) (stage : t.stage = .work job)
      (action : (w.step n.view n.shared job).1 = .ask dest payload onReply next)
      (stamped : encodeBody payload (some id) none = .ok body) :
      Leads n t (some (.post dest id body next))
  | flushes (wait : Wait w.Job) (stage : t.stage.Busy) (stalling : n.mode = .stallingFlush) :
      Leads n t (some (.flush wait))
  | waits (wait : Wait w.Job) (stage : t.stage.Busy) : Leads n t (some (.wait wait))
  | finishes (stage : t.stage.Busy) (role : t.role = .initialise) : Leads n t (some .confirm)
  | returns (result : Except NodeError Unit) (stage : t.stage.Busy) (role : t.role.isRequest) :
      Leads n t (some (.conclude result))
  | confirmed (result : Except NodeError Unit) (stage : t.stage = .confirm) :
      Leads n t (some (.conclude result))
  | reports (e : NodeError) (stage : t.stage = .conclude (.error e)) :
      Leads n t (some (.refuse e.toRpcError))
  | leaves (stage : t.stage.Busy ∨ t.stage = .conclude (.ok ()) ∨ (∃ e, t.stage = .refuse e) ∨
      ∃ task id, t.stage = .hand task id) : Leads n t none

section Leads

variable {n n₁ : Node w} {t : Task w.Job}

private theorem Leads.goTo (hn : n.Numbered) (ht : t ∈ n.tasks) {stage : Stage w.Job}
    (h : Leads n t (some stage)) (htasks : n₁.tasks = n.tasks := by rfl) :
    Leads n t (((n₁.goTo t.id stage).task? t.id).map Task.stage) := by
  rw [hn.task?_goTo ht stage htasks]
  exact h

private theorem Leads.remove (h : Leads n t none) :
    Leads n t (((n₁.remove t.id).task? t.id).map Task.stage) := by
  rw [task?_remove]
  exact h

theorem Leads.flushed {stage : Stage w.Job} (h : Leads n t (some stage)) (hmode : n.mode = .working)
    (hflushed : ∀ wait, t.stage ≠ .flush wait) (wait : Wait w.Job) : stage ≠ .flush wait := by
  cases h with
  | stays => exact hflushed wait
  | flushes _ _ stalling =>
    rw [hmode] at stalling
    cases stalling
  | _ => simp

private theorem act_leads (hn : n.Numbered) (ht : t ∈ n.tasks) (now : Nat) (stamp : Stamp)
    {job : w.Job} (hs : t.stage = .work job) {shared : w.Shared} :
    Leads n t
      (((({ n with shared } : Node w).act now stamp t (w.step n.view n.shared job).1).task?
        t.id).map Task.stage) := by
  have hbusy : t.stage.Busy := by
    rw [hs]
    trivial
  have hgone : Leads n t none := .leaves (.inl hbusy)
  cases haction : (w.step n.view n.shared job).1 with
  | finish result =>
    have hreturns : t.role.isRequest →
        Leads n t (((({ n with shared } : Node w).goTo t.id (.conclude result)).task? t.id).map
            Task.stage) :=
      fun hrole => .goTo hn ht (.returns result hbusy hrole)
    simp only [act]
    split
    · exact .goTo hn ht (.finishes hbusy ‹_›)
    · exact hreturns (by simp only [*]; rfl)
    · exact hreturns (by simp only [*]; rfl)
    · exact .remove hgone
    · exact .remove hgone
  | abandon => exact .remove hgone
  | send dest payload next => exact .goTo hn ht (.works _ hbusy) (send_tasks _ dest payload)
  | reply payload next => exact .goTo hn ht (.works _ hbusy) (reply_tasks _ t.message payload)
  | call dest payload patience next =>
    simp only [act, register]
    cases payload with
    | object fields =>
      simp only [encodeBody]
      rw [hn.task?_update ht rfl]
      exact .calls job dest (.object fields) _ patience now next _ hs haction rfl
    | _ => exact .goTo hn ht (.works _ hbusy)
  | ask dest payload onReply next =>
    simp only [act, register]
    cases payload with
    | object fields =>
      exact .goTo hn ht (.asks job dest (.object fields) _ onReply next _ hs haction rfl)
    | _ => exact .goTo hn ht (.works _ hbusy)
  | sleep d next => exact .goTo hn ht (.sleeps _ next hbusy)
  | _ => exact .goTo hn ht (.works _ hbusy)

private theorem adopt_leads (hn : n.Numbered) (ht : t ∈ n.tasks) (hs : t.stage = .adopt) :
    Leads n t (((n.adopt t).task? t.id).map Task.stage) := by
  simp only [adopt]
  split
  · exact .goTo hn ht (.refused _ hs)
  · exact .goTo hn ht (.refused _ hs)
  · simp only [init]
    cases n.identity with
    | some identity => exact .goTo hn ht (.refused _ hs)
    | none =>
      simp only
      split
      · exact .goTo hn ht (.passedOn _ hs ‹_›)
      · exact .goTo hn ht (.granted hs ‹_›)

private theorem conclude_leads (hn : n.Numbered) (ht : t ∈ n.tasks) {result : Except NodeError Unit}
    (hs : t.stage = .conclude result) :
    Leads n t (((n.conclude t result).task? t.id).map Task.stage) := by
  simp only [conclude]
  cases result with
  | ok u => exact .remove (.leaves (.inr (.inl hs)))
  | error e =>
    have hreports : Leads n t (some (.refuse e.toRpcError)) := .reports e hs
    rw [NodeError.toRpcError] at hreports
    simp only
    split <;> rename_i herror <;> rw [herror] at hreports <;> exact .goTo hn ht hreports

/-- Where a step leads the task that takes it. -/
theorem stepTask_leads (hn : n.Numbered) (ht : t ∈ n.tasks) (now : Nat) (stamp : Stamp) :
    Leads n t (((n.stepTask now stamp t).task? t.id).map Task.stage) := by
  have hstays : Leads n t ((n.task? t.id).map Task.stage) := by
    rw [hn.task? ht]
    exact .stays
  cases hs : t.stage with
  | fresh job =>
    simp only [stepTask, hs]
    cases job with
    | none => exact .goTo hn ht (.begins hs)
    | some job => exact .goTo hn ht (.starts job hs)
  | adopt =>
    simp only [stepTask, hs]
    exact adopt_leads hn ht hs
  | work job =>
    simp only [stepTask, hs]
    exact act_leads hn ht now stamp hs
  | post dest id body next =>
    simp only [stepTask, hs]
    exact .goTo hn ht (.works _ (hs ▸ trivial)) (writeRequest_tasks n dest id body)
  | dial dest id body limit next =>
    have htasks := writeCall_tasks n now dest id body limit
    have hplaced := n.writeCall_placed now dest id body limit
    simp only [stepTask, hs]
    generalize n.writeCall now dest id body limit = placed at htasks hplaced ⊢
    cases hplaced with
    | brokenOff => exact .goTo hn ht (.works _ (hs ▸ trivial))
    | unflushed stalling => exact .goTo hn ht (.flushes _ (hs ▸ trivial) stalling)
    | written => exact .goTo hn ht (.waits _ (hs ▸ trivial)) htasks
    | failed => exact .goTo hn ht (.works _ (hs ▸ trivial)) htasks
  | flush wait =>
    simp only [stepTask, hs]
    have hflushed := n.flushCall?_flushed now wait
    generalize n.flushCall? now wait = flushed at hflushed ⊢
    cases hflushed with
    | goesOn => exact hstays
    | brokenOff => exact .goTo hn ht (.works _ (hs ▸ trivial))
    | ended => exact .goTo hn ht (.waits _ (hs ▸ trivial))
    | failed => exact .goTo hn ht (.works _ (hs ▸ trivial))
  | wait wait =>
    simp only [stepTask, hs]
    split
    · rw [hn.task?_update ht rfl]
      exact .works _ (hs ▸ trivial)
    · exact hstays
  | sleep wake next =>
    simp only [stepTask, hs]
    split
    · exact .goTo hn ht (.works _ (hs ▸ trivial))
    · exact hstays
  | confirm =>
    simp only [stepTask, hs]
    exact .goTo hn ht (.confirmed _ hs) (reply_tasks n t.message _)
  | conclude result =>
    simp only [stepTask, hs]
    exact conclude_leads hn ht hs
  | refuse e =>
    simp only [stepTask, hs]
    exact .remove (.leaves (.inr (.inr (.inl ⟨e, hs⟩))))
  | hand task id =>
    simp only [stepTask, hs]
    exact .remove (.leaves (.inr (.inr (.inr ⟨task, id, hs⟩))))

theorem Numbered.own_turn (hn : n.Numbered) (ht : t ∈ n.tasks) {now : Nat} {stamp : Stamp}
    {x : Task w.Job}
    (hx : (n.stepTask now stamp t).task? t.id = some x) :
    x.role = t.role ∧ x.message = t.message ∧ Leads n t (some x.stage) := by
  have hleads := stepTask_leads hn ht now stamp
  rw [hx] at hleads
  exact ⟨(hn.role_turn ht hx).1, (hn.role_turn ht hx).2, hleads⟩

end Leads

section InRole

variable {n n₁ : Node w} {t x : Task w.Job}

private theorem inRole_own (hn : n.Numbered) (ht : t ∈ n.tasks) (hin : t.InRole) {now : Nat}
    {stamp : Stamp}
    (hx : (n.stepTask now stamp t).task? t.id = some x) : x.InRole := by
  obtain ⟨hrole, -, hleads⟩ := hn.own_turn ht hx
  unfold Task.InRole at hin ⊢
  rw [hrole]
  generalize x.stage = stage at hleads
  cases hleads with
  | stays => exact hin
  | begins hs => rw [hs] at hin; exact hin
  | refused e hs => rw [hs] at hin; simp only [hin]; rfl
  | granted hs handler => rw [hs] at hin; exact hin
  | finishes hs role => exact role
  | returns result hs role => exact role
  | confirmed result hs => rw [hs] at hin; simp only [hin]; rfl
  | reports e hs => rw [hs] at hin; exact hin
  | _ => trivial

structure Cast (n : Node w) : Prop where
  numbered : n.Numbered
  inRole : ∀ t ∈ n.tasks, t.InRole

namespace Cast

theorem start (w : Workload) (rpcTimeout : Duration) : (Node.start w rpcTimeout).Cast :=
  ⟨.start w rpcTimeout, fun _ ht => absurd ht List.not_mem_nil⟩

theorem stepTask (hc : n.Cast) (ht : t ∈ n.tasks) (now : Nat) (stamp : Stamp) :
    (n.stepTask now stamp t).Cast := by
  refine ⟨hc.numbered.stepTask now stamp ht, fun x hx => ?_⟩
  rcases hc.numbered.mem_turn ht hx with ⟨y, hy, rfl⟩ | hx
  · exact (hc.inRole y hy).receiving
  · exact inRole_own hc.numbered ht (hc.inRole t ht) hx

theorem stop (hc : n.Cast) (e : NodeError) : (n.stop e).Cast := by
  refine ⟨hc.numbered.stop e, fun x hx => ?_⟩
  obtain ⟨y, hy, -, rfl | rfl⟩ := mem_stop hx
  · exact hc.inRole x hy
  · exact hc.inRole y hy

theorem congr (hc : n.Cast) (htasks : n₁.tasks = n.tasks := by rfl)
    (hnext : n₁.nextTask = n.nextTask := by rfl) : n₁.Cast :=
  ⟨hc.numbered.congr htasks hnext, htasks ▸ hc.inRole⟩

theorem spawn (hc : n.Cast) {role : Role} {m : Message} {stage : Stage w.Job}
    (h : Task.InRole ⟨n.nextTask, role, m, stage, .empty⟩) : (n.spawn role m stage).Cast := by
  refine ⟨hc.numbered.spawn role m stage, fun x hx => ?_⟩
  rcases mem_spawn.mp hx with hx | rfl
  · exact hc.inRole x hx
  · exact h

private theorem take (hc : n.Cast) (r : Reading) : (n.take r).Cast := by
  have hreceived : ({ n with metrics := n.metrics.countReceived } : Node w).Cast := hc.congr
  cases r with
  | blank => exact hc
  | refused e => exact hc.stop e
  | message m line =>
    simp only [Node.take]
    split
    · simp only [receiveReply]
      split
      · split
        · exact (hreceived.congr).spawn rfl
        · exact (hreceived.congr).spawn trivial
      · exact hreceived.congr
    · simp only [receiveRequest]
      split
      · exact hreceived.spawn rfl
      · split
        · exact hreceived.spawn rfl
        · exact hreceived.stop _

theorem apply (hc : n.Cast) (e : Event w) : (n.apply e).Cast := by
  cases e with
  | line bytes =>
    simp only [Node.apply, receiveBytes_eq_take]
    split
    · exact hc
    · exact hc.take _
  | step now stamp id =>
    simp only [Node.apply, Node.step]
    cases h : n.task? id with
    | none => exact hc
    | some t => exact hc.stepTask (mem_of_task? h).1 now stamp
  | settle =>
    simp only [Node.apply, Node.settle]
    split
    · exact hc.congr
    · exact hc
  | cancel => exact hc.congr
  | setMode mode => exact hc.congr
  | client job => exact hc.spawn trivial

end Cast

end InRole

end Node

end ClusterNode
