import ClusterNode.Proofs.Node.Tasks

/-!
The frame of a step: what a step of a task leaves alone. The course of the node stays as it is and
what was written stays written; the step puts at most one task in the place of the one that moved,
and of the other tasks it touches nothing but the mailbox of the one that a reply is handed to.
-/

set_option autoImplicit false

namespace ClusterNode

variable {w : Workload}

/-- A task as it is after another one has moved: a reply on its way to it is there. -/
def Task.receiving {Job : Type} (t x : Task Job) : Task Job :=
  match t.stage with
  | .hand task id =>
    if x.id = task ∧ x.callId? = some id then { x with mailbox := .full t.message } else x
  | _ => x

@[simp] theorem Task.receiving_id {Job : Type} (t x : Task Job) : (t.receiving x).id = x.id := by
  simp only [receiving]
  split
  · split <;> rfl
  · rfl

@[simp] theorem Task.receiving_role {Job : Type} (t x : Task Job) :
    (t.receiving x).role = x.role := by
  simp only [receiving]
  split
  · split <;> rfl
  · rfl

@[simp] theorem Task.receiving_message {Job : Type} (t x : Task Job) :
    (t.receiving x).message = x.message := by
  simp only [receiving]
  split
  · split <;> rfl
  · rfl

@[simp] theorem Task.receiving_stage {Job : Type} (t x : Task Job) :
    (t.receiving x).stage = x.stage := by
  simp only [receiving]
  split
  · split <;> rfl
  · rfl

theorem Task.receiving_cases {Job : Type} (t x : Task Job) :
    t.receiving x = x ∨ ∃ id, t.stage = .hand x.id id ∧ x.callId? = some id ∧
      t.receiving x = { x with mailbox := .full t.message } := by
  cases hs : t.stage with
  | hand task id =>
    by_cases h : x.id = task ∧ x.callId? = some id
    · obtain ⟨rfl, hc⟩ := h
      exact .inr ⟨id, rfl, hc, by simp [receiving, hs, hc]⟩
    · exact .inl (by simp only [receiving, hs, h, if_false])
  | _ => exact .inl (by simp only [receiving, hs])

theorem Task.receiving_eq_self {Job : Type} {t : Task Job}
    (h : ∀ task id, t.stage ≠ .hand task id) (x : Task Job) : t.receiving x = x := by
  cases hs : t.stage with
  | hand task id => exact absurd hs (h task id)
  | _ => simp only [receiving, hs]

namespace Node

structure SameCourse (n n' : Node w) : Prop where
  rpcTimeout : n'.rpcTimeout = n.rpcTimeout
  mode : n'.mode = n.mode
  nextTask : n'.nextTask = n.nextTask
  cancelled : n'.cancelled = n.cancelled
  verdict : n'.verdict = n.verdict
  written : n.written <+: n'.written

private theorem overdue?_eq_some {now : Nat} {dest : String} {limit : Option (Nat × Duration)}
    {e : NodeError} :
    overdue? now dest limit = some e ↔
      ∃ deadline after, limit = some (deadline, after) ∧ deadline < now ∧
        e = .timeout dest after := by
  cases limit with
  | none => simp [overdue?]
  | some limit => simp [overdue?, Prod.ext_iff, eq_comm]

/-- What becomes of the request of a call: it is broken off, it is out and being flushed, or it is
written like any other. -/
inductive Placed (n : Node w) (now : Nat) (dest : String) (id : UInt64) (body : Json)
    (limit : Option (Nat × Duration)) : Except NodeError Bool × Node w → Prop
  | brokenOff (deadline : Nat) (after : Duration) (limited : limit = some (deadline, after))
      (late : deadline < now) : Placed n now dest id body limit (.error (.timeout dest after), n)
  | unflushed (stalling : n.mode = .stallingFlush) :
      Placed n now dest id body limit (.ok false, n.emit dest body)
  | written {n' : Node w} (write : n.writeRequest dest id body = (.ok (), n')) :
      Placed n now dest id body limit (.ok true, n')
  | failed {n' : Node w} (e : NodeError) (write : n.writeRequest dest id body = (.error e, n')) :
      Placed n now dest id body limit (.error e, n')

theorem writeCall_placed (n : Node w) (now : Nat) (dest : String) (id : UInt64) (body : Json)
    (limit : Option (Nat × Duration)) :
    Placed n now dest id body limit (n.writeCall now dest id body limit) := by
  simp only [writeCall]
  split
  · rename_i e he
    obtain ⟨deadline, after, hlimit, hlate, rfl⟩ := overdue?_eq_some.mp he
    exact .brokenOff deadline after hlimit hlate
  · split
    · exact .unflushed ‹_›
    · cases hwrite : n.writeRequest dest id body with
      | mk result n' =>
        cases result with
        | ok _ => exact .written hwrite
        | error e => exact .failed e hwrite

/-- What becomes of a flush: it goes on, it is given up at the deadline, or it is over. -/
inductive Flushed (n : Node w) (now : Nat) (wait : Wait w.Job) :
    Option (Except NodeError Unit × Node w) → Prop
  | goesOn (stalling : n.mode = .stallingFlush) : Flushed n now wait none
  | brokenOff (deadline : Nat) (after : Duration) (limited : wait.limit = some (deadline, after))
      (late : deadline ≤ now) (stalling : n.mode = .stallingFlush) :
      Flushed n now wait (some (.error (.timeout wait.dest after), n))
  | ended (moving : n.mode ≠ .stallingFlush) (succeeds : (n.mode.outcome wait.dest).2 = true) :
      Flushed n now wait (some (.ok (), { n with metrics := n.metrics.countSent.countRpcSent }))
  | failed (moving : n.mode ≠ .stallingFlush) (fails : (n.mode.outcome wait.dest).2 = false) :
      Flushed n now wait (some (.error (.io "output closed"), { n with
        metrics := n.metrics.countSendFailure
        pending := (n.pending.cancel wait.id).2 }))

theorem flushCall?_flushed (n : Node w) (now : Nat) (wait : Wait w.Job) :
    Flushed n now wait (n.flushCall? now wait) := by
  simp only [flushCall?]
  split
  · rename_i hstalling
    split
    · split
      · exact .brokenOff _ _ ‹_› ‹_› hstalling
      · exact .goesOn hstalling
    · exact .goesOn hstalling
  · rename_i hmoving
    simp only [endWrite]
    cases hsucceeds : (n.mode.outcome wait.dest).2 with
    | true => exact .ended hmoving hsucceeds
    | false => exact .failed hmoving hsucceeds

namespace SameCourse

variable {n n₁ : Node w}

protected theorem refl (n : Node w) : SameCourse n n := ⟨rfl, rfl, rfl, rfl, rfl, List.prefix_rfl⟩

private theorem goTo (h : SameCourse n n₁) (id : Nat) (stage : Stage w.Job) :
    SameCourse n (n₁.goTo id stage) := ⟨h.1, h.2, h.3, h.4, h.5, h.6⟩

private theorem remove (h : SameCourse n n₁) (id : Nat) : SameCourse n (n₁.remove id) :=
  ⟨h.1, h.2, h.3, h.4, h.5, h.6⟩

private theorem write (n : Node w) (dest : String) (body : Json) :
    SameCourse n (n.write dest body).2 := by
  simp only [Node.write, Node.endWrite]
  split <;> split <;> exact ⟨rfl, rfl, rfl, rfl, rfl, by simp [emit]⟩

private theorem send (n : Node w) (dest : String) (payload : Json) :
    SameCourse n (n.send dest payload).2 := by
  simp only [Node.send]
  split
  · exact write _ _ _
  · exact .refl n

private theorem reply (n : Node w) (request : Message) (payload : Json) :
    SameCourse n (n.reply request payload).2 := by
  simp only [Node.reply]
  split
  · exact .refl n
  · split
    · exact write _ _ _
    · exact .refl n

private theorem writeRequest (n : Node w) (dest : String) (id : UInt64) (body : Json) :
    SameCourse n (n.writeRequest dest id body).2 := by
  have h := write n dest body
  simp only [Node.writeRequest, endRequest]
  split <;> rename_i heq <;> rw [heq] at h <;> exact ⟨h.1, h.2, h.3, h.4, h.5, h.6⟩

private theorem writeCall (n : Node w) (now : Nat) (dest : String) (id : UInt64) (body : Json)
    (limit : Option (Nat × Duration)) : SameCourse n (n.writeCall now dest id body limit).2 := by
  have hwritten := writeRequest n dest id body
  have hplaced := n.writeCall_placed now dest id body limit
  generalize n.writeCall now dest id body limit = placed at hplaced ⊢
  cases hplaced with
  | brokenOff => exact .refl n
  | unflushed => exact ⟨rfl, rfl, rfl, rfl, rfl, by simp [emit]⟩
  | written h => rwa [h] at hwritten
  | failed e h => rwa [h] at hwritten

private theorem register (n : Node w) (payload : Json) (callback : Callback w.Job) :
    SameCourse n (n.register payload callback).2 := by
  simp only [Node.register]
  split <;> exact ⟨rfl, rfl, rfl, rfl, rfl, List.prefix_rfl⟩

private theorem act (n : Node w) (now : Nat) (stamp : Stamp) (t : Task w.Job)
    (action : Action w.Job) :
    SameCourse n (n.act now stamp t action) := by
  cases action with
  | finish result =>
    simp only [Node.act]
    split <;> exact ⟨rfl, rfl, rfl, rfl, rfl, List.prefix_rfl⟩
  | send dest payload next => exact (send n dest payload).goTo _ _
  | reply payload next => exact (reply n t.message payload).goTo _ _
  | call dest payload patience next =>
    have h := register n payload (.deliver t.id)
    simp only [Node.act]
    split <;> rename_i heq <;> rw [heq] at h <;> exact ⟨h.1, h.2, h.3, h.4, h.5, h.6⟩
  | ask dest payload onReply next =>
    have h := register n payload (.start onReply)
    simp only [Node.act]
    split <;> rename_i heq <;> rw [heq] at h <;> exact ⟨h.1, h.2, h.3, h.4, h.5, h.6⟩
  | _ => exact ⟨rfl, rfl, rfl, rfl, rfl, List.prefix_rfl⟩

theorem adopt (n : Node w) (t : Task w.Job) : SameCourse n (n.adopt t) := by
  simp only [Node.adopt]
  split
  · exact ⟨rfl, rfl, rfl, rfl, rfl, List.prefix_rfl⟩
  · exact ⟨rfl, rfl, rfl, rfl, rfl, List.prefix_rfl⟩
  · simp only [Node.init]
    cases n.identity with
    | some identity => exact ⟨rfl, rfl, rfl, rfl, rfl, List.prefix_rfl⟩
    | none =>
      dsimp only
      split <;> exact ⟨rfl, rfl, rfl, rfl, rfl, List.prefix_rfl⟩

private theorem conclude (n : Node w) (t : Task w.Job) (result : Except NodeError Unit) :
    SameCourse n (n.conclude t result) := by
  simp only [Node.conclude]
  split
  · exact ⟨rfl, rfl, rfl, rfl, rfl, List.prefix_rfl⟩
  · split <;> exact ⟨rfl, rfl, rfl, rfl, rfl, List.prefix_rfl⟩

theorem stepTask (n : Node w) (now : Nat) (stamp : Stamp) (t : Task w.Job) :
    SameCourse n (n.stepTask now stamp t) := by
  cases hs : t.stage with
  | fresh job => simp only [Node.stepTask, hs]; exact ⟨rfl, rfl, rfl, rfl, rfl, List.prefix_rfl⟩
  | adopt => simp only [Node.stepTask, hs]; exact adopt n t
  | work job =>
    have h := act { n with shared := (w.step n.view n.shared job).2 } now stamp t
      (w.step n.view n.shared job).1
    simp only [Node.stepTask, hs]
    exact ⟨h.1, h.2, h.3, h.4, h.5, h.6⟩
  | post dest id body next =>
    simp only [Node.stepTask, hs]; exact (writeRequest n dest id body).goTo _ _
  | dial dest id body limit next =>
    have h := writeCall n now dest id body limit
    simp only [Node.stepTask, hs]
    split <;> rename_i heq <;> rw [heq] at h <;> exact h.goTo _ _
  | flush wait =>
    simp only [Node.stepTask, hs]
    have hflushed := n.flushCall?_flushed now wait
    generalize n.flushCall? now wait = flushed at hflushed ⊢
    cases hflushed <;> exact ⟨rfl, rfl, rfl, rfl, rfl, List.prefix_rfl⟩
  | wait wait =>
    simp only [Node.stepTask, hs]; split <;> exact ⟨rfl, rfl, rfl, rfl, rfl, List.prefix_rfl⟩
  | sleep wake next =>
    simp only [Node.stepTask, hs]; split <;> exact ⟨rfl, rfl, rfl, rfl, rfl, List.prefix_rfl⟩
  | confirm => simp only [Node.stepTask, hs]; exact (reply n t.message _).goTo _ _
  | conclude result => simp only [Node.stepTask, hs]; exact conclude n t result
  | refuse e => simp only [Node.stepTask, hs]; exact (reply n t.message _).remove _
  | hand task id => simp only [Node.stepTask, hs]; exact ⟨rfl, rfl, rfl, rfl, rfl, List.prefix_rfl⟩

end SameCourse

/-- What a step leaves in the place of the task that moved: itself, changed or not, or nothing. -/
inductive Moved (n : Node w) (t : Task w.Job) (n' : Node w) : Prop
  | stays (h : n'.tasks = n.tasks)
  | becomes (f : Task w.Job → Task w.Job)
      (keeps : ∀ x, (f x).id = x.id ∧ (f x).role = x.role ∧ (f x).message = x.message)
      (h : n'.tasks = (n.update t.id f).tasks)
  | leaves (h : n'.tasks = (n.remove t.id).tasks)

namespace Moved

variable {n n₁ n₂ : Node w} {t : Task w.Job}

private theorem update {f : Task w.Job → Task w.Job}
    (keeps : ∀ x, (f x).id = x.id ∧ (f x).role = x.role ∧ (f x).message = x.message)
    (h : n₁.tasks = n.tasks := by rfl) : Moved n t (n₁.update t.id f) :=
  .becomes f keeps (by simp only [Node.update, h])

private theorem goTo (stage : Stage w.Job) (h : n₁.tasks = n.tasks := by rfl) :
    Moved n t (n₁.goTo t.id stage) :=
  .update (fun _ => ⟨rfl, rfl, rfl⟩) h

private theorem remove (h : n₁.tasks = n.tasks := by rfl) : Moved n t (n₁.remove t.id) :=
  .leaves (by simp only [Node.remove, h])

end Moved

@[simp] theorem write_tasks (n : Node w) (dest : String) (body : Json) :
    (n.write dest body).2.tasks = n.tasks := by
  simp only [write, endWrite]
  split <;> split <;> rfl

@[simp] theorem send_tasks (n : Node w) (dest : String) (payload : Json) :
    (n.send dest payload).2.tasks = n.tasks := by
  simp only [send]
  split <;> simp

@[simp] theorem reply_tasks (n : Node w) (request : Message) (payload : Json) :
    (n.reply request payload).2.tasks = n.tasks := by
  simp only [reply]
  split
  · rfl
  · split <;> simp

@[simp] theorem writeRequest_tasks (n : Node w) (dest : String) (id : UInt64) (body : Json) :
    (n.writeRequest dest id body).2.tasks = n.tasks := by
  have h := write_tasks n dest body
  simp only [writeRequest, endRequest]
  split <;> rename_i heq <;> rw [heq] at h <;> exact h

@[simp] theorem writeCall_tasks (n : Node w) (now : Nat) (dest : String) (id : UInt64) (body : Json)
    (limit : Option (Nat × Duration)) : (n.writeCall now dest id body limit).2.tasks = n.tasks := by
  have hwritten := writeRequest_tasks n dest id body
  have hplaced := n.writeCall_placed now dest id body limit
  generalize n.writeCall now dest id body limit = placed at hplaced ⊢
  cases hplaced with
  | brokenOff => rfl
  | unflushed => rfl
  | written h => rwa [h] at hwritten
  | failed e h => rwa [h] at hwritten

@[simp] theorem register_tasks (n : Node w) (payload : Json) (callback : Callback w.Job) :
    (n.register payload callback).2.tasks = n.tasks := by
  simp only [register]
  split <;> rfl

private theorem act_moved (n : Node w) (now : Nat) (stamp : Stamp) (t : Task w.Job)
    (action : Action w.Job) : Moved n t (n.act now stamp t action) := by
  cases action with
  | finish result =>
    simp only [act]
    split
    · exact .goTo _
    · exact .goTo _
    · exact .goTo _
    · exact .remove
    · exact .remove
  | abandon => exact .remove
  | send dest payload next => exact .goTo _ (send_tasks n dest payload)
  | reply payload next => exact .goTo _ (reply_tasks n t.message payload)
  | call dest payload patience next =>
    have h := register_tasks n payload (.deliver t.id)
    simp only [act]
    split <;> rename_i heq <;> rw [heq] at h
    · exact .update (fun _ => ⟨rfl, rfl, rfl⟩) h
    · exact .goTo _ h
  | ask dest payload onReply next =>
    have h := register_tasks n payload (.start onReply)
    simp only [act]
    split <;> rename_i heq <;> rw [heq] at h <;> exact .goTo _ h
  | _ => exact .goTo _

private theorem adopt_moved (n : Node w) (t : Task w.Job) : Moved n t (n.adopt t) := by
  simp only [adopt]
  split
  · exact .goTo _
  · exact .goTo _
  · simp only [init]
    cases n.identity with
    | some identity => exact .goTo _
    | none =>
      simp only
      split <;> exact .goTo _

private theorem conclude_moved (n : Node w) (t : Task w.Job) (result : Except NodeError Unit) :
    Moved n t (n.conclude t result) := by
  simp only [conclude]
  split
  · exact .remove
  · split <;> exact .goTo _

private theorem stepTask_moved (n : Node w) (now : Nat) (stamp : Stamp) {t : Task w.Job}
    (ht : ∀ task id, t.stage ≠ .hand task id) : Moved n t (n.stepTask now stamp t) := by
  cases hs : t.stage with
  | fresh job => simp only [stepTask, hs]; exact .goTo _
  | adopt => simp only [stepTask, hs]; exact adopt_moved n t
  | work job =>
    have h := act_moved { n with shared := (w.step n.view n.shared job).2 } now stamp t
      (w.step n.view n.shared job).1
    simp only [stepTask, hs]
    cases h with
    | stays h => exact .stays h
    | becomes f keeps h => exact .becomes f keeps h
    | leaves h => exact .leaves h
  | post dest id body next =>
    simp only [stepTask, hs]; exact .goTo _ (writeRequest_tasks n dest id body)
  | dial dest id body limit next =>
    have h := writeCall_tasks n now dest id body limit
    simp only [stepTask, hs]
    split <;> rename_i heq <;> rw [heq] at h <;> exact .goTo _ h
  | flush wait =>
    simp only [stepTask, hs]
    have hflushed := n.flushCall?_flushed now wait
    generalize n.flushCall? now wait = flushed at hflushed ⊢
    cases hflushed with
    | goesOn => exact .stays rfl
    | brokenOff => exact .goTo _
    | ended => exact .goTo _
    | failed => exact .goTo _
  | wait wait =>
    simp only [stepTask, hs]
    split
    · exact .update fun _ => ⟨rfl, rfl, rfl⟩
    · exact .stays rfl
  | sleep wake next =>
    simp only [stepTask, hs]
    split
    · exact .goTo _
    · exact .stays rfl
  | confirm => simp only [stepTask, hs]; exact .goTo _ (reply_tasks n t.message _)
  | conclude result => simp only [stepTask, hs]; exact conclude_moved n t result
  | refuse e => simp only [stepTask, hs]; exact .remove (reply_tasks n t.message _)
  | hand task id => exact absurd hs (ht task id)

theorem Around.stepTask {n : Node w} {t : Task w.Job} {before after : List (Task w.Job)}
    (h : n.Around before t after) (now : Nat) (stamp : Stamp) :
    ∃ o : Option (Task w.Job), (∀ x ∈ o, x.id = t.id ∧ x.role = t.role ∧ x.message = t.message) ∧
      (n.stepTask now stamp t).tasks =
        before.map t.receiving ++ o.toList ++ after.map t.receiving := by
  by_cases ht : ∃ task id, t.stage = .hand task id
  · obtain ⟨task, id, hs⟩ := ht
    have hreceive : ∀ x, t.receiving x =
        if x.id = task then (if x.callId? =
          some id then { x with mailbox := .full t.message } else x)
        else x := by
      intro x
      by_cases hx : x.id = task <;> simp [Task.receiving, hs, hx]
    have hmap : (n.post task id (.full t.message)).tasks = n.tasks.map t.receiving := by
      simp only [post]
      exact List.map_congr_left fun x _ => (hreceive x).symm
    have hself : (t.receiving t).id = t.id := t.receiving_id t
    have hpost : (n.post task id (.full t.message)).Around (before.map t.receiving) (t.receiving t)
        (after.map t.receiving) := by
      refine ⟨by rw [hmap, h.tasks]; simp, ?_, ?_⟩
      · intro x hx
        obtain ⟨y, hy, rfl⟩ := List.mem_map.mp hx
        simpa using h.before_ne y hy
      · intro x hx
        obtain ⟨y, hy, rfl⟩ := List.mem_map.mp hx
        simpa using h.after_ne y hy
    refine ⟨none, by simp, ?_⟩
    have hremove := hpost.remove
    rw [hself] at hremove
    simp only [Node.stepTask, hs, hremove, Option.toList_none, List.append_nil]
  · have ht : ∀ task id, t.stage ≠ .hand task id := fun task id hs => ht ⟨task, id, hs⟩
    have hid : ∀ l : List (Task w.Job), l.map t.receiving = l := fun l => by
      conv_rhs => rw [← List.map_id l]
      exact List.map_congr_left fun x _ => t.receiving_eq_self ht x
    rw [hid, hid]
    cases stepTask_moved n now stamp ht with
    | stays hm => exact ⟨some t, by simp, by rw [hm, h.tasks]; simp⟩
    | becomes f keeps hm => exact ⟨some (f t), by simpa using keeps t, by rw [hm, h.update]; simp⟩
    | leaves hm => exact ⟨none, by simp, by rw [hm, h.remove]; simp⟩

section Frame

variable {n : Node w} {t : Task w.Job} (now : Nat) (stamp : Stamp)

theorem Numbered.stepTask (hn : n.Numbered) (ht : t ∈ n.tasks) :
    (n.stepTask now stamp t).Numbered := by
  obtain ⟨before, after, ha⟩ := hn.around ht
  obtain ⟨o, ho, htasks⟩ := ha.stepTask now stamp
  have hmap : ∀ l : List (Task w.Job), (l.map t.receiving).map Task.id = l.map Task.id :=
    fun l => by simp [Function.comp_def]
  have hsub : ((n.stepTask now stamp t).tasks.map Task.id).Sublist (n.tasks.map Task.id) := by
    rw [htasks, ha.tasks]
    simp only [List.map_append, hmap, List.map_cons, List.append_assoc]
    refine List.Sublist.append_left ?_ _
    cases o with
    | none => simp
    | some x => simp [(ho x rfl).1]
  refine ⟨hn.nodup.sublist hsub, fun x hx => ?_⟩
  obtain ⟨y, hy, hid⟩ := List.mem_map.mp (hsub.subset (List.mem_map_of_mem hx))
  rw [← hid, (SameCourse.stepTask n now stamp t).nextTask]
  exact hn.below y hy

theorem mem_stepTask_iff_of_ne (hn : n.Numbered) (ht : t ∈ n.tasks) {x : Task w.Job}
    (hx : x.id ≠ t.id) :
    x ∈ (n.stepTask now stamp t).tasks ↔ ∃ y ∈ n.tasks, y.id ≠ t.id ∧ x = t.receiving y := by
  obtain ⟨before, after, ha⟩ := hn.around ht
  obtain ⟨o, ho, htasks⟩ := ha.stepTask now stamp
  have hout : x ∉ o.toList := fun h => hx (ho x (by simpa using h)).1
  simp only [htasks, ha.tasks, List.mem_append, List.mem_map, List.mem_cons, hout, or_false]
  constructor
  · rintro (⟨y, hy, rfl⟩ | ⟨y, hy, rfl⟩)
    · exact ⟨y, .inl hy, ha.before_ne y hy, rfl⟩
    · exact ⟨y, .inr (.inr hy), ha.after_ne y hy, rfl⟩
  · rintro ⟨y, hy | rfl | hy, hne, rfl⟩
    · exact .inl ⟨y, hy, rfl⟩
    · exact absurd rfl hne
    · exact .inr ⟨y, hy, rfl⟩

end Frame

end Node

end ClusterNode
