import ClusterNode.Proofs.Node.History
import ClusterNode.Proofs.Node.Output

/-!
Steps that have nothing to do with requests: they leave the table of requests as it is, and no
number is in the hands of the task that moved.
-/

set_option autoImplicit false

namespace ClusterNode

variable {w : Workload}

def Stage.Idle {Job : Type} : Stage Job → Prop
  | .post _ _ _ _ | .dial _ _ _ _ _ | .flush _ | .wait _ | .hand _ _ => False
  | _ => True

def Action.IsRequest {Job : Type} : Action Job → Prop
  | .call _ _ _ _ | .ask _ _ _ _ => True
  | _ => False

namespace Node

structure Quiet (n : Node w) (t : Task w.Job) (n' : Node w) : Prop where
  pending : n'.pending = n.pending
  idle : ∀ x ∈ n'.tasks, x.id = t.id → x.stage.Idle

section Own

variable {n n₁ : Node w} {t x : Task w.Job}

theorem Numbered.eq_of_mem_update (hn : n.Numbered) (ht : t ∈ n.tasks) (h : n₁.tasks = n.tasks)
    {f : Task w.Job → Task w.Job} (hx : x ∈ (n₁.update t.id f).tasks) (hid : x.id = t.id) :
    x = f t := by
  rcases Node.mem_update.mp hx with ⟨-, hne⟩ | ⟨y, hy, hyid, rfl⟩
  · exact absurd hid hne
  · rw [hn.eq_of_id (h ▸ hy) ht hyid]

private theorem Quiet.goTo (hn : n.Numbered) (ht : t ∈ n.tasks) {stage : Stage w.Job}
    (idle : stage.Idle) (htasks : n₁.tasks = n.tasks := by rfl)
    (hpending : n₁.pending = n.pending := by rfl) : Quiet n t (n₁.goTo t.id stage) := by
  refine ⟨hpending, fun x hx hid => ?_⟩
  rw [hn.eq_of_mem_update ht htasks hx hid]
  exact idle

private theorem Quiet.remove (hpending : n₁.pending = n.pending := by rfl) :
    Quiet n t (n₁.remove t.id) :=
  ⟨hpending, fun _ hx hid => absurd hid (mem_remove.mp hx).2⟩

private theorem Quiet.refl (hn : n.Numbered) (ht : t ∈ n.tasks) (idle : t.stage.Idle) :
    Quiet n t n :=
  ⟨rfl, fun x hx hid => by rw [hn.eq_of_id hx ht hid]; exact idle⟩

end Own

section Quiet

variable {n : Node w} {t : Task w.Job}

private theorem act_quiet (hn : n.Numbered) (ht : t ∈ n.tasks) (now : Nat) (stamp : Stamp)
    {action : Action w.Job} (h : ¬ action.IsRequest) : Quiet n t (n.act now stamp t action) := by
  cases action with
  | finish result =>
    simp only [act]
    split
    · exact .goTo hn ht trivial
    · exact .goTo hn ht trivial
    · exact .goTo hn ht trivial
    · exact .remove
    · exact .remove
  | abandon => exact .remove
  | send dest payload next =>
    exact .goTo hn ht trivial (send_tasks n dest payload) (send_pending n dest payload)
  | reply payload next =>
    exact .goTo hn ht trivial (reply_tasks n t.message payload) (reply_pending n t.message payload)
  | call dest payload patience next => exact absurd trivial h
  | ask dest payload onReply next => exact absurd trivial h
  | _ => exact .goTo hn ht trivial

private theorem adopt_quiet (hn : n.Numbered) (ht : t ∈ n.tasks) : Quiet n t (n.adopt t) := by
  simp only [adopt]
  split
  · exact .goTo hn ht trivial
  · exact .goTo hn ht trivial
  · simp only [init]
    cases n.identity with
    | some identity => exact .goTo hn ht trivial
    | none =>
      simp only
      split <;> exact .goTo hn ht trivial

private theorem conclude_quiet (hn : n.Numbered) (ht : t ∈ n.tasks)
    (result : Except NodeError Unit) :
    Quiet n t (n.conclude t result) := by
  simp only [conclude]
  split
  · exact .remove
  · split <;> exact .goTo hn ht trivial

theorem stepTask_quiet (hn : n.Numbered) (ht : t ∈ n.tasks) (now : Nat) (stamp : Stamp)
    (idle : t.stage.Idle)
    (calm : ∀ job, t.stage = .work job → ¬ (w.step n.view n.shared job).1.IsRequest) :
    Quiet n t (n.stepTask now stamp t) ∧ n.stepOccurrences now t = [] := by
  cases hs : t.stage with
  | fresh job =>
    simp only [stepTask, stepOccurrences, hs, and_true]
    exact .goTo hn ht (by cases job <;> trivial)
  | adopt =>
    simp only [stepTask, stepOccurrences, hs, and_true]
    exact adopt_quiet hn ht
  | work job =>
    have hcalm := calm job hs
    have hn₁ : ({ n with shared := (w.step n.view n.shared job).2 } : Node w).Numbered := hn.congr
    have hquiet := act_quiet hn₁ ht now stamp hcalm
    simp only [stepTask, stepOccurrences, hs]
    refine ⟨⟨hquiet.pending, hquiet.idle⟩, ?_⟩
    cases haction : (w.step n.view n.shared job).1 with
    | call _ _ _ _ => rw [haction] at hcalm; exact absurd trivial hcalm
    | ask _ _ _ _ => rw [haction] at hcalm; exact absurd trivial hcalm
    | _ => rfl
  | sleep wake next =>
    simp only [stepTask, stepOccurrences, hs, and_true]
    split
    · exact .goTo hn ht trivial
    · exact .refl hn ht (hs ▸ idle)
  | confirm =>
    simp only [stepTask, stepOccurrences, hs, and_true]
    exact .goTo hn ht trivial (reply_tasks n t.message _) (reply_pending n t.message _)
  | conclude result =>
    simp only [stepTask, stepOccurrences, hs, and_true]
    exact conclude_quiet hn ht result
  | refuse e =>
    simp only [stepTask, stepOccurrences, hs, and_true]
    exact .remove (reply_pending n t.message _)
  | _ => exact absurd idle (by rw [hs]; exact fun h => h)

end Quiet

end Node

end ClusterNode
