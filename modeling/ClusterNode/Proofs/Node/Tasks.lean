import ClusterNode.Node.Input
import Mathlib.Data.List.Nodup

/-!
The tasks of a node: what each operation does to them, and the frame of a step. A step of a task
leaves the other tasks as they are, but that it may fill the mailbox of one of them.
-/

set_option autoImplicit false

namespace ClusterNode.Node

variable {w : Workload}

/-- The tasks have distinct numbers, all of them below the next one. -/
structure Numbered (n : Node w) : Prop where
  nodup : (n.tasks.map Task.id).Nodup
  below : ∀ t ∈ n.tasks, t.id < n.nextTask

section Membership

variable {n : Node w} {t x : Task w.Job} {id : Nat}

theorem mem_update {f : Task w.Job → Task w.Job} :
    x ∈ (n.update id f).tasks ↔
      (x ∈ n.tasks ∧ x.id ≠ id) ∨ ∃ y ∈ n.tasks, y.id = id ∧ x = f y := by
  simp only [update, List.mem_map]
  constructor
  · rintro ⟨y, hy, rfl⟩
    by_cases h : y.id = id
    · exact .inr ⟨y, hy, h, by simp [h]⟩
    · exact .inl (by simp [h, hy])
  · rintro (⟨hx, h⟩ | ⟨y, hy, h, rfl⟩)
    · exact ⟨x, hx, by simp [h]⟩
    · exact ⟨y, hy, by simp [h]⟩

theorem mem_remove : x ∈ (n.remove id).tasks ↔ x ∈ n.tasks ∧ x.id ≠ id := by
  simp [remove]

theorem mem_spawn {role : Role} {m : Message} {stage : Stage w.Job} :
    x ∈ (n.spawn role m stage).tasks ↔ x ∈ n.tasks ∨ x = ⟨n.nextTask, role, m, stage, .empty⟩ := by
  simp [spawn]

theorem mem_of_task? (h : n.task? id = some t) : t ∈ n.tasks ∧ t.id = id :=
  ⟨List.mem_of_find?_eq_some h, by simpa using List.find?_some h⟩

theorem task?_eq_none_iff : n.task? id = none ↔ ∀ x ∈ n.tasks, x.id ≠ id := by
  simp [task?, List.find?_eq_none]

theorem Numbered.eq_of_id (hn : n.Numbered) (ht : t ∈ n.tasks) (hx : x ∈ n.tasks)
    (h : t.id = x.id) : t = x :=
  List.inj_on_of_nodup_map hn.nodup ht hx h

theorem Numbered.task? (hn : n.Numbered) (ht : t ∈ n.tasks) : n.task? t.id = some t := by
  cases h : n.task? t.id with
  | none => exact absurd rfl (task?_eq_none_iff.mp h t ht)
  | some x =>
    obtain ⟨hx, hid⟩ := mem_of_task? h
    rw [hn.eq_of_id hx ht hid]

theorem Numbered.mem_update (hn : n.Numbered) (ht : t ∈ n.tasks) {f : Task w.Job → Task w.Job} :
    x ∈ (n.update t.id f).tasks ↔ (x ∈ n.tasks ∧ x.id ≠ t.id) ∨ x = f t := by
  rw [Node.mem_update]
  constructor
  · rintro (h | ⟨y, hy, hid, rfl⟩)
    · exact .inl h
    · exact .inr (by rw [hn.eq_of_id hy ht hid])
  · rintro (h | rfl)
    · exact .inl h
    · exact .inr ⟨t, ht, rfl, rfl⟩

end Membership

section Around

variable {n : Node w} {t : Task w.Job} {before after : List (Task w.Job)}

/-- The list of tasks around a task whose number stands nowhere else in it. -/
structure Around (n : Node w) (before : List (Task w.Job)) (t : Task w.Job)
    (after : List (Task w.Job)) : Prop where
  tasks : n.tasks = before ++ t :: after
  before_ne : ∀ x ∈ before, x.id ≠ t.id
  after_ne : ∀ x ∈ after, x.id ≠ t.id

theorem Numbered.around (hn : n.Numbered) (ht : t ∈ n.tasks) :
    ∃ before after, n.Around before t after := by
  obtain ⟨before, after, h⟩ := List.append_of_mem ht
  have hnodup := hn.nodup
  rw [h, List.map_append, List.map_cons, List.nodup_middle, List.nodup_cons] at hnodup
  have hout : ∀ x ∈ before ++ after, x.id ≠ t.id := by
    intro x hx hid
    exact hnodup.1 (by rw [← List.map_append]; exact List.mem_map.mpr ⟨x, hx, hid⟩)
  exact ⟨before, after, h, fun x hx => hout x (List.mem_append_left _ hx),
    fun x hx => hout x (List.mem_append_right _ hx)⟩

private theorem map_ite_of_ne {l : List (Task w.Job)} {id : Nat} {f : Task w.Job → Task w.Job}
    (h : ∀ x ∈ l, x.id ≠ id) : l.map (fun x => if x.id = id then f x else x) = l := by
  conv_rhs => rw [← List.map_id l]
  exact List.map_congr_left fun x hx => by simp [h x hx]

theorem Around.update (h : n.Around before t after) (f : Task w.Job → Task w.Job) :
    (n.update t.id f).tasks = before ++ f t :: after := by
  simp only [Node.update, h.tasks, List.map_append, List.map_cons, if_true]
  rw [map_ite_of_ne h.before_ne, map_ite_of_ne h.after_ne]

theorem Around.goTo (h : n.Around before t after) (stage : Stage w.Job) :
    (n.goTo t.id stage).tasks = before ++ { t with stage } :: after :=
  h.update _

theorem Around.remove (h : n.Around before t after) :
    (n.remove t.id).tasks = before ++ after := by
  have keep : ∀ {l : List (Task w.Job)}, (∀ x ∈ l, x.id ≠ t.id) →
      l.filter (fun x => x.id ≠ t.id) = l := fun hl => by simpa using hl
  simp only [Node.remove, h.tasks, List.filter_append, List.filter_cons]
  rw [keep h.before_ne, keep h.after_ne]
  simp

end Around

end ClusterNode.Node
