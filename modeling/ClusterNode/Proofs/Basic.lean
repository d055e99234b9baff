import Mathlib.Data.List.Nodup
import Mathlib.Data.List.Pairwise

/-!
Lists that have grown by one entry: where an entry stands in them, and what holds of each entry in
view of those before it. Lists whose entries show something, each something else. Readings in steps:
one that succeeds has succeeded at its first step.
-/

set_option autoImplicit false

namespace ClusterNode

section Growth

variable {α : Type} {l before after : List α} {a b : α}

/-- Where an entry stands in a list that has grown by one: at its end, or where it stood before. -/
theorem split_concat (h : l ++ [a] = before ++ b :: after) :
    (l = before ∧ a = b) ∨ ∃ rest, l = before ++ b :: rest ∧ after = rest ++ [a] := by
  rcases List.eq_nil_or_concat after with rfl | ⟨rest, last, rfl⟩
  · obtain ⟨hl, ha⟩ := List.append_inj' h rfl
    exact .inl ⟨hl, List.singleton_inj.mp ha⟩
  · rw [List.concat_eq_append, ← List.cons_append, ← List.append_assoc] at h
    obtain ⟨hl, ha⟩ := List.append_inj' h rfl
    exact .inr ⟨rest, hl, by rw [List.concat_eq_append, ha]⟩

theorem forall_split_concat {P : List α → α → Prop}
    (old : ∀ before b after, l = before ++ b :: after → P before b) (new : P l a) :
    ∀ before b after, l ++ [a] = before ++ b :: after → P before b := by
  intro before b after h
  rcases split_concat h with ⟨rfl, rfl⟩ | ⟨rest, hrest, -⟩
  · exact new
  · exact old before b rest hrest

end Growth

section Distinct

variable {α β : Type} {l : List α} {a b : α}

theorem nodup_map_concat {f : α → β} (hl : (l.map f).Nodup) (ha : ∀ b ∈ l, f b ≠ f a) :
    ((l ++ [a]).map f).Nodup := by
  rw [List.map_append, List.map_singleton, ← List.concat_eq_append]
  exact List.Nodup.concat (by simpa using ha) hl

/-- Two entries that show the same are one entry, if what the entries show is shown once. -/
theorem eq_of_nodup_filterMap {f : α → Option β} (hl : (l.filterMap f).Nodup) (ha : a ∈ l)
    (hb : b ∈ l) {c : β}
    (hac : f a = some c) (hbc : f b = some c) : a = b := by
  by_contra hne
  have hpairs := List.pairwise_filterMap.mp hl
  have hsymm : Std.Symm fun a b : α => ∀ c, f a = some c → ∀ d, f b = some d → c ≠ d :=
    ⟨fun _ _ h c hc d hd => (h d hd c hc).symm⟩
  exact hpairs.forall ha hb hne c hac c hbc rfl

end Distinct

theorem exists_of_bind_eq_ok {ε α β : Type} {x : Except ε α} {f : α → Except ε β} {b : β}
    (h : (x >>= f) = .ok b) : ∃ a, x = .ok a ∧ f a = .ok b := by
  cases x with
  | error e => cases h
  | ok a => exact ⟨a, rfl, h⟩

end ClusterNode
