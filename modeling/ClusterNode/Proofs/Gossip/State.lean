import ClusterNode.Gossip.State

/-!
Accepted values: what is held after a value was offered, and that the set of the accepted values
agrees with their log.
-/

set_option autoImplicit false

namespace ClusterNode.Gossip

variable {α : Type} [BEq α] [Hashable α] {g : Gossip α} {u v : α}

/-- An equal value is in the log. -/
def Holds (g : Gossip α) (v : α) : Prop := ∃ u ∈ g.log, (u == v) = true

def Consistent (g : Gossip α) : Prop := ∀ v, g.contains v = true ↔ g.Holds v

theorem mem_log_accept (h : u ∈ (g.accept v).2.log) : u ∈ g.log ∨ u = v := by
  simp only [accept, record] at h
  split at h
  · exact .inl h
  · simpa using h

@[simp] theorem neighbors_accept (g : Gossip α) (v : α) :
    (g.accept v).2.neighbors = g.neighbors := by
  simp only [accept, record]
  split <;> rfl

theorem record_eq (g : Gossip α) (v : α) : g.record v = (!g.contains v, (g.accept v).2) := by
  simp only [accept, record]
  split <;> simp [*]

theorem accept_of_contains (hv : g.contains v = true) : g.accept v = (.duplicate, g) := by
  simp [accept, record, hv]

theorem accept_of_not_contains (hv : ¬ g.contains v = true) : g.accept v =
    (.fresh g.neighbors, { g with seen := g.seen.insert v, log := g.log ++ [v] }) := by
  simp [accept, record, hv]

theorem accept_of_holds (hg : g.Consistent) (hv : g.Holds v) : g.accept v = (.duplicate, g) :=
  accept_of_contains ((hg v).mpr hv)

theorem accept_of_not_holds (hg : g.Consistent) (hv : ¬ g.Holds v) : g.accept v =
    (.fresh g.neighbors, { g with seen := g.seen.insert v, log := g.log ++ [v] }) :=
  accept_of_not_contains fun h => hv ((hg v).mp h)

theorem Holds.congr [EquivBEq α] (h : g.Holds u) (huv : (u == v) = true) : g.Holds v := by
  obtain ⟨x, hx, hxu⟩ := h
  exact ⟨x, hx, BEq.trans hxu huv⟩

theorem holds_accept [EquivBEq α] (hg : g.Consistent) :
    (g.accept v).2.Holds u ↔ g.Holds u ∨ (v == u) = true := by
  by_cases hv : g.Holds v
  · rw [accept_of_holds hg hv]
    exact ⟨.inl, fun h => h.elim id hv.congr⟩
  · rw [accept_of_not_holds hg hv]
    simp only [Holds, List.mem_append, List.mem_singleton]
    constructor
    · rintro ⟨x, hx | rfl, hxu⟩
      · exact .inl ⟨x, hx, hxu⟩
      · exact .inr hxu
    · rintro (⟨x, hx, hxu⟩ | hvu)
      · exact ⟨x, .inl hx, hxu⟩
      · exact ⟨v, .inr rfl, hvu⟩

theorem Consistent.accept [EquivBEq α] [LawfulHashable α] (hg : g.Consistent) (v : α) :
    (g.accept v).2.Consistent := by
  intro u
  rw [holds_accept hg]
  by_cases hv : g.Holds v
  · rw [accept_of_holds hg hv, hg u]
    exact ⟨.inl, fun h => h.elim id hv.congr⟩
  · rw [accept_of_not_holds hg hv, ← hg u]
    simp only [contains, Std.HashSet.contains_insert, Bool.or_eq_true]
    exact or_comm

theorem contains_accept [EquivBEq α] [LawfulHashable α] (hg : g.Consistent) :
    (g.accept v).2.contains u = (g.contains u || v == u) := by
  rw [Bool.eq_iff_iff, (hg.accept v) u, holds_accept hg, Bool.or_eq_true, hg u]

end ClusterNode.Gossip
