import ClusterNode.Pending
import ClusterNode.Proofs.Basic

/-!
The table of requests: what is found under a number, and what is left when a number is forgotten. In
a table whose numbers have been counted, each once, the next number is new, and what is found is
what was put there.
-/

set_option autoImplicit false

namespace ClusterNode.Pending

variable {α : Type} {p : Pending α} {id other : UInt64} {a : α}

theorem mem_of_get? (h : p.get? id = some a) : (id, a) ∈ p.entries := by
  obtain ⟨entry, hentry, rfl⟩ := Option.map_eq_some_iff.mp h
  have hid : entry.1 = id := by simpa using List.find?_some hentry
  rw [← hid]
  exact List.mem_of_find?_eq_some hentry

theorem erase_of_get?_eq_none (h : p.get? id = none) : p.erase id = p := by
  have hall : ∀ entry ∈ p.entries, entry.1 ≠ id := by
    simpa [get?, List.find?_eq_none] using h
  have hfilter : p.entries.filter (fun entry => entry.1 ≠ id) = p.entries := by
    simpa [List.filter_eq_self] using hall
  simp only [erase, hfilter]

theorem take_snd (p : Pending α) (id : UInt64) : (p.take id).2 = p.erase id := by
  cases h : p.get? id with
  | none => simp [take, h, erase_of_get?_eq_none h]
  | some a => simp [take, h]

theorem take_fst (p : Pending α) (id : UInt64) : (p.take id).1 = p.get? id := by
  cases h : p.get? id <;> simp [take, h]

theorem cancel_fst (p : Pending α) (id : UInt64) : (p.cancel id).1 = (p.get? id).isSome :=
  congrArg Option.isSome (p.take_fst id)

theorem cancel_snd (p : Pending α) (id : UInt64) : (p.cancel id).2 = p.erase id :=
  p.take_snd id

theorem mem_erase {entry : UInt64 × α} :
    entry ∈ (p.erase id).entries ↔ entry ∈ p.entries ∧ entry.1 ≠ id := by
  simp [erase]

theorem get?_erase_of_ne (h : other ≠ id) : (p.erase id).get? other = p.get? other := by
  have hfound : (fun entry : UInt64 × α =>
    decide (decide (entry.1 ≠ id) = true ∧ decide (entry.1 = other) = true)) =
      fun entry => decide (entry.1 = other) := by
    funext entry
    by_cases hentry : entry.1 = other <;> simp [hentry, h]
  rw [get?, get?, erase, List.find?_filter, hfound]

theorem size_register (p : Pending α) (callback : α) :
    (p.register callback).2.size = p.size + 1 := by
  simp [size, Pending.register]

theorem lastId_succ (few : p.lastId.toNat + 1 < UInt64.size) :
    (p.lastId + 1).toNat = p.lastId.toNat + 1 := by
  rw [UInt64.toNat_add]
  exact Nat.mod_eq_of_lt few

theorem lastId_succ_ne_zero (few : p.lastId.toNat + 1 < UInt64.size) : p.lastId + 1 ≠ 0 := by
  intro hzero
  have hnat := lastId_succ few
  rw [hzero] at hnat
  simp at hnat

def Counted (p : Pending α) : Prop := ∀ entry ∈ p.entries, entry.1.toNat ≤ p.lastId.toNat

theorem Counted.register (hp : p.Counted) (few : p.lastId.toNat + 1 < UInt64.size) (callback : α) :
    (p.register callback).2.Counted := by
  intro entry hentry
  have hnat := lastId_succ few
  show entry.1.toNat ≤ (p.lastId + 1).toNat
  rcases List.mem_append.mp hentry with hentry | hentry
  · have := hp entry hentry
    omega
  · exact Nat.le_of_eq (congrArg (fun entry => entry.1.toNat) (List.mem_singleton.mp hentry))

theorem Counted.erase (hp : p.Counted) (id : UInt64) : (p.erase id).Counted :=
  fun entry hentry => hp entry (mem_erase.mp hentry).1

private theorem Counted.ne_next (hp : p.Counted) (few : p.lastId.toNat + 1 < UInt64.size)
    {entry : UInt64 × α}
    (hentry : entry ∈ p.entries) : entry.1 ≠ p.lastId + 1 := by
  intro heq
  have hle := hp entry hentry
  rw [heq, lastId_succ few] at hle
  omega

theorem Counted.get?_register (hp : p.Counted) (few : p.lastId.toNat + 1 < UInt64.size)
    (callback : α) :
    (p.register callback).2.get? (p.lastId + 1) = some callback := by
  have hnew : p.entries.find? (fun entry => entry.1 = p.lastId + 1) = none :=
    List.find?_eq_none.mpr fun entry hentry heq => hp.ne_next few hentry (of_decide_eq_true heq)
  simp only [Pending.register, get?, List.find?_append, hnew]
  simp

/-- A number that is taken and given back leaves the table as it was, but for the number. -/
theorem cancel_register (hp : p.Counted) (few : p.lastId.toNat + 1 < UInt64.size) (callback : α) :
    ((p.register callback).2.cancel (p.lastId + 1)).2 = ⟨p.lastId + 1, p.entries⟩ := by
  have hkeep : p.entries.filter (fun entry => entry.1 ≠ p.lastId + 1) = p.entries := by
    simpa [List.filter_eq_self] using fun id a h => hp.ne_next few h
  rw [cancel_snd, Pending.erase, Pending.register]
  simp only [List.filter_append, hkeep]
  simp

structure Orderly (p : Pending α) : Prop where
  counted : p.Counted
  nodup : (p.entries.map Prod.fst).Nodup

section Orderly

theorem Orderly.empty : (Pending.empty : Pending α).Orderly :=
  ⟨by simp [Counted, Pending.empty], List.nodup_nil⟩

theorem Orderly.register (hp : p.Orderly) (few : p.lastId.toNat + 1 < UInt64.size) (callback : α) :
    (p.register callback).2.Orderly :=
  ⟨hp.counted.register few callback, nodup_map_concat hp.nodup fun _ => hp.counted.ne_next few⟩

theorem Orderly.erase (hp : p.Orderly) (id : UInt64) : (p.erase id).Orderly :=
  ⟨hp.counted.erase id, hp.nodup.sublist (List.filter_sublist.map _)⟩

theorem Orderly.get?_eq_some_iff (hp : p.Orderly) : p.get? id = some a ↔ (id, a) ∈ p.entries := by
  refine ⟨mem_of_get?, fun ha => ?_⟩
  cases hget : p.get? id with
  | none =>
    have hnone : ∀ entry ∈ p.entries, entry.1 ≠ id := by
      simpa [get?, List.find?_eq_none] using hget
    exact absurd rfl (hnone _ ha)
  | some b =>
    obtain ⟨-, rfl⟩ := Prod.mk.inj (List.inj_on_of_nodup_map hp.nodup (mem_of_get? hget) ha rfl)
    rfl

theorem Orderly.ids_erase (hp : p.Orderly) (id : UInt64) :
    (p.erase id).entries.map Prod.fst = (p.entries.map Prod.fst).erase id := by
  rw [hp.nodup.erase_eq_filter, List.filter_map, Pending.erase]
  congr 1
  exact List.filter_congr fun entry _ => by simp [bne, beq_eq_decide]

theorem mem_ids_of_get? (h : p.get? id = some a) : id ∈ p.entries.map Prod.fst :=
  List.mem_map.mpr ⟨_, mem_of_get? h, rfl⟩

theorem Orderly.size_erase (hp : p.Orderly) (h : (p.get? id).isSome) :
    (p.erase id).size + 1 = p.size := by
  obtain ⟨a, ha⟩ := Option.isSome_iff_exists.mp h
  have hmem := mem_ids_of_get? ha
  have hlength := List.length_erase_of_mem hmem
  have hpos := List.length_pos_of_mem hmem
  rw [← hp.ids_erase, List.length_map, List.length_map] at hlength
  rw [List.length_map] at hpos
  simp only [size]
  omega

end Orderly

end ClusterNode.Pending
