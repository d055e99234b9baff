import ClusterNode.Dictionary

/-!
Dictionaries: what is found in one that was made from a list, and when a list is a dictionary
already.
-/

set_option autoImplicit false

namespace ClusterNode.Dictionary

variable {α : Type}

theorem get?_insert (key other : String) (value : α) (d : Dictionary α) :
    get? other (insert key value d) = if other = key then some value else get? other d := by
  split
  · rename_i h
    rw [h, get?_insert_self]
  · rename_i h
    exact get?_insert_of_ne h value d

private theorem get?_foldl_insert (key : String) (entries : List (String × α)) (d : Dictionary α) :
    get? key (entries.foldl (fun d entry => insert entry.1 entry.2 d) d) =
      ((entries.reverse.find? fun entry => key = entry.1).map (·.2)).or (get? key d) := by
  induction entries generalizing d with
  | nil => simp
  | cons entry entries ih =>
    rw [List.foldl_cons, ih, get?_insert, List.reverse_cons, List.find?_append]
    by_cases h : key = entry.1
    · cases entries.reverse.find? fun entry => key = entry.1 <;> simp [h]
    · simp [h]

/-- Of several values for one key the last is found. -/
theorem get?_ofList (key : String) (entries : List (String × α)) :
    get? key (ofList entries) = (entries.reverse.find? fun entry => key = entry.1).map (·.2) := by
  rw [ofList, get?_foldl_insert]
  simp [get?]

theorem mem_insert {key : String} {value : α} {d : Dictionary α} {entry : String × α}
    (h : entry ∈ insert key value d) : entry = (key, value) ∨ entry ∈ d := by
  induction d with
  | nil => exact .inl (List.mem_singleton.mp h)
  | cons other d ih =>
    obtain ⟨k, v⟩ := other
    simp only [insert] at h
    split at h
    · rcases List.mem_cons.mp h with h | h
      · exact .inl h
      · exact .inr (List.mem_cons_of_mem _ h)
    · split at h
      · exact List.mem_cons.mp h
      · rcases List.mem_cons.mp h with h | h
        · exact .inr (h ▸ List.mem_cons_self)
        · exact (ih h).imp id (List.mem_cons_of_mem _)

theorem mem_ofList {entries : List (String × α)} {entry : String × α} (h : entry ∈ ofList entries) :
    entry ∈ entries := by
  have hfold : ∀ d : Dictionary α,
      entry ∈ entries.foldl (fun d entry => insert entry.1 entry.2 d) d →
        entry ∈ entries ∨ entry ∈ d := by
    clear h
    induction entries with
    | nil => exact fun d hd => .inr hd
    | cons other entries ih =>
      intro d hd
      rcases ih _ hd with h | h
      · exact .inl (List.mem_cons_of_mem _ h)
      · rcases mem_insert h with rfl | h
        · exact .inl List.mem_cons_self
        · exact .inr h
  exact (hfold [] h).resolve_right List.not_mem_nil

section Sorted

private theorem keys_insert_subset {key : String} {value : α} {d : Dictionary α} {k : String}
    (hk : k ∈ keys (insert key value d)) : k = key ∨ k ∈ keys d := by
  induction d with
  | nil => simpa [insert, keys] using hk
  | cons entry d ih =>
    obtain ⟨k', v⟩ := entry
    simp only [insert] at hk
    split at hk
    · simp only [keys, List.map_cons, List.mem_cons] at hk ⊢
      exact hk.imp id .inr
    · split at hk
      · simpa [keys] using hk
      · simp only [keys, List.map_cons, List.mem_cons] at hk ⊢
        rcases hk with rfl | hk
        · exact .inr (.inl rfl)
        · exact (ih hk).imp id .inr

theorem Sorted.insert {d : Dictionary α} (hd : Sorted d) (key : String) (value : α) :
    Sorted (insert key value d) := by
  induction d with
  | nil => simp [Dictionary.insert, Sorted, keys]
  | cons entry d ih =>
    obtain ⟨k, v⟩ := entry
    have hhead : ∀ k' ∈ keys d, k < k' := fun k' hk' => List.rel_of_pairwise_cons hd hk'
    have htail : Sorted d := List.Pairwise.of_cons hd
    simp only [Dictionary.insert]
    split
    · rename_i hk
      subst hk
      exact List.pairwise_cons.mpr ⟨hhead, htail⟩
    · split
      · rename_i hlt
        refine List.pairwise_cons.mpr ⟨fun k' hk' => ?_, hd⟩
        rcases List.mem_cons.mp hk' with rfl | hk'
        · exact hlt
        · exact String.lt_trans hlt (hhead k' hk')
      · rename_i hne hlt
        refine List.pairwise_cons.mpr ⟨fun k' hk' => ?_, ih htail⟩
        rcases keys_insert_subset hk' with rfl | hk'
        · exact Decidable.of_not_not fun hge =>
            hne (String.le_antisymm (String.not_lt.mp hlt) (String.not_lt.mp hge))
        · exact hhead k' hk'

theorem Sorted.ofList (entries : List (String × α)) : Sorted (ofList entries) := by
  have hfold : ∀ d : Dictionary α, Sorted d →
      Sorted (entries.foldl (fun d entry => Dictionary.insert entry.1 entry.2 d) d) := by
    induction entries with
    | nil => exact fun d hd => hd
    | cons entry entries ih => exact fun d hd => ih _ (hd.insert _ _)
  exact hfold [] List.Pairwise.nil

private theorem insert_of_lt {d : Dictionary α} {key : String} (value : α)
    (h : ∀ k ∈ keys d, k < key) : insert key value d = d ++ [(key, value)] := by
  induction d with
  | nil => rfl
  | cons entry d ih =>
    obtain ⟨k, v⟩ := entry
    have hk : k < key := h k (by simp [keys])
    have hne : k ≠ key := fun heq => String.lt_irrefl key (heq ▸ hk)
    have hnlt : ¬ key < k := fun hlt => String.lt_irrefl k (String.lt_trans hk hlt)
    simp only [insert, hne, hnlt, if_false, List.cons_append]
    rw [ih fun k' hk' =>
      h k' (by simp only [keys, List.map_cons]; exact List.mem_cons_of_mem _ hk')]

/-- A list whose keys increase is the dictionary that is made from it. -/
theorem ofList_of_sorted {d : Dictionary α} (hd : Sorted d) : ofList d = d := by
  have hfold : ∀ front back : Dictionary α, Sorted (front ++ back) →
      back.foldl (fun d entry => insert entry.1 entry.2 d) front = front ++ back := by
    intro front back
    induction back generalizing front with
    | nil => simp
    | cons entry back ih =>
      intro hsorted
      have hkeys : ∀ k ∈ keys front, k < entry.1 := by
        intro k hk
        simp only [Sorted, keys, List.map_append, List.map_cons, List.pairwise_append] at hsorted
        exact hsorted.2.2 k hk entry.1 List.mem_cons_self
      rw [List.foldl_cons, insert_of_lt _ hkeys, ih]
      · simp
      · simpa using hsorted
  exact hfold [] d hd

end Sorted

end ClusterNode.Dictionary
