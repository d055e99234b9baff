import ClusterNode.Json.Reader
import ClusterNode.Proofs.Dictionary
import ClusterNode.Proofs.Payload

/-!
What is read is a value that could have been written: its objects are dictionaries, even where the
text repeats a key, and it nests no deeper than it was allowed to.
-/

set_option autoImplicit false

namespace ClusterNode.Json

section Members

variable {items : List Json} {fields : List (String × Json)} {bound : Nat}

private theorem canonicalItems_iff : CanonicalItems items ↔ ∀ v ∈ items, v.Canonical := by
  induction items with
  | nil => simp [CanonicalItems]
  | cons v items ih => simp [CanonicalItems, ih]

theorem canonicalFields_iff : CanonicalFields fields ↔ ∀ field ∈ fields, field.2.Canonical := by
  induction fields with
  | nil => simp [CanonicalFields]
  | cons field fields ih => simp [CanonicalFields, ih]

private theorem depthItems_le_iff : depthItems items ≤ bound ↔ ∀ v ∈ items, v.depth ≤ bound := by
  induction items with
  | nil => simp [depthItems]
  | cons v items ih => rw [depthItems, Nat.max_le, ih, List.forall_mem_cons]

theorem depthFields_le_iff : depthFields fields ≤ bound ↔
    ∀ field ∈ fields, field.2.depth ≤ bound := by
  induction fields with
  | nil => simp [depthFields]
  | cons field fields ih => rw [depthFields, Nat.max_le, ih, List.forall_mem_cons]

end Members

/-- A value whose objects are dictionaries, with no more than a number of arrays and objects inside
each other. -/
structure Fits (depth : Nat) (v : Json) : Prop where
  canonical : v.Canonical
  shallow : v.depth ≤ depth

section Fits

variable {depth : Nat}

private theorem Fits.leaf {v : Json} (canonical : v.Canonical) (flat : v.depth = 0) :
    v.Fits depth :=
  ⟨canonical, by omega⟩

private theorem Fits.array {items : List Json} (h : ∀ v ∈ items, v.Fits depth) :
    (Json.array items).Fits (depth + 1) where
  canonical := canonicalItems_iff.mpr fun v hv => (h v hv).canonical
  shallow := Nat.succ_le_succ (depthItems_le_iff.mpr fun v hv => (h v hv).shallow)

private theorem Fits.object {entries : List (String × Json)}
    (h : ∀ entry ∈ entries, entry.2.Fits depth) :
    (Json.object (Dictionary.ofList entries)).Fits (depth + 1) := by
  have hkept : ∀ field ∈ Dictionary.ofList entries, field.2.Fits depth :=
    fun field hfield => h field (Dictionary.mem_ofList hfield)
  exact ⟨⟨.ofList entries, canonicalFields_iff.mpr fun field hf => (hkept field hf).canonical⟩,
    Nat.succ_le_succ (depthFields_le_iff.mpr fun field hf => (hkept field hf).shallow)⟩

end Fits

-- The readers call each other with one unit of fuel less, so each is followed by recursion on it.
mutual

theorem fits_of_readValue : ∀ {fuel depth : Nat} {s rest : List Char} {v : Json},
    readValue fuel depth s = .ok (v, rest) → v.Fits depth
  | 0, _, _, _, _, h => by
    rw [readValue] at h
    cases h
  | fuel + 1, depth, s, rest, v, h => by
    rw [readValue] at h
    split at h
    · cases h
    split at h
    · obtain ⟨⟨text, s⟩, -, hv⟩ := exists_of_bind_eq_ok h
      cases hv
      exact .leaf trivial rfl
    split at h
    · cases depth with
      | zero => cases h
      | succ depth =>
        obtain ⟨⟨items, s⟩, hitems, hv⟩ := exists_of_bind_eq_ok h
        cases hv
        exact .array (fits_of_readArray hitems)
    split at h
    · cases depth with
      | zero => cases h
      | succ depth =>
        obtain ⟨⟨fields, s⟩, hfields, hv⟩ := exists_of_bind_eq_ok h
        cases hv
        exact .object (fits_of_readObject hfields)
    split at h
    · obtain ⟨⟨n, s⟩, -, hv⟩ := exists_of_bind_eq_ok h
      cases hv
      exact .leaf trivial rfl
    split at h
    · obtain ⟨s, -, hv⟩ := exists_of_bind_eq_ok h
      cases hv
      exact .leaf trivial rfl
    split at h
    · obtain ⟨s, -, hv⟩ := exists_of_bind_eq_ok h
      cases hv
      exact .leaf trivial rfl
    split at h
    · obtain ⟨s, -, hv⟩ := exists_of_bind_eq_ok h
      cases hv
      exact .leaf trivial rfl
    · cases h

theorem fits_of_readArray : ∀ {fuel depth : Nat} {s rest : List Char} {items : List Json},
    readArray fuel depth s = .ok (items, rest) → ∀ v ∈ items, v.Fits depth
  | 0, _, _, _, _, h => by
    rw [readArray] at h
    cases h
  | fuel + 1, depth, s, rest, items, h => by
    rw [readArray] at h
    split at h
    · cases h
    · cases h
      exact fun v hv => absurd hv List.not_mem_nil
    · exact fits_of_readItems h

theorem fits_of_readItems : ∀ {fuel depth : Nat} {s rest : List Char} {items : List Json},
    readItems fuel depth s = .ok (items, rest) → ∀ v ∈ items, v.Fits depth
  | 0, _, _, _, _, h => by
    rw [readItems] at h
    cases h
  | fuel + 1, depth, s, rest, items, h => by
    rw [readItems] at h
    obtain ⟨⟨v, s₁⟩, hv, h⟩ := exists_of_bind_eq_ok h
    obtain ⟨⟨more, s₂⟩, -, h⟩ := exists_of_bind_eq_ok h
    have hfirst : v.Fits depth := fits_of_readValue hv
    cases more with
    | true =>
      obtain ⟨⟨others, s₃⟩, hothers, h⟩ := exists_of_bind_eq_ok h
      cases h
      exact List.forall_mem_cons.mpr ⟨hfirst, fits_of_readItems hothers⟩
    | false =>
      cases h
      exact List.forall_mem_singleton.mpr hfirst

theorem fits_of_readObject :
    ∀ {fuel depth : Nat} {s rest : List Char} {fields : List (String × Json)},
    readObject fuel depth s = .ok (fields, rest) → ∀ field ∈ fields, field.2.Fits depth
  | 0, _, _, _, _, h => by
    rw [readObject] at h
    cases h
  | fuel + 1, depth, s, rest, fields, h => by
    rw [readObject] at h
    split at h
    · cases h
    · cases h
      exact fun field hfield => absurd hfield List.not_mem_nil
    · exact fits_of_readFields h

theorem fits_of_readFields :
    ∀ {fuel depth : Nat} {s rest : List Char} {fields : List (String × Json)},
    readFields fuel depth s = .ok (fields, rest) → ∀ field ∈ fields, field.2.Fits depth
  | 0, _, _, _, _, h => by
    rw [readFields] at h
    cases h
  | fuel + 1, depth, s, rest, fields, h => by
    rw [readFields] at h
    obtain ⟨⟨k, s₁⟩, -, h⟩ := exists_of_bind_eq_ok h
    obtain ⟨⟨v, s₂⟩, hv, h⟩ := exists_of_bind_eq_ok h
    obtain ⟨⟨more, s₃⟩, -, h⟩ := exists_of_bind_eq_ok h
    have hfirst : v.Fits depth := fits_of_readValue hv
    cases more with
    | true =>
      obtain ⟨⟨others, s₄⟩, hothers, h⟩ := exists_of_bind_eq_ok h
      cases h
      exact List.forall_mem_cons.mpr ⟨hfirst, fits_of_readFields hothers⟩
    | false =>
      cases h
      exact List.forall_mem_singleton.mpr hfirst

end

end ClusterNode.Json
