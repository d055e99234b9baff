/-!
Dictionaries: entries in strictly increasing order of their keys, so that two dictionaries with the
same content are equal and the order of an iteration is the order of the keys.
-/

set_option autoImplicit false

namespace ClusterNode

/-- Entries by key. Keys compare by code point, which is also the order of their UTF-8 bytes. -/
abbrev Dictionary (α : Type) := List (String × α)

namespace Dictionary

variable {α : Type}

def get? (key : String) : Dictionary α → Option α
  | [] => none
  | (k, v) :: rest => if k = key then some v else get? key rest

def contains (key : String) (d : Dictionary α) : Bool :=
  (get? key d).isSome

def insert (key : String) (value : α) : Dictionary α → Dictionary α
  | [] => [(key, value)]
  | (k, v) :: rest =>
    if k = key then (key, value) :: rest
    else if key < k then (key, value) :: (k, v) :: rest
    else (k, v) :: insert key value rest

def ofList (entries : List (String × α)) : Dictionary α :=
  entries.foldl (fun d entry => insert entry.1 entry.2 d) []

def keys (d : Dictionary α) : List String :=
  d.map (·.1)

def Sorted (d : Dictionary α) : Prop :=
  (keys d).Pairwise (· < ·)

theorem get?_insert_self (key : String) (value : α) (d : Dictionary α) :
    get? key (insert key value d) = some value := by
  induction d with
  | nil => simp [insert, get?]
  | cons entry rest ih =>
    obtain ⟨k, v⟩ := entry
    by_cases hk : k = key
    · simp [insert, get?, hk]
    · by_cases hlt : key < k
      · simp [insert, get?, hk, hlt]
      · simp [insert, get?, hk, hlt, ih]

theorem get?_insert_of_ne {key other : String} (h : other ≠ key) (value : α) (d : Dictionary α) :
    get? other (insert key value d) = get? other d := by
  induction d with
  | nil => simp [insert, get?, h.symm]
  | cons entry rest ih =>
    obtain ⟨k, v⟩ := entry
    by_cases hk : k = key
    · subst hk
      simp [insert, get?, h.symm]
    · by_cases hlt : key < k
      · simp [insert, get?, hk, hlt, h.symm]
      · simp [insert, get?, hk, hlt, ih]

end Dictionary

end ClusterNode
