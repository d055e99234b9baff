import Mathlib.Data.List.Induction
import Mathlib.Data.List.Perm.Subperm
import ClusterNode.Proofs.Pending

/-!
Histories of a table of requests: what is answered to any operations in any order, and what waits
after them. The numbers in the table and those that have left it are together the numbers that were
given out, each once.
-/

set_option autoImplicit false

namespace ClusterNode.Pending

/-- What is asked of a table. -/
inductive Op (α : Type) where
  | register (callback : α)
  | take (id : UInt64)
  | cancel (id : UInt64)
  | contains (id : UInt64)

/-- What was asked of a table, and what was answered. -/
inductive Event (α : Type) where
  | registered (id : UInt64) (callback : α)
  | taken (id : UInt64) (callback : Option α)
  | cancelled (id : UInt64) (found : Bool)
  | sought (id : UInt64) (found : Bool)

namespace Event

variable {α : Type}

def registration? : Event α → Option (UInt64 × α)
  | registered id a => some (id, a)
  | _ => none

def handover? : Event α → Option (UInt64 × α)
  | taken id (some a) => some (id, a)
  | _ => none

def removal? : Event α → Option UInt64
  | taken id (some _) => some id
  | cancelled id true => some id
  | _ => none

private theorem handover?_of_removal?_eq_none {e : Event α} (h : e.removal? = none) :
    e.handover? = none := by
  match e with
  | taken _ (some _) => cases h
  | registered .. | taken _ none | cancelled .. | sought .. => rfl

end Event

variable {α : Type}

def callbacks (ops : List (Op α)) : List α :=
  ops.filterMap fun
    | .register a => some a
    | _ => none

/-- Answers one operation. -/
def perform (p : Pending α) : Op α → Event α × Pending α
  | .register a => (.registered (p.register a).1 a, (p.register a).2)
  | .take id => (.taken id (p.take id).1, (p.take id).2)
  | .cancel id => (.cancelled id (p.cancel id).1, (p.cancel id).2)
  | .contains id => (.sought id (p.contains id), p)

def run (ops : List (Op α)) : List (Event α) × Pending α :=
  ops.foldl (fun (events, p) op => (events ++ [(p.perform op).1], (p.perform op).2)) ([], empty)

def registrations (events : List (Event α)) : List (UInt64 × α) :=
    events.filterMap Event.registration?

def handovers (events : List (Event α)) : List (UInt64 × α) := events.filterMap Event.handover?

def removals (events : List (Event α)) : List UInt64 := events.filterMap Event.removal?

/-- A callback was taken in under a number that has not left the table since. -/
def Waits (events : List (Event α)) (id : UInt64) (a : α) : Prop :=
  ∃ before since, events = before ++ .registered id a :: since ∧ ∀ e ∈ since, e.removal? ≠ some id

section Histories

variable {ops : List (Op α)} {op : Op α} {events : List (Event α)} {e : Event α} {id : UInt64}
  {a : α}

private theorem run_concat : run (ops ++ [op]) =
    ((run ops).1 ++ [((run ops).2.perform op).1], ((run ops).2.perform op).2) := by
  simp [run]

@[simp] theorem callbacks_concat_register :
    callbacks (ops ++ [.register a]) = callbacks ops ++ [a] := by
  simp [callbacks]

private theorem callbacks_concat (hop : ∀ a, op ≠ .register a) :
    callbacks (ops ++ [op]) = callbacks ops := by
  cases op <;> simp [callbacks] at hop ⊢

@[simp] theorem registrations_concat :
    registrations (events ++ [e]) = registrations events ++ e.registration?.toList := by
  cases h : e.registration? <;> simp [registrations, h]

@[simp] theorem handovers_concat :
    handovers (events ++ [e]) = handovers events ++ e.handover?.toList := by
  cases h : e.handover? <;> simp [handovers, h]

@[simp] theorem removals_concat :
    removals (events ++ [e]) = removals events ++ e.removal?.toList := by
  cases h : e.removal? <;> simp [removals, h]

private theorem handovers_sublist :
    ((handovers events).map Prod.fst).Sublist (removals events) := by
  induction events with
  | nil => exact List.Sublist.slnil
  | cons e events ih =>
    match e with
    | .taken id (some a) => exact ih.cons_cons id
    | .cancelled id true => exact ih.cons id
    | .registered .. | .taken _ none | .cancelled _ false | .sought .. => exact ih

private theorem Waits.mem_registrations (h : Waits events id a) :
    (id, a) ∈ registrations events := by
  obtain ⟨before, since, rfl, -⟩ := h
  exact List.mem_filterMap.mpr ⟨.registered id a, by simp, rfl⟩

private theorem waits_concat : Waits (events ++ [e]) id a ↔
    e = .registered id a ∨ (Waits events id a ∧ e.removal? ≠ some id) := by
  constructor
  · rintro ⟨before, since, heq, hsince⟩
    rcases split_concat heq with ⟨-, he⟩ | ⟨rest, hevents, rfl⟩
    · exact .inl he
    · rw [List.forall_mem_append, List.forall_mem_singleton] at hsince
      exact .inr ⟨⟨before, rest, hevents, hsince.1⟩, hsince.2⟩
  · rintro (rfl | ⟨⟨before, since, rfl, hsince⟩, he⟩)
    · exact ⟨events, [], rfl, by simp⟩
    · refine ⟨before, since ++ [e], by simp, ?_⟩
      rw [List.forall_mem_append, List.forall_mem_singleton]
      exact ⟨hsince, he⟩

end Histories

/-- What holds of the answers to some operations, and of what the table answers after them. -/
structure Keeps (ops : List (Op α)) (events : List (Event α)) (p : Pending α) : Prop where
  numbers : (registrations events).map (fun entry => (entry.2, entry.1.toNat)) =
    (callbacks ops).zipIdx 1
  increasing : ((registrations events).map Prod.fst).Pairwise (· < ·)
  take_eq_some_iff : ∀ id a, (p.take id).1 = some a ↔ Waits events id a
  cancel_iff : ∀ id, (p.cancel id).1 = true ↔ ∃ a, Waits events id a
  contains_iff : ∀ id, p.contains id = true ↔ ∃ a, Waits events id a
  handed_once : (handovers events).Subperm (registrations events)
  removed_once : (removals events).Nodup
  others : ∀ id other, other ≠ id →
    ((p.take id).2.take other).1 = (p.take other).1 ∧ ((p.cancel id).2.take other).1 =
      (p.take other).1
  size : p.size + (removals events).length = (registrations events).length

/-- The table agrees with what has happened: its last number counts the callbacks, it holds what
waits, and every number that was given out is in it or has left it. -/
structure InStep (ops : List (Op α)) (events : List (Event α)) (p : Pending α) : Prop where
  orderly : p.Orderly
  numbers : (registrations events).map (fun entry => (entry.2, entry.1.toNat)) =
    (callbacks ops).zipIdx 1
  last : p.lastId.toNat = (callbacks ops).length
  waits : ∀ id a, (id, a) ∈ p.entries ↔ Waits events id a
  handed : handovers events ⊆ registrations events
  ledger : (p.entries.map Prod.fst ++ removals events).Perm ((registrations events).map Prod.fst)

section InStep

variable {ops : List (Op α)} {op : Op α} {events : List (Event α)} {e : Event α} {p : Pending α}
  {id : UInt64} {a : α}

private theorem InStep.empty : InStep [] [] (Pending.empty : Pending α) where
  orderly := .empty
  numbers := rfl
  last := rfl
  waits id a := by simp [Pending.empty, Waits]
  handed := List.Subset.refl _
  ledger := List.Perm.refl _

private theorem InStep.register (hs : InStep ops events p)
    (few : (callbacks ops).length + 1 < UInt64.size) (a : α) :
    InStep (ops ++ [.register a]) (events ++ [.registered (p.register a).1 a])
      (p.register a).2 := by
  rw [← hs.last] at few
  have hnext := lastId_succ few
  constructor
  case orderly => exact hs.orderly.register few a
  case numbers =>
    rw [registrations_concat, callbacks_concat_register, List.map_append, hs.numbers,
      List.zipIdx_append]
    simp [Event.registration?, Pending.register, hnext, hs.last, Nat.add_comm]
  case last => simp [Pending.register, hnext, hs.last]
  case waits =>
    intro id b
    rw [waits_concat, ← hs.waits]
    simp [Pending.register, Event.removal?, or_comm, eq_comm]
  case handed =>
    simpa [Event.handover?] using List.Subset.trans hs.handed (List.subset_append_left _ _)
  case ledger =>
    simp only [registrations_concat, removals_concat, Event.registration?, Event.removal?,
      Option.toList,
      List.append_nil, Pending.register, List.map_append, List.append_assoc]
    exact (List.perm_append_comm.append_left _).trans
      (List.append_assoc .. ▸ hs.ledger.append_right _)

private theorem InStep.keep (hs : InStep ops events p) (hop : ∀ a, op ≠ .register a)
    (he : e.registration? = none)
    (hremoval : e.removal? = none) : InStep (ops ++ [op]) (events ++ [e]) p := by
  constructor
  case orderly => exact hs.orderly
  case numbers => simpa [he, callbacks_concat hop] using hs.numbers
  case last => rw [callbacks_concat hop, hs.last]
  case waits =>
    intro id a
    have hne : e ≠ .registered id a := by
      rintro rfl
      cases he
    simp [waits_concat, hs.waits, hremoval, hne]
  case handed => simpa [he, Event.handover?_of_removal?_eq_none hremoval] using hs.handed
  case ledger => simpa [he, hremoval] using hs.ledger

private theorem InStep.remove (hs : InStep ops events p) (hop : ∀ a, op ≠ .register a)
    (he : e.registration? = none)
    (hremoval : e.removal? = some id) (waits : p.get? id = some a)
    (hhandover : e.handover? = none ∨ e.handover? = some (id, a)) :
    InStep (ops ++ [op]) (events ++ [e]) (p.erase id) := by
  have hregistered : (id, a) ∈ registrations events :=
    ((hs.waits id a).mp (mem_of_get? waits)).mem_registrations
  constructor
  case orderly => exact hs.orderly.erase id
  case numbers => simpa [he, callbacks_concat hop] using hs.numbers
  case last => rw [callbacks_concat hop, ← hs.last, Pending.erase]
  case waits =>
    intro other b
    have hne : e ≠ .registered other b := by
      rintro rfl
      cases he
    simp [waits_concat, mem_erase, hs.waits, hremoval, hne, eq_comm]
  case handed =>
    rcases hhandover with hhandover | hhandover
    · simpa [he, hhandover] using hs.handed
    · simpa [he, hhandover] using ⟨hs.handed, hregistered⟩
  case ledger =>
    have hhere := List.perm_cons_erase (mem_ids_of_get? waits)
    rw [registrations_concat, removals_concat, he, hremoval, Option.toList, Option.toList,
      List.append_nil,
      hs.orderly.ids_erase, ← List.append_assoc]
    refine ((List.perm_append_singleton id _).trans ?_).trans hs.ledger
    exact hhere.symm.append_right (removals events)

private theorem InStep.perform (hs : InStep ops events p)
    (few : (callbacks (ops ++ [op])).length < UInt64.size) :
    InStep (ops ++ [op]) (events ++ [(p.perform op).1]) (p.perform op).2 := by
  cases op with
  | register a =>
    rw [callbacks_concat_register, List.length_append] at few
    exact hs.register few a
  | take id =>
    cases hget : p.get? id with
    | none =>
      simp only [Pending.perform, take_fst, take_snd, erase_of_get?_eq_none hget, hget]
      exact hs.keep (by simp) rfl rfl
    | some a =>
      simp only [Pending.perform, take_fst, take_snd, hget]
      exact hs.remove (by simp) rfl rfl hget (.inr rfl)
  | cancel id =>
    cases hget : p.get? id with
    | none =>
      simp only [Pending.perform, cancel_fst, cancel_snd, erase_of_get?_eq_none hget, hget]
      exact hs.keep (by simp) rfl rfl
    | some a =>
      simp only [Pending.perform, cancel_fst, cancel_snd, hget]
      exact hs.remove (by simp) rfl rfl hget (.inl rfl)
  | contains id => exact hs.keep (by simp) rfl rfl

private theorem inStep_run (ops : List (Op α)) (few : (callbacks ops).length < UInt64.size) :
    InStep ops (run ops).1 (run ops).2 := by
  -- from the last operation back: the bound on the callbacks holds of the earlier operations too
  induction ops using List.reverseRecOn with
  | nil => exact .empty
  | append_singleton ops op ih =>
    have hle : (callbacks ops).length ≤ (callbacks (ops ++ [op])).length := by simp [callbacks]
    rw [run_concat]
    exact (ih (by omega)).perform few

private theorem InStep.ids (hs : InStep ops events p) :
    ((registrations events).map Prod.fst).map UInt64.toNat =
      List.range' 1 (callbacks ops).length := by
  have hnumbers := congrArg (List.map Prod.snd) hs.numbers
  rw [List.zipIdx_map_snd, List.map_map] at hnumbers
  rw [List.map_map]
  exact hnumbers

private theorem InStep.keeps (hs : InStep ops events p) : Keeps ops events p := by
  have hincreasing : ((registrations events).map Prod.fst).Pairwise (· < ·) := by
    have hrange := hs.ids ▸ List.pairwise_lt_range' 1
    exact (List.pairwise_map.mp hrange).imp UInt64.lt_iff_toNat_lt.mpr
  have hremoved : (removals events).Nodup := by
    have hall := hs.ledger.nodup_iff.mpr (hincreasing.imp UInt64.ne_of_lt)
    exact (List.nodup_append.mp hall).2.1
  have hwaits : ∀ id a, p.get? id = some a ↔ Waits events id a := fun id a =>
    hs.orderly.get?_eq_some_iff.trans (hs.waits id a)
  constructor
  case numbers => exact hs.numbers
  case increasing => exact hincreasing
  case take_eq_some_iff => simpa only [take_fst] using hwaits
  case cancel_iff =>
    intro id
    rw [cancel_fst, Option.isSome_iff_exists]
    exact exists_congr (hwaits id)
  case contains_iff =>
    intro id
    rw [Pending.contains, Option.isSome_iff_exists]
    exact exists_congr (hwaits id)
  case handed_once => exact (hremoved.sublist handovers_sublist).of_map.subperm hs.handed
  case removed_once => exact hremoved
  case others =>
    intro id other hne
    simp only [take_fst, take_snd, cancel_snd, get?_erase_of_ne hne, and_self]
  case size => simpa [Pending.size] using hs.ledger.length_eq

end InStep

/-- After any operations, the n-th callback that was taken in has the number n, and a number hands
out the callback that was taken in under it, exactly if the number has not left the table since. No
other number is touched by that, and the table counts what has not left it. -/
theorem requests_accounted_for (ops : List (Op α)) (few : (callbacks ops).length < UInt64.size) :
    Keeps ops (run ops).1 (run ops).2 :=
  (inStep_run ops few).keeps

/-- Numbers that were taken and cancelled are not used again, and are not found again. -/
theorem thirdRequest_accounted_for :
    let ops : List (Op String) :=
      [.register "first", .take 1, .register "second", .cancel 2, .register "third", .take 1]
    (callbacks ops).length < UInt64.size ∧ Keeps ops (run ops).1 (run ops).2 ∧
      Waits (run ops).1 3 "third" ∧ ¬ ∃ a, Waits (run ops).1 2 a := by
  intro ops
  have hkeeps := requests_accounted_for ops (by decide)
  refine ⟨by decide, hkeeps, (hkeeps.take_eq_some_iff 3 "third").mp rfl, fun hwaits => ?_⟩
  exact absurd ((hkeeps.contains_iff 2).mpr hwaits) (by decide)

end ClusterNode.Pending
