import ClusterNode.Gossip.Value
import ClusterNode.Proofs.Gossip.State
import Mathlib.Data.List.Infix

/-!
Histories of gossip: what is answered to any operations in any order, and what is held after them.
The set and the log of the accepted values stay in step, and new neighbors show in nothing but what
is handed out later.
-/

set_option autoImplicit false

namespace ClusterNode.Gossip

/-- What is asked of gossip. -/
inductive Op (α : Type) where
  | accept (v : α)
  | contains (v : α)
  | snapshot
  | size
  | setNeighbors (neighbors : List String)
  | neighbors

/-- What is answered. -/
inductive Reply (α : Type) where
  | accepted (acceptance : Acceptance)
  | found (answer : Bool)
  | values (snapshot : List α)
  | count (size : Nat)
  | done
  | neighbors (names : List String)

variable {α : Type}

def Reply.forget : Reply α → Reply α
  | .accepted (.fresh _) => .accepted (.fresh [])
  | .neighbors _ => .neighbors []
  | r => r

def offered (h : List (Op α)) : List α :=
  h.filterMap fun
    | .accept v => some v
    | _ => none

def assigned (h : List (Op α)) : List String :=
  h.foldl (fun names op => match op with
    | .setNeighbors names => names
    | _ => names) []

def freshIn (journal : List (Op α × Reply α)) : List α :=
  journal.filterMap fun
    | (.accept v, .accepted (.fresh _)) => some v
    | _ => none

section Histories

variable {h : List (Op α)} {op : Op α}

@[simp] theorem offered_concat_accept {v : α} : offered (h ++ [.accept v]) = offered h ++ [v] := by
  simp [offered]

private theorem offered_concat (hop : ∀ v, op ≠ .accept v) : offered (h ++ [op]) = offered h := by
  cases op <;> simp [offered] at hop ⊢

@[simp] theorem assigned_concat_setNeighbors {names : List String} :
    assigned (h ++ [.setNeighbors names]) = names := by
  simp [assigned]

private theorem assigned_concat (hop : ∀ names, op ≠ .setNeighbors names) :
    assigned (h ++ [op]) = assigned h := by
  cases op <;> simp [assigned] at hop ⊢

private theorem freshIn_append (journal entries : List (Op α × Reply α)) :
    freshIn (journal ++ entries) = freshIn journal ++ freshIn entries := List.filterMap_append

end Histories

variable [BEq α] [Hashable α]

/-- Answers one operation. -/
def perform (g : Gossip α) : Op α → Reply α × Gossip α
  | .accept v => (.accepted (g.accept v).1, (g.accept v).2)
  | .contains v => (.found (g.contains v), g)
  | .snapshot => (.values g.snapshot, g)
  | .size => (.count g.size, g)
  | .setNeighbors names => (.done, g.setNeighbors names)
  | .neighbors => (.neighbors g.neighbors, g)

/-- What is held after some operations. -/
def after (g : Gossip α) (h : List (Op α)) : Gossip α :=
  h.foldl (fun g op => (g.perform op).2) g

/-- Some operations with their answers. -/
def journal : Gossip α → List (Op α) → List (Op α × Reply α)
  | _, [] => []
  | g, op :: h => (op, (g.perform op).1) :: journal (g.perform op).2 h

section Journal

variable {g g' : Gossip α} {h more : List (Op α)} {op : Op α} {v : α}

private theorem after_append : g.after (h ++ more) = (g.after h).after more := List.foldl_append

private theorem after_concat : g.after (h ++ [op]) = ((g.after h).perform op).2 := after_append

private theorem journal_append :
    g.journal (h ++ more) = g.journal h ++ (g.after h).journal more := by
  induction h generalizing g with
  | nil => rfl
  | cons op h ih => exact congrArg (_ :: ·) ih

private theorem perform_keeps (hop : ∀ v, op ≠ .accept v) :
    (g.perform op).2.seen = g.seen ∧ (g.perform op).2.log = g.log ∧
      freshIn [(op, (g.perform op).1)] = [] := by
  cases op with
  | accept v => exact absurd rfl (hop v)
  | _ => exact ⟨rfl, rfl, rfl⟩

private theorem log_prefix_perform : g.log <+: (g.perform op).2.log := by
  cases op with
  | accept v =>
    simp only [perform, accept, record]
    split
    · exact List.prefix_rfl
    · exact List.prefix_append _ _
  | _ => exact List.prefix_rfl

private theorem log_prefix_after : g.log <+: (g.after h).log := by
  induction h generalizing g with
  | nil => exact List.prefix_rfl
  | cons op h ih => exact log_prefix_perform.trans ih

end Journal

structure Alike (g g' : Gossip α) : Prop where
  seen : g.seen = g'.seen
  log : g.log = g'.log

section Alike

variable {g g' : Gossip α}

private theorem Alike.perform (h : g.Alike g') (op : Op α) :
    (g.perform op).1.forget = (g'.perform op).1.forget ∧
      (g.perform op).2.Alike (g'.perform op).2 := by
  cases op with
  | accept v =>
    have hcontains : g.contains v =
      g'.contains v := by rw [Gossip.contains, Gossip.contains, h.seen]
    by_cases hv : g.contains v = true
    · rw [Gossip.perform, Gossip.perform, accept_of_contains hv,
        accept_of_contains (hcontains ▸ hv)]
      exact ⟨rfl, h⟩
    · rw [Gossip.perform, Gossip.perform, accept_of_not_contains hv,
        accept_of_not_contains (hcontains ▸ hv)]
      exact ⟨rfl, congrArg (·.insert v) h.seen, congrArg (· ++ [v]) h.log⟩
  | contains v => exact ⟨congrArg (Reply.found <| Std.HashSet.contains · v) h.seen, h⟩
  | snapshot => exact ⟨congrArg Reply.values h.log, h⟩
  | size => exact ⟨congrArg (Reply.count <| List.length ·) h.log, h⟩
  | setNeighbors names => exact ⟨rfl, h.seen, h.log⟩
  | neighbors => exact ⟨rfl, h⟩

private theorem Alike.journal (h : g.Alike g') (ops : List (Op α)) :
    (g.journal ops).map (Prod.map id Reply.forget) =
      (g'.journal ops).map (Prod.map id Reply.forget) := by
  induction ops generalizing g g' with
  | nil => rfl
  | cons op ops ih =>
    obtain ⟨hreply, hnext⟩ := h.perform op
    simp only [Gossip.journal, List.map_cons, Prod.map, id, hreply, ih hnext]

end Alike

/-- What holds after some operations: which values are fresh, which are held, in which order, and
what the neighbors are. -/
structure Keeps (h : List (Op α)) (g : Gossip α) : Prop where
  fresh_iff : ∀ v names, (g.accept v).1 = .fresh names ↔
    (¬ ∃ u ∈ offered h, (u == v) = true) ∧ names = assigned h
  snapshot : g.snapshot = freshIn (empty.journal h)
  distinct : g.snapshot.Pairwise fun u v => ¬ (u == v) = true
  contains_iff : ∀ v, g.contains v = true ↔ ∃ u ∈ g.snapshot, (u == v) = true
  size : g.size = g.snapshot.length
  neighbors : g.neighbors = assigned h

/-- The accepted values and the neighbors agree with the operations so far. -/
structure InStep (h : List (Op α)) (g : Gossip α) : Prop where
  consistent : g.Consistent
  offered : ∀ v, g.Holds v ↔ ∃ u ∈ offered h, (u == v) = true
  fresh : g.log = freshIn (empty.journal h)
  distinct : g.log.Pairwise fun u v => ¬ (u == v) = true
  neighbors : g.neighbors = assigned h

section InStep

variable {g : Gossip α} {h : List (Op α)} {op : Op α} {v : α}

private theorem InStep.empty : InStep (α := α) [] Gossip.empty where
  consistent v := by simp [Gossip.contains, Gossip.empty, Holds]
  offered v := by simp [Holds, Gossip.empty, Gossip.offered]
  fresh := rfl
  distinct := List.Pairwise.nil
  neighbors := rfl

private theorem InStep.accept [EquivBEq α] [LawfulHashable α] (hg : InStep h g)
    (reached : Gossip.empty.after h = g) (v : α) :
    InStep (h ++ [.accept v]) (g.accept v).2 where
  consistent := hg.consistent.accept v
  offered u := by
    rw [holds_accept hg.consistent, hg.offered]
    simp [or_and_right, exists_or]
  fresh := by
    rw [journal_append, freshIn_append, reached, ← hg.fresh]
    by_cases hv : g.Holds v
    · simp [journal, perform, accept_of_holds hg.consistent hv, freshIn]
    · simp [journal, perform, accept_of_not_holds hg.consistent hv, freshIn]
  distinct := by
    by_cases hv : g.Holds v
    · rw [accept_of_holds hg.consistent hv]
      exact hg.distinct
    · rw [accept_of_not_holds hg.consistent hv]
      refine List.pairwise_append.mpr
        ⟨hg.distinct, List.pairwise_singleton _ _, fun u hu w hw huw => ?_⟩
      rw [List.mem_singleton.mp hw] at huw
      exact hv ⟨u, hu, huw⟩
  neighbors := by rw [neighbors_accept, hg.neighbors, assigned_concat (by simp)]

private theorem InStep.other (hg : InStep h g) (reached : Gossip.empty.after h = g)
    (hop : ∀ v, op ≠ .accept v) :
    InStep (h ++ [op]) (g.perform op).2 := by
  obtain ⟨hseen, hlog, hfresh⟩ := perform_keeps (g := g) hop
  constructor
  case consistent =>
    intro v
    simpa only [Gossip.contains, Holds, hseen, hlog] using hg.consistent v
  case offered =>
    intro v
    rw [offered_concat hop, ← hg.offered, Holds, Holds, hlog]
  case fresh =>
    rw [hlog, journal_append, freshIn_append, reached, hg.fresh]
    exact (List.append_nil _).symm.trans (congrArg _ hfresh.symm)
  case distinct => exact hlog ▸ hg.distinct
  case neighbors =>
    cases op with
    | setNeighbors names => exact assigned_concat_setNeighbors.symm
    | accept v => exact absurd rfl (hop v)
    | _ => exact hg.neighbors.trans (assigned_concat (by simp)).symm

private theorem inStep_after [EquivBEq α] [LawfulHashable α] (h : List (Op α)) :
    InStep h (Gossip.empty.after h) := by
  induction h using List.reverseRecOn with
  | nil => exact .empty
  | append_singleton h op ih =>
    rw [after_concat]
    by_cases hop : ∃ v, op = .accept v
    · obtain ⟨v, rfl⟩ := hop
      exact ih.accept rfl v
    · exact ih.other rfl (not_exists.mp hop)

private theorem InStep.keeps (hg : InStep h g) : Keeps h g where
  fresh_iff v names := by
    rw [← hg.offered, ← hg.neighbors]
    by_cases hv : g.Holds v
    · simp [accept_of_holds hg.consistent hv, hv]
    · simp [accept_of_not_holds hg.consistent hv, hv, eq_comm]
  snapshot := hg.fresh
  distinct := hg.distinct
  contains_iff := hg.consistent
  size := rfl
  neighbors := hg.neighbors

end InStep

/-- After any operations, an offered value is fresh exactly if no equal one was offered before, and
comes with the neighbors that were set last. The snapshot lists the fresh values in order, and only
grows at its end. Setting neighbors changes no answer but the neighbors in later ones. -/
theorem keeps_any_history [EquivBEq α] [LawfulHashable α] (h : List (Op α)) :
    Keeps h (Gossip.empty.after h) ∧
      (∀ more, ((Gossip.empty : Gossip α).after h).snapshot <+:
        (Gossip.empty.after (h ++ more)).snapshot) ∧
      ∀ names more, ∃ later unset,
        (Gossip.empty : Gossip α).journal (h ++ .setNeighbors names :: more) =
          Gossip.empty.journal h ++ (.setNeighbors names, .done) :: later ∧
        (Gossip.empty : Gossip α).journal (h ++ more) = Gossip.empty.journal h ++ unset ∧
        later.map (Prod.map id Reply.forget) = unset.map (Prod.map id Reply.forget) := by
  refine ⟨(inStep_after h).keeps, fun more => ?_, fun names more => ?_⟩
  · rw [after_append]
    exact log_prefix_after
  · rw [journal_append, journal_append]
    have halike : ((Gossip.empty.after h).perform (.setNeighbors names)).2.Alike
      (Gossip.empty.after h) := ⟨rfl, rfl⟩
    exact ⟨_, _, rfl, rfl, halike.journal more⟩

/-- A number that was accepted is not fresh in another spelling, and another number is. -/
theorem keeps_history_of_one :
    let one : BroadcastValue := ⟨.unsigned 1⟩
    let respelled : BroadcastValue := ⟨.double ⟨false, ⟨4607182418800017408, by decide⟩⟩⟩
    let g := Gossip.empty.after [.setNeighbors ["n1"], .accept one, .size, .setNeighbors ["n2"]]
    (∀ names, (g.accept respelled).1 ≠ .fresh names) ∧ (g.accept ⟨.unsigned 2⟩).1 =
        .fresh ["n2"] := by
  intro one respelled g
  have hkeeps := (keeps_any_history
    [.setNeighbors ["n1"], .accept one, .size, .setNeighbors ["n2"]]).1
  refine ⟨fun names hfresh => ?_, (hkeeps.fresh_iff _ _).mpr ⟨?_, rfl⟩⟩
  · exact ((hkeeps.fresh_iff _ _).mp hfresh).1 ⟨one, List.mem_singleton_self one, by decide +kernel⟩
  · rintro ⟨u, hu, heq⟩
    rw [List.mem_singleton.mp hu] at heq
    exact absurd heq (by decide +kernel)

end ClusterNode.Gossip
