import ClusterNode.Proofs.Gossip.Ready
import ClusterNode.Proofs.Gossip.Rest
import Mathlib.Algebra.BigOperators.Group.Finset.Basic
import Mathlib.Algebra.Order.BigOperators.Group.Finset

/-!
Convergence: a cluster in which each value spreads along the neighbors, and comes to rest with each
value at the nodes that it can reach.
-/

set_option autoImplicit false

namespace ClusterNode.Workload.Broadcast

variable {ι : Type} {name : ι → String} {neighbors : ι → List String} {c : Cluster ι}
  {done : List (ι × BroadcastValue)}

private theorem Accounts.start {nodes : ι → Node broadcast}
    (ready : ∀ i, Ready (nodes i) (name i) (neighbors i)) :
    Accounts name neighbors ⟨nodes, []⟩ [] where
  node i := by
    refine ⟨(ready i).spreading, ?_, ?_⟩
    · simp [(ready i).tasks]
    · rw [(ready i).shared]
      simp [Gossip.empty, Gossip.setNeighbors]
  survives := by simp
  wire := by simp
  arrived := by simp
  passed := by
    rintro i j v ⟨u, hu, -⟩
    rw [(ready i).shared] at hu
    cases hu

section Rest

private theorem Due.holds (wire : c.wire = []) (tasks : ∀ i, (c.nodes i).tasks = []) {j : ι}
    {v : BroadcastValue} (h : Due name c j v) : (c.nodes j).shared.Holds v := by
  rcases h with ⟨m, hm, -⟩ | ⟨t, ht, -⟩ | h
  · rw [wire] at hm
    cases hm
  · rw [tasks j] at ht
    cases ht
  · exact h

private theorem Accounts.closed (ha : Accounts name neighbors c done) (wire : c.wire = [])
    (tasks : ∀ i, (c.nodes i).tasks = []) {i j : ι} {v : BroadcastValue}
    (hv : (c.nodes i).shared.Holds v) (hj : name j ∈ neighbors i) : (c.nodes j).shared.Holds v := by
  rcases ha.passed i j v hv hj with h | h
  · simp [toForward, tasks i] at h
  · exact h.holds wire tasks

private theorem Accounts.settled (ha : Accounts name neighbors c done) (wire : c.wire = [])
    (tasks : ∀ i, (c.nodes i).tasks = []) (i : ι) (v : BroadcastValue) :
    (c.nodes i).shared.Holds v ↔ ∃ j u, (j, u) ∈ done ∧ (u == v) = true ∧
      Relation.ReflTransGen (Leads name neighbors) j i := by
  constructor
  · rintro ⟨u, hu, huv⟩
    obtain ⟨j, hj, hreach⟩ := (ha.node i).log u hu
    exact ⟨j, u, hj, huv, hreach⟩
  · rintro ⟨j, u, hj, huv, hreach⟩
    have hstart : (c.nodes j).shared.Holds u := (ha.arrived (j, u) hj).holds wire tasks
    have hend : (c.nodes i).shared.Holds u := by
      induction hreach with
      | refl => exact hstart
      | tail _ hlast ih => exact ha.closed wire tasks ih hlast
    exact hend.congr huv

end Rest

variable [Fintype ι]

/-- What is known of a cluster of nodes whose clients have asked for some values to be broadcast. -/
structure Spread (name : ι → String) (neighbors : ι → List String) (c : Cluster ι)
    (asked : List (ι × BroadcastValue)) : Prop where
  /-- What a node has accepted is what a client has asked for. -/
  fromClients : ∀ i, ∀ u ∈ (c.nodes i).shared.log, ∃ j v, (j, v) ∈ asked ∧ (u == v) = true
  /-- Nothing is forwarded of a value that was not accepted. -/
  unaccepted : ∀ i v, ¬ (c.nodes i).shared.Holds v → forwards v (c.nodes i).written = []
  /-- A value that was accepted has been forwarded, or is still to be, once along each entry of the
  list of neighbors. -/
  accepted : ∀ i v, (c.nodes i).shared.Holds v →
    (forwards v (c.nodes i).written ++ toForward v (c.nodes i)).Perm (neighbors i)
  /-- Once its handlers are done it has been forwarded so. -/
  finished : ∀ i v, (c.nodes i).shared.Holds v →
    (∀ t ∈ (c.nodes i).tasks, t.message.carries v = false) →
      (forwards v (c.nodes i).written).Perm (neighbors i)
  /-- The forwards of a value are no more than the entries of all lists of neighbors. -/
  bounded : ∀ v, ∑ i, (forwards v (c.nodes i).written).length ≤ ∑ i, (neighbors i).length
  /-- No node has stopped reading. -/
  reading : ∀ i, (c.nodes i).verdict = none
  /-- At rest, a value that a node holds its neighbors hold too. -/
  closed : c.wire = [] → (∀ i, (c.nodes i).tasks = []) → ∀ i j v, (c.nodes i).shared.Holds v →
    name j ∈ neighbors i → (c.nodes j).shared.Holds v
  /-- At rest, a value is where it can come to along neighbors from a node that was asked for it. -/
  settled : c.wire = [] → (∀ i, (c.nodes i).tasks = []) → ∀ i v, (c.nodes i).shared.Holds v ↔
    ∃ j u, (j, u) ∈ asked ∧ (u == v) = true ∧ Relation.ReflTransGen (Leads name neighbors) j i

private theorem Accounts.spread (ha : Accounts name neighbors c done) :
    Spread name neighbors c done where
  fromClients i u hu := by
    obtain ⟨j, hj, -⟩ := (ha.node i).log u hu
    exact ⟨j, u, hj, BEq.rfl⟩
  unaccepted i v hv := by
    have hledger := (ha.node i).spreading.ledger v
    rw [if_neg fun h => hv (((ha.node i).spreading.consistent v).mp h)] at hledger
    exact (List.append_eq_nil_iff.mp hledger.eq_nil).1
  accepted i v hv := by
    have hledger := (ha.node i).spreading.ledger v
    rwa [if_pos (((ha.node i).spreading.consistent v).mpr hv)] at hledger
  finished i v hv hdone := by
    have hledger := (ha.node i).spreading.ledger v
    have hnone : toForward v (c.nodes i) = [] := by
      refine List.flatMap_eq_nil_iff.mpr fun t ht => ?_
      simp [share, hdone t ht]
    rw [if_pos (((ha.node i).spreading.consistent v).mpr hv), hnone, List.append_nil] at hledger
    exact hledger
  bounded v := by
    refine Finset.sum_le_sum fun i _ => ?_
    have hlength := ((ha.node i).spreading.ledger v).length_eq
    rw [List.length_append] at hlength
    split at hlength
    · omega
    · rw [List.length_nil] at hlength
      omega
  reading i := (ha.node i).spreading.reading
  closed wire tasks i j v hv hj := ha.closed wire tasks hv hj
  settled wire tasks := ha.settled wire tasks

/-- In every run of a cluster of nodes with distinct names, whatever its clients ask to broadcast
and in whatever order messages arrive, each value spreads along the neighbors, and comes to rest at
the nodes that it can reach. -/
theorem cluster_spreads [DecidableEq ι] (distinct : Function.Injective name)
    {nodes : ι → Node broadcast} (ready : ∀ i, Ready (nodes i) (name i) (neighbors i))
    (moves : List (Move ι)) (clients : ∀ move ∈ moves, move.FromClient name) :
    Spread name neighbors ((⟨nodes, []⟩ : Cluster ι).run name moves) (asked moves) := by
  have hstart : Accounts name neighbors ⟨nodes, []⟩ [] := .start ready
  simpa using (hstart.run distinct clients).spread

section Pair

def pairName : Bool → String
  | false => "a"
  | true => "b"

def pair (i : Bool) : Node broadcast :=
  { Node.start broadcast ⟨1000⟩ with
    identity := some ⟨pairName i, ["a", "b"]⟩
    shared := Gossip.empty.setNeighbors [pairName !i] }

def five : BroadcastValue := ⟨.unsigned 5⟩

def pairRequest : Message :=
  Payload.Plain.message (Payload.Broadcast.broadcast five) "c" "a" (some 1) none

/-- A client asks the first node for the value; its forward arrives at the second, and the one that
comes back is dropped. -/
def passingOn : List (Move Bool) :=
  .client false (Bench.Session.lineBytes pairRequest.encode) ::
    List.replicate 8 (.step false 0 ⟨0, 0⟩ 0) ++
    .deliver true 0 :: List.replicate 8 (.step true 0 ⟨0, 0⟩ 0) ++
      .deliver false 0 :: List.replicate 8 (.step false 0 ⟨0, 0⟩ 1)

private theorem plain_five : Payload.Plain (Payload.Broadcast.broadcast five) "broadcast" :=
  plain_broadcast (Json.survives_unsigned 5)

private theorem read_pairRequest : Reading.ofBytes (Bench.Session.lineBytes pairRequest.encode) =
    .message pairRequest pairRequest.encode := by
  have hlegible : pairRequest.Legible := plain_five.legible
  exact ofBytes_encode hlegible

private theorem pair_passes {c c' : Cluster Bool} {i : Bool} {m : Message}
    (h : c.Handled pairName i m c')
    (new : c.nodes i = pair i) (carried : m.carried? = some five)
    (outside : m.msgId? = none ∨ ∀ j, m.src ≠ pairName j) :
    c'.wire = c.wire ++ [forward (pairName i) (pairName !i) five] ∧ (c'.nodes i).shared.Consistent ∧
      (c'.nodes i).shared.Holds five ∧ (c'.nodes i).shared.neighbors = [pairName !i] := by
  have hconsistent : (pair i).shared.Consistent := fun v => by
    simp [pair, Gossip.contains, Gossip.Holds, Gossip.empty, Gossip.setNeighbors]
  have hnew : ¬ (pair i).shared.Holds five := by
    simp [pair, Gossip.Holds, Gossip.empty, Gossip.setNeighbors]
  obtain ⟨hwire, hshared⟩ := h.of_carried carried outside
  rw [new] at hwire hshared
  refine ⟨?_, ?_, ?_, ?_⟩
  · rw [hwire, Gossip.accept_of_not_holds hconsistent hnew]
    cases i <;> rfl
  · rw [hshared]
    exact hconsistent.accept five
  · rw [hshared]
    exact (Gossip.holds_accept hconsistent).mpr (.inr BEq.rfl)
  · rw [hshared]
    exact Gossip.neighbors_accept _ five

private theorem passingOn_rests :
    ((⟨pair, []⟩ : Cluster Bool).run pairName passingOn).AtRest pairName ∧
    ((⟨pair, []⟩ : Cluster Bool).run pairName passingOn).wire = [] := by
  have hkind : pairRequest.kind = "broadcast" := plain_five.kind
  have hstart : Cluster.AtRest pairName ⟨pair, []⟩ := ⟨fun i => ⟨⟨_, rfl⟩, rfl, rfl⟩, fun i => rfl⟩
  rw [passingOn, Cluster.run_append, Cluster.run_append]
  have hasked := hstart.asks (i := false) read_pairRequest plain_five.inReplyTo?
    (by rw [hkind]; decide)
    (rfl : 8 = _) (rfl : 0 = _) 0 ⟨0, 0⟩
  generalize (⟨pair, []⟩ : Cluster Bool).run pairName (.client false
    (Bench.Session.lineBytes pairRequest.encode) :: List.replicate 8 (.step false 0 ⟨0, 0⟩ 0)) =
      c₁ at hasked ⊢
  obtain ⟨hwire₁, hconsistent₁, hholds₁, hneighbors₁⟩ :=
    pair_passes hasked rfl (carried?_message _ _ _ _ _) (.inr (by decide))
  have hnode₁ : c₁.nodes true = pair true := hasked.others true (by decide)
  have hpassed := hasked.rest.delivers (i := true) hwire₁ (Json.survives_unsigned 5)
    (by rw [hnode₁]; rfl : 8 = _) (by rw [hnode₁]; rfl : 0 = _) 0 ⟨0, 0⟩
  generalize c₁.run pairName (.deliver true 0 :: List.replicate 8 (.step true 0 ⟨0, 0⟩ 0)) =
    c₂ at hpassed ⊢
  obtain ⟨hwire₂, -⟩ := pair_passes hpassed hnode₁ (carried?_forward _ _ _) (.inl rfl)
  have hnode₂ : c₂.nodes false = c₁.nodes false := hpassed.others false (by decide)
  have hdropped := hpassed.rest.delivers (i := false) hwire₂ (Json.survives_unsigned 5)
    (by rw [hnode₂, hneighbors₁]; rfl : 8 = _)
    (by rw [hnode₂, hasked.nextTask]; rfl : 1 = _) 0 ⟨0, 0⟩
  obtain ⟨hwire₃, -⟩ := hdropped.of_carried (carried?_forward _ _ _) (.inl rfl)
  refine ⟨hdropped.rest, ?_⟩
  rw [hwire₃, hnode₂, Gossip.accept_of_holds hconsistent₁ hholds₁]
  rfl

theorem passingOn_spreads :
    Function.Injective pairName ∧ (∀ i, Ready (pair i) (pairName i) [pairName !i]) ∧
      (∀ move ∈ passingOn, move.FromClient pairName) ∧
      Spread pairName (fun i => [pairName !i]) ((⟨pair, []⟩ : Cluster Bool).run pairName passingOn)
        (asked passingOn) ∧
      ((⟨pair, []⟩ : Cluster Bool).run pairName passingOn).wire = [] ∧
      ∀ i, (((⟨pair, []⟩ : Cluster Bool).run pairName passingOn).nodes i).tasks = [] ∧
        (((⟨pair, []⟩ : Cluster Bool).run pairName passingOn).nodes i).shared.Holds five := by
  have distinct : Function.Injective pairName := by decide
  have ready : ∀ i, Ready (pair i) (pairName i) [pairName !i] := fun i =>
    ⟨⟨_, rfl⟩, rfl, rfl, rfl, rfl, by simp [pair, Node.start]⟩
  have hcarried : pairRequest.carried? = some five := carried?_message _ _ _ _ _
  have clients : ∀ move ∈ passingOn, move.FromClient pairName := by
    intro move hmove
    simp only [passingOn, List.mem_cons, List.mem_append, List.mem_replicate] at hmove
    rcases hmove with ((rfl | ⟨-, rfl⟩) | rfl | ⟨-, rfl⟩) | rfl | ⟨-, rfl⟩
    · exact ⟨pairRequest, _, five, read_pairRequest, by decide, plain_five.inReplyTo?, hcarried,
        Json.survives_unsigned 5⟩
    all_goals trivial
  have spread := cluster_spreads distinct ready passingOn clients
  obtain ⟨hrest, hwire⟩ := passingOn_rests
  have hasked : (false, five) ∈ asked passingOn := by
    refine List.mem_filterMap.mpr ⟨_, List.mem_cons_self, ?_⟩
    simp [lineValue?, read_pairRequest, hcarried]
  refine ⟨distinct, ready, clients, spread, hwire, fun i => ⟨hrest.tasks i, ?_⟩⟩
  refine (spread.settled hwire hrest.tasks i five).mpr ⟨false, five, hasked, BEq.rfl, ?_⟩
  cases i with
  | false => exact .refl
  | true => exact .single (List.mem_singleton.mpr rfl)

end Pair

end ClusterNode.Workload.Broadcast
