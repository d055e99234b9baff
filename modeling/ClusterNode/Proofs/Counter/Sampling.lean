import ClusterNode.Proofs.Counter.Race
import ClusterNode.Proofs.Counter.Serving

/-!
A sum that is taken while additions go on: it counts the value of each key at an instant of its own.
So it counts every addition that was committed before it began and none that was committed after its
end, but it need not be the total of any single instant.
-/

set_option autoImplicit false

namespace ClusterNode.Counter

open Workload.Counter (Served served)

/-- The value of the key of a node, absent counting as zero. -/
def valueOf (store : KvStore) (node : String) : Int :=
  ((Dictionary.get? (keyOf node) store).getD 0).toInt

/-- The total of some nodes at one instant. -/
def totalOf (store : KvStore) (nodes : List String) : Int :=
  (nodes.map (valueOf store)).sum

/-- The additions whose swap the store took, in the order in which it did. -/
def winners {ι : Type} (calls : List (Made ι)) : List ι :=
  (calls.filter Made.wins).map Made.maker

def Race.Committed {ι : Type} (r : Race ι) (i : ι) : Prop :=
  i ∈ winners r.calls

def addedTo {ι : Type} (add : ι → Add) (node : String) (is : List ι) : Int :=
  ((is.filter fun i => (add i).node = node).map fun i => (add i).delta.toInt).sum

section Winners

variable {ι : Type} {add : ι → Add} {node : String} {calls more : List (Made ι)} {is js : List ι}

private theorem winners_append : winners (calls ++ more) = winners calls ++ winners more := by
  simp [winners]

private theorem winners_singleton (x : Made ι) :
    winners [x] = if x.wins then [x.maker] else [] := by
  cases hx : x.wins <;> simp [winners, hx]

private theorem addedTo_append :
    addedTo add node (is ++ js) = addedTo add node is + addedTo add node js := by
  simp [addedTo]

private theorem addedTo_nonneg (node : String) (h : ∀ i ∈ is, 0 ≤ (add i).delta.toInt) :
    0 ≤ addedTo add node is := by
  refine List.sum_nonneg fun d hd => ?_
  obtain ⟨i, hi, rfl⟩ := List.mem_map.mp hd
  exact h i (List.mem_of_mem_filter hi)

end Winners

section Booked

variable {ι : Type} {add : ι → Add} {store : KvStore} {r : Race ι} {i : ι}

def Race.account (r : Race ι) (add : ι → Add) (i : ι) : Account where
  present := (Dictionary.get? (add i).key r.store).isSome
  spent := r.Committed i
  landed := r.Committed i

/-- A race whose store holds, for each node, what it held in the beginning and the committed
additions. -/
structure Booked (add : ι → Add) (store : KvStore) (r : Race ι) : Prop where
  stands : ∀ i, (add i).Stands (r.account add i) (r.states i)
  once : (winners r.calls).Nodup
  value : ∀ node, valueOf r.store node = valueOf store node + addedTo add node (winners r.calls)

private theorem Booked.start (add : ι → Add) (store : KvStore) :
    Booked add store (Race.start store) where
  stands _ := by simp [Race.start, Add.start, Add.Stands, Race.account, Race.Committed, winners]
  once := List.nodup_nil
  value node := by simp [Race.start, winners, addedTo]

private theorem wins_of_served {a : Add} {store' : KvStore} {c : StoreCall} {answer : StoreAnswer}
    {taken : Bool}
    (h : Served a store c answer store' taken) : (⟨i, c, answer⟩ : Made ι).wins = taken := by
  cases h <;> rfl

variable [DecidableEq ι]

private theorem Race.step_call {c : StoreCall} {next : StoreAnswer → Add.State}
    (h : (add i).move (r.states i) = .call c next) : r.step add i =
    { store := (r.store.perform c).2
      states := Function.update r.states i (next (r.store.perform c).1)
      calls := r.calls ++ [⟨i, c, (r.store.perform c).1⟩] } := by
  simp only [step, h]

private theorem Booked.call (hb : Booked add store r) {c : StoreCall}
    {next : StoreAnswer → Add.State}
    (hmove : (add i).move (r.states i) = .call c next) : Booked add store (r.step add i) := by
  obtain ⟨hunspent, hasks⟩ := (hb.stands i).call hmove
  have hserved := served hasks id
  have hwins := wins_of_served (i := i) hserved
  rw [Race.step_call hmove]
  generalize r.store.perform c = outcome at hserved hwins ⊢
  generalize r.store.takes c = taken at hserved hwins
  obtain ⟨answer, store'⟩ := outcome
  have hwinners : winners (r.calls ++ [⟨i, c, answer⟩]) =
      winners r.calls ++ if taken then [i] else [] := by
    rw [winners_append, winners_singleton, hwins]
  have hnew : i ∉ winners r.calls := hunspent
  refine ⟨fun j => ?_, ?_, fun node => ?_⟩
  · by_cases hj : j = i
    · subst hj
      simp only [Function.update_self]
      refine Add.stands_next hmove ?_ ?_
      · cases hserved <;>
          simp [Account.Awaits, Race.account, Race.Committed, hwinners, hnew]
      · cases hserved with
        | read => exact ⟨_, rfl, id⟩
        | swapped sum => exact .inl ⟨rfl, by simp [Race.account, Race.Committed, hwinners]⟩
        | lost =>
          exact .inr ⟨⟨_, _, _, rfl⟩, by simpa [Race.account, Race.Committed, hwinners] using hnew⟩
    · simp only [Function.update_of_ne hj]
      have hsame : j ∈ winners (r.calls ++ [⟨i, c, answer⟩]) ↔ j ∈ winners r.calls := by
        rw [hwinners]
        cases taken <;> simp [hj]
      exact (hb.stands j).ages ⟨fun h => hserved.present h, hsame.mp, hsame.mpr⟩
  · rw [hwinners]
    cases taken with
    | false => simpa using hb.once
    | true =>
      exact List.concat_eq_append ▸ List.Nodup.concat hnew hb.once
  · have hkey : keyOf node = (add i).key ↔ (add i).node = node :=
      ⟨fun h => (keyOf_injective h).symm, fun h => by rw [Add.key, h]⟩
    rw [hwinners, addedTo_append, ← Int.add_assoc, ← hb.value node]
    simp only [valueOf, hserved.value, hkey]
    congr 1
    cases taken with
    | false => simp [addedTo]
    | true => by_cases hnode : (add i).node = node <;> simp [addedTo, hnode]

private theorem Booked.step (hb : Booked add store r) (i : ι) :
    Booked add store (r.step add i) := by
  cases hmove : (add i).move (r.states i) with
  | call c next => exact hb.call hmove
  | pause d next =>
    have hstep : r.step add i = { r with states := Function.update r.states i next } := by
      simp only [Race.step, hmove]
    rw [hstep]
    refine ⟨fun j => ?_, hb.once, hb.value⟩
    by_cases hj : j = i
    · subst hj
      simp only [Function.update_self]
      exact (hb.stands j).pause hmove
    · simp only [Function.update_of_ne hj]
      exact hb.stands j
  | done result =>
    have hstep : r.step add i = r := by simp only [Race.step, hmove]
    rw [hstep]
    exact hb

private theorem Booked.run (hb : Booked add store r) (schedule : List ι) :
    Booked add store (r.run add schedule) := by
  induction schedule generalizing r with
  | nil => exact hb
  | cons i schedule ih => exact ih (hb.step i)

private theorem Race.calls_prefix_run (add : ι → Add) (r : Race ι) (schedule : List ι) :
    r.calls <+: (r.run add schedule).calls := by
  induction schedule generalizing r with
  | nil => exact List.prefix_rfl
  | cons i schedule ih =>
    refine List.IsPrefix.trans ?_ (ih (r.step add i))
    simp only [step]
    split
    · exact List.prefix_append _ _
    · exact List.prefix_rfl
    · exact List.prefix_rfl

private theorem Race.winners_prefix_run (add : ι → Add) (r : Race ι) (schedule : List ι) :
    winners r.calls <+: winners (r.run add schedule).calls :=
  ((Race.calls_prefix_run add r schedule).filter _).map _

private theorem Race.run_append (add : ι → Add) (r : Race ι) (first second : List ι) :
    r.run add (first ++ second) = (r.run add first).run add second :=
  List.foldl_append

end Booked

inductive Turn (ι : Type) where
  | addition (i : ι)
  | sum

def Turn.addition? {ι : Type} : Turn ι → Option ι
  | .addition i => some i
  | .sum => none

structure Tally (ι : Type) where
  race : Race ι
  sum : Total.State

namespace Tally

variable {ι : Type} [DecidableEq ι]

def start (race : Race ι) (nodes : List String) : Tally ι := ⟨race, Total.start nodes⟩

/-- One of the additions takes a step, or the sum. A sum that is over does nothing. -/
def step (add : ι → Add) (s : Tally ι) : Turn ι → Tally ι
  | .addition i => { s with race := s.race.step add i }
  | .sum =>
    match Total.move s.sum with
    | .call c next =>
      let (answer, store) := s.race.store.perform c
      ⟨{ s.race with store }, next answer⟩
    | .pause _ next => { s with sum := next }
    | .done _ => s

def run (add : ι → Add) (s : Tally ι) (schedule : List (Turn ι)) : Tally ι :=
  schedule.foldl (step add) s

/-- The store at an instant: after so many steps of a schedule. -/
def storeAt (add : ι → Add) (s : Tally ι) (schedule : List (Turn ι)) (instant : Nat) : KvStore :=
  (s.run add (schedule.take instant)).race.store

variable {add : ι → Add} {s : Tally ι} {schedule : List (Turn ι)} {total : Int64} {node : String}
  {nodes : List String}

private theorem step_summing (add : ι → Add) (h : s.sum = .summing total (node :: nodes)) :
    s.step add .sum = { s with
      sum := Total.afterRead total node nodes
        (.ok (Dictionary.get? (keyOf node) s.race.store)) } := by
  simp only [step, h, Total.move]
  rfl

private theorem run_sum_of_done {result : Except StoreError Int64}
    (h : Total.move s.sum = .done result)
    (schedule : List (Turn ι)) : (s.run add schedule).sum = s.sum := by
  induction schedule generalizing s with
  | nil => rfl
  | cons turn schedule ih =>
    have hstep : (s.step add turn).sum = s.sum := by
      cases turn with
      | addition i => rfl
      | sum => simp only [step, h]
    rw [run, List.foldl_cons, ← run, ih (by rw [hstep, h]), hstep]

private theorem run_race (add : ι → Add) (s : Tally ι) (schedule : List (Turn ι)) :
    (s.run add schedule).race = s.race.run add (schedule.filterMap Turn.addition?) := by
  induction schedule generalizing s with
  | nil => rfl
  | cons turn schedule ih =>
    rw [run, List.foldl_cons, ← run, ih]
    cases turn with
    | addition i => rfl
    | sum =>
      have hstep : (s.step add .sum).race = s.race := by
        cases hsum : s.sum with
        | done result => simp only [step, hsum, Total.move]
        | summing total nodes =>
          cases nodes with
          | nil => simp only [step, hsum, Total.move]
          | cons node nodes => rw [step_summing add hsum]
      rw [hstep]
      rfl

/-- The instants at which a sum reads, and what they bring: they follow each other in the order of
the nodes, and the values at them make up what is added to the sum. -/
structure Reads (add : ι → Add) (s : Tally ι) (schedule : List (Turn ι)) (nodes : List String)
    (added : Int) (instants : List Nat) : Prop where
  each : instants.length = nodes.length
  ordered : instants.Pairwise (· < ·)
  within : ∀ instant ∈ instants, instant < schedule.length
  added_eq : added =
    ((nodes.zip instants).map fun sample => valueOf (s.storeAt add schedule sample.2) sample.1).sum

private theorem Reads.later {turn : Turn ι} {added : Int} {instants : List Nat}
    (h : Reads add (s.step add turn) schedule nodes added instants) :
    Reads add s (turn :: schedule) nodes added (instants.map (· + 1)) where
  each := by rw [List.length_map, h.each]
  ordered := List.pairwise_map.mpr (h.ordered.imp fun hlt => Nat.add_lt_add_right hlt 1)
  within := by
    intro instant hinstant
    obtain ⟨earlier, hearlier, rfl⟩ := List.mem_map.mp hinstant
    exact Nat.succ_lt_succ (h.within earlier hearlier)
  added_eq := by
    rw [h.added_eq, List.zip_map_right, List.map_map]
    rfl

private theorem Reads.now {turn : Turn ι} {added : Int} {instants : List Nat}
    (h : Reads add s (turn :: schedule) nodes added (instants.map (· + 1))) :
    Reads add s (turn :: schedule) (node :: nodes) (valueOf s.race.store node + added)
      (0 :: instants.map (· + 1)) where
  each := by rw [List.length_cons, List.length_cons, h.each]
  ordered := by
    refine List.pairwise_cons.mpr ⟨fun instant hinstant => ?_, h.ordered⟩
    obtain ⟨earlier, -, rfl⟩ := List.mem_map.mp hinstant
    exact Nat.succ_pos earlier
  within := List.forall_mem_cons.mpr ⟨Nat.succ_pos _, h.within⟩
  added_eq := by
    rw [h.added_eq, List.zip_cons_cons, List.map_cons, List.sum_cons]
    rfl

private theorem exists_reads {acc : Int64} (hsum : s.sum = .summing acc nodes)
    (done : Total.move (s.run add schedule).sum = .done (.ok total)) :
    ∃ added instants, total.toInt = acc.toInt + added ∧
      Reads add s schedule nodes added instants := by
  induction schedule generalizing s acc nodes with
  | nil =>
    have hmove : Total.move (.summing acc nodes) = .done (.ok total) := hsum ▸ done
    cases nodes with
    | nil =>
      obtain rfl := Except.ok.inj (StoreMove.done.inj hmove)
      exact ⟨0, [], by simp, rfl, .nil, by simp, by simp⟩
    | cons node nodes => cases hmove
  | cons turn schedule ih =>
    have hrest : Total.move ((s.step add turn).run add schedule).sum = .done (.ok total) := done
    have hlater : (s.step add turn).sum = .summing acc nodes →
        ∃ added instants, total.toInt = acc.toInt + added ∧
          Reads add s (turn :: schedule) nodes added instants := by
      intro hsame
      obtain ⟨added, instants, htotal, hreads⟩ := ih hsame hrest
      exact ⟨added, _, htotal, hreads.later⟩
    cases turn with
    | addition i => exact hlater hsum
    | sum =>
      cases nodes with
      | nil => exact hlater (by simp only [step, hsum, Total.move])
      | cons node nodes =>
        have hstep := step_summing add hsum
        generalize hread : Dictionary.get? (keyOf node) s.race.store = value at hstep
        cases hchecked : checkedAdd acc (value.getD 0) with
        | none =>
          simp only [Total.afterRead, hchecked] at hstep
          rw [run_sum_of_done (by rw [hstep]; rfl), hstep] at hrest
          cases hrest
        | some acc' =>
          simp only [Total.afterRead, hchecked] at hstep
          obtain ⟨added, instants, htotal, hreads⟩ := ih (by rw [hstep]) hrest
          refine ⟨valueOf s.race.store node + added, _, ?_, hreads.later.now⟩
          rw [htotal, toInt_of_checkedAdd hchecked, valueOf, hread, Int.add_assoc]

end Tally

section Samples

variable {ι : Type} [DecidableEq ι] {add : ι → Add} {store : KvStore} {r : Race ι}

private theorem valueOf_le_run (hb : Booked add store r) (schedule : List ι) (node : String)
    (nonneg : ∀ i, (r.run add schedule).Committed i → ¬ r.Committed i → 0 ≤ (add i).delta.toInt) :
    valueOf r.store node ≤ valueOf (r.run add schedule).store node := by
  obtain ⟨more, hmore⟩ := Race.winners_prefix_run add r schedule
  have hnodup := (hb.run schedule).once
  rw [← hmore] at hnodup
  have hnew : ∀ i ∈ more, 0 ≤ (add i).delta.toInt := fun i hi =>
    nonneg i (by rw [Race.Committed, ← hmore]; exact List.mem_append_right _ hi)
      fun hold => (List.nodup_append.mp hnodup).2.2 i hold i hi rfl
  rw [(hb.run schedule).value, hb.value, ← hmore, addedTo_append]
  have := addedTo_nonneg node hnew
  omega

private theorem Booked.exists_counted (hb : Booked add store r) (node : String) :
    ∃ counted : Finset ι, (∀ i, i ∈ counted ↔ r.Committed i ∧ (add i).node = node) ∧
      valueOf r.store node = valueOf store node + ∑ i ∈ counted, (add i).delta.toInt := by
  have hnodup := hb.once.filter fun i => (add i).node = node
  refine ⟨((winners r.calls).filter fun i => (add i).node = node).toFinset, fun i => ?_, ?_⟩
  · simp [Race.Committed]
  · rw [hb.value, addedTo, List.sum_toFinset _ hnodup]

/-- What the total of some nodes is that is taken between two states of a race. -/
structure Samples (add : ι → Add) (store : KvStore) (s : Tally ι) (schedule : List (Turn ι))
    (nodes : List String) (total : Int64) : Prop where
  /-- It adds up the value of each node at an instant of its own, in the order of the nodes. What it
  counts of a node is what its key held in the very beginning and some of the committed additions:
  all that were committed before the sum began, and none that was committed after its end. -/
  sampled : ∃ instants, Tally.Reads add s schedule nodes total.toInt instants ∧
    ∀ node instant, (node, instant) ∈ nodes.zip instants → ∃ counted : Finset ι,
      valueOf (s.storeAt add schedule instant) node =
        valueOf store node + ∑ i ∈ counted, (add i).delta.toInt ∧
      (∀ i, s.race.Committed i → (add i).node = node → i ∈ counted) ∧
      ∀ i ∈ counted, (s.run add schedule).race.Committed i ∧ (add i).node = node
  /-- If nothing is negative that is committed meanwhile, it lies between the totals at its
  beginning and at its end. -/
  between : (∀ i, (s.run add schedule).race.Committed i → ¬ s.race.Committed i →
      0 ≤ (add i).delta.toInt) →
    totalOf s.race.store nodes ≤ total.toInt ∧
      total.toInt ≤ totalOf (s.run add schedule).race.store nodes

private theorem sum_between {nodes : List String} {instants : List Nat} {low high : String → Int}
    {sample : String × Nat → Int} (each : instants.length = nodes.length)
    (h : ∀ node instant, (node, instant) ∈ nodes.zip instants →
      low node ≤ sample (node, instant) ∧ sample (node, instant) ≤ high node) :
    (nodes.map low).sum ≤ ((nodes.zip instants).map sample).sum ∧
      ((nodes.zip instants).map sample).sum ≤ (nodes.map high).sum := by
  induction nodes generalizing instants with
  | nil => simp
  | cons node nodes ih =>
    cases instants with
    | nil => cases each
    | cons instant instants =>
      obtain ⟨hlow, hhigh⟩ := h node instant (by simp)
      obtain ⟨hlows, hhighs⟩ := ih (Nat.succ.inj each) fun node instant hmem =>
        h node instant (List.mem_cons_of_mem _ hmem)
      simp only [List.zip_cons_cons, List.map_cons, List.sum_cons]
      exact ⟨Int.add_le_add hlow hlows, Int.add_le_add hhigh hhighs⟩

/-- Any number of additions take their steps on a store, and a sum over some nodes begins among
them. If it is over with a total at the end of a schedule, be that the instant at which it returns
or a later one, it has sampled the nodes. -/
theorem total_sampled (add : ι → Add) (store : KvStore) (earlier : List ι) (nodes : List String)
    (schedule : List (Turn ι)) (total : Int64)
    (done : Total.move
      ((Tally.start ((Race.start store).run add earlier) nodes).run add schedule).sum =
        .done (.ok total)) :
    Samples add store (Tally.start ((Race.start store).run add earlier) nodes)
      schedule nodes total := by
  have hb : Booked add store ((Race.start store).run add earlier) :=
    (Booked.start add store).run earlier
  revert done hb
  generalize (Race.start store).run add earlier = r
  intro done hb
  have hsplit : ∀ instant, ∃ before after,
      ((Tally.start r nodes).run add (schedule.take instant)).race = r.run add before ∧
      ((Tally.start r nodes).run add schedule).race = (r.run add before).run add after := by
    intro instant
    refine ⟨_, (schedule.drop instant).filterMap Turn.addition?, Tally.run_race _ _ _, ?_⟩
    rw [Tally.run_race, ← Race.run_append, ← List.filterMap_append, List.take_append_drop]
    rfl
  have hsum : (Tally.start r nodes).sum = .summing 0 nodes := rfl
  obtain ⟨added, instants, htotal, hreads⟩ := Tally.exists_reads hsum done
  obtain rfl : added = total.toInt := by simpa using htotal.symm
  refine ⟨⟨instants, hreads, fun node instant _ => ?_⟩, fun nonneg => ?_⟩
  · obtain ⟨before, after, hbefore, hafter⟩ := hsplit instant
    obtain ⟨counted, hmem, hvalue⟩ := (hb.run before).exists_counted node
    refine ⟨counted, by rw [Tally.storeAt, hbefore, hvalue], fun i hi hnode => ?_, fun i hi => ?_⟩
    · exact (hmem i).mpr ⟨(Race.winners_prefix_run add r before).subset hi, hnode⟩
    · obtain ⟨hcommitted, hnode⟩ := (hmem i).mp hi
      rw [hafter]
      exact ⟨(Race.winners_prefix_run add _ after).subset hcommitted, hnode⟩
  · rw [hreads.added_eq]
    refine sum_between hreads.each fun node instant _ => ?_
    obtain ⟨before, after, hbefore, hafter⟩ := hsplit instant
    rw [hafter] at nonneg ⊢
    simp only [Tally.storeAt, hbefore]
    constructor
    · refine valueOf_le_run hb before node fun i hi hold => nonneg i ?_ hold
      exact (Race.winners_prefix_run add _ after).subset hi
    · refine valueOf_le_run (hb.run before) after node fun i hi hold => nonneg i hi fun hfirst => ?_
      exact hold ((Race.winners_prefix_run add r before).subset hfirst)

deriving instance DecidableEq for Total.State

/-- Five is added to one node and three to another, both after the first was read and before the
second was. -/
def overtaken : List (Turn Bool) :=
  [.sum, .addition true, .addition true, .addition false, .addition false, .sum]

/-- A sum may be the total of no instant: here the totals are zero, five and eight. -/
theorem overtaken_sampled :
    let add : Bool → Add := fun i => if i then ⟨"a", 5, .unbounded⟩ else ⟨"b", 3, .unbounded⟩
    let s : Tally Bool := Tally.start ((Race.start []).run add []) ["a", "b"]
    Total.move (s.run add overtaken).sum = .done (.ok 3) ∧
      (overtaken.inits.map fun front => totalOf (s.run add front).race.store ["a", "b"]) =
        [0, 0, 0, 5, 5, 8, 8] ∧
      Samples add [] s overtaken ["a", "b"] 3 := by
  intro add s
  have done : Total.move (s.run add overtaken).sum = .done (.ok 3) := by
    have hsum : (s.run add overtaken).sum = .summing 3 [] := by decide +kernel
    rw [hsum]
    rfl
  exact ⟨done, by decide +kernel, total_sampled add [] [] ["a", "b"] overtaken 3 done⟩

end Samples

end ClusterNode.Counter
