import ClusterNode.Proofs.Counter.Sampling

/-!
Sums over a store that answers each read. A sum is told, and is exact, if none of the sums on the
way to it leaves the range of 64 bits, and is aborted otherwise. For values of one sign this is a
condition on the sum alone; for values of both signs it is not, and the order of the nodes matters.
-/

set_option autoImplicit false

namespace ClusterNode.Counter

section Store

variable {τ : Type} {perform : τ → StoreCall → StoreAnswer × τ}

def Readable (perform : τ → StoreCall → StoreAnswer × τ) : Prop :=
  ∀ store key, ∃ value, (perform store (.read key)).1 = .ok value

/-- What an answer counts for: an absent value for zero, as a value that cannot be read. -/
def countedFor : StoreAnswer → Int
  | .ok value => (value.getD 0).toInt
  | .error _ => 0

/-- What the keys of some nodes count for when they are read one after the other. -/
def readings (perform : τ → StoreCall → StoreAnswer × τ) : τ → List String → List Int
  | _, [] => []
  | store, node :: nodes =>
    let (answer, store) := perform store (.read (keyOf node))
    countedFor answer :: readings perform store nodes

/-- In a store in memory each node counts for the value of its key. -/
theorem readings_kvStore (store : KvStore) (nodes : List String) :
    readings KvStore.perform store nodes = nodes.map (valueOf store) := by
  induction nodes with
  | nil => rfl
  | cons node nodes ih =>
    rw [readings, List.map_cons]
    exact congrArg _ ih

/-- How a sum ends that is taken over some values: it is told if all sums on the way fit. -/
inductive SumsUp (total : Int) (values : List Int) : Except StoreError Int64 → Prop
  | told (t : Int64) (exact : t.toInt = total + values.sum)
      (fits : ∀ first, first <+: values → FitsWord (total + first.sum)) :
        SumsUp total values (.ok t)
  | aborted (text : String) (first : List Int) (reached : first <+: values)
      (overflows : ¬ FitsWord (total + first.sum)) : SumsUp total values (.error (abort text))

namespace SumsUp

variable {total value : Int} {values : List Int} {result : Except StoreError Int64}

private theorem cons (fits : FitsWord total) (h : SumsUp (total + value) values result) :
    SumsUp total (value :: values) result := by
  cases h with
  | told t exact rest =>
    refine .told t (by rw [exact, List.sum_cons, Int.add_assoc]) fun first hfirst => ?_
    rcases List.prefix_cons_iff.mp hfirst with rfl | ⟨more, rfl, hmore⟩
    · simpa using fits
    · rw [List.sum_cons, ← Int.add_assoc]
      exact rest more hmore
  | aborted text first reached overflows =>
    refine .aborted text (value :: first) (List.cons_prefix_cons.mpr ⟨rfl, reached⟩) ?_
    rwa [List.sum_cons, ← Int.add_assoc]

private theorem fits_iff_of_one_sign (sign : (∀ v ∈ values, 0 ≤ v) ∨ ∀ v ∈ values, v ≤ 0) :
    (∀ first, first <+: values → FitsWord first.sum) ↔ FitsWord values.sum := by
  refine ⟨fun h => h values List.prefix_rfl, fun h first hfirst => ?_⟩
  obtain ⟨rest, rfl⟩ := hfirst
  have hbounds : FitsWord 0 := by decide
  obtain ⟨hmin, hmax⟩ := h
  rw [List.sum_append] at hmin hmax
  rcases sign with sign | sign
  · have hfirst := List.sum_nonneg fun v hv => sign v (List.mem_append_left rest hv)
    have hrest := List.sum_nonneg fun v hv => sign v (List.mem_append_right first hv)
    exact ⟨hbounds.1.trans hfirst, by omega⟩
  · have hfirst : first.sum ≤ 0 := by
      simpa using List.sum_le_card_nsmul first 0 fun v hv => sign v (List.mem_append_left rest hv)
    have hrest : rest.sum ≤ 0 := by
      simpa using List.sum_le_card_nsmul rest 0 fun v hv => sign v (List.mem_append_right first hv)
    exact ⟨by omega, hfirst.trans hbounds.2⟩

end SumsUp

private theorem run_summing (readable : Readable perform) (nodes : List String) {fuel : Nat}
    (enough : nodes.length < fuel) (total : Int64) (store : τ) (paused : Duration) :
    ∃ outcome, StoreMove.run Total.move perform fuel (.summing total nodes) store paused =
      some outcome ∧
      outcome.paused = paused ∧
        SumsUp total.toInt (readings perform store nodes) outcome.result := by
  induction nodes generalizing fuel total store with
  | nil =>
    obtain ⟨fuel, rfl⟩ := Nat.exists_eq_succ_of_ne_zero (Nat.ne_zero_of_lt enough)
    refine ⟨_, rfl, rfl, .told total (by simp [readings]) fun first hfirst => ?_⟩
    obtain rfl := List.prefix_nil.mp hfirst
    simpa using fitsWord_toInt total
  | cons node nodes ih =>
    obtain ⟨fuel, rfl⟩ := Nat.exists_eq_succ_of_ne_zero (Nat.ne_zero_of_lt enough)
    have hfuel : nodes.length < fuel := Nat.lt_of_succ_lt_succ enough
    obtain ⟨value, hvalue⟩ := readable store (keyOf node)
    simp only [StoreMove.run, Total.move, readings]
    generalize perform store (.read (keyOf node)) = answered at hvalue ⊢
    obtain ⟨answer, store'⟩ := answered
    obtain rfl : answer = .ok value := hvalue
    have hfits := fitsWord_toInt total
    cases hadd : checkedAdd total (value.getD 0) with
    | some sum =>
      obtain ⟨outcome, hrun, hpaused, hsums⟩ := ih hfuel sum store'
      rw [toInt_of_checkedAdd hadd] at hsums
      refine ⟨outcome, ?_, hpaused, hsums.cons hfits⟩
      simpa only [Total.afterRead, hadd] using hrun
    | none =>
      obtain ⟨fuel, rfl⟩ := Nat.exists_eq_succ_of_ne_zero (Nat.ne_zero_of_lt hfuel)
      refine ⟨_, by simp only [Total.afterRead, hadd]; rfl, rfl, ?_⟩
      refine .aborted _ [(value.getD 0).toInt] (by simp [countedFor]) ?_
      simpa using not_fitsWord_of_checkedAdd hadd

/-- If the values are of one sign, only the sum itself matters. -/
theorem sum_of_one_sign (readable : Readable perform) (nodes : List String) (store : τ) {fuel : Nat}
    (enough : nodes.length < fuel)
    (sign : (∀ v ∈ readings perform store nodes, 0 ≤ v) ∨
      ∀ v ∈ readings perform store nodes, v ≤ 0) :
    ∃ outcome, StoreMove.run Total.move perform fuel (Total.start nodes) store .zero =
      some outcome ∧
      (FitsWord (readings perform store nodes).sum →
        ∃ t, outcome.result = .ok t ∧ t.toInt = (readings perform store nodes).sum) ∧
      (¬ FitsWord (readings perform store nodes).sum →
        ∃ text, outcome.result = .error (abort text)) := by
  obtain ⟨outcome, hrun, -, hsums⟩ := run_summing readable nodes enough 0 store .zero
  refine ⟨outcome, hrun, ?_⟩
  rw [← SumsUp.fits_iff_of_one_sign sign]
  generalize outcome.result = result at hsums
  cases hsums with
  | told t exact fits =>
    simp only [Int64.toInt_zero, Int.zero_add] at exact fits
    exact ⟨fun _ => ⟨t, rfl, exact⟩, fun h => absurd fits h⟩
  | aborted text first reached overflows =>
    rw [Int64.toInt_zero, Int.zero_add] at overflows
    exact ⟨fun h => absurd (h first reached) overflows, fun _ => ⟨text, rfl⟩⟩

/-- A sum over nodes is told and exact if all sums on the way to it fit 64 bits, and is aborted
otherwise. -/
theorem sum_by_readings (readable : Readable perform) (nodes : List String) (store : τ) {fuel : Nat}
    (enough : nodes.length < fuel) :
    ∃ outcome, StoreMove.run Total.move perform fuel (Total.start nodes) store .zero =
      some outcome ∧
      outcome.paused = .zero ∧ SumsUp 0 (readings perform store nodes) outcome.result :=
  run_summing readable nodes enough 0 store .zero

end Store

/-- Three keys whose total fits 64 bits, though the sum of the first two does not. -/
def turningBack : KvStore :=
  [("counter-a", Int64.maxValue), ("counter-b", 1), ("counter-c", -1)]

theorem turningBack_sums :
    Readable KvStore.perform ∧ ["a", "b", "c"].length < 4 ∧
      ∃ outcome, StoreMove.run Total.move KvStore.perform 4
        (Total.start ["a", "b", "c"]) turningBack .zero =
        some outcome ∧ outcome.paused = .zero ∧
        SumsUp 0 (readings KvStore.perform turningBack ["a", "b", "c"]) outcome.result :=
  have readable : Readable KvStore.perform := fun _ _ => ⟨_, rfl⟩
  ⟨readable, by decide, sum_by_readings readable ["a", "b", "c"] turningBack (by decide)⟩

/-- That a total fits 64 bits does not mean that it is told. -/
theorem fitting_total_refused :
    ¬ ∀ (store : KvStore) (nodes : List String), FitsWord (totalOf store nodes) →
    ∃ outcome t, StoreMove.run Total.move KvStore.perform (nodes.length + 1)
      (Total.start nodes) store .zero =
      some outcome ∧ outcome.result = .ok t ∧ t.toInt = totalOf store nodes := by
  intro h
  obtain ⟨outcome, t, hrun, hresult, -⟩ := h turningBack ["a", "b", "c"] (by decide +kernel)
  have hrefused : (StoreMove.run Total.move KvStore.perform 4
    (Total.start ["a", "b", "c"]) turningBack
      .zero).map (fun outcome => outcome.result.toOption) = some none := by decide +kernel
  rw [List.length_cons, List.length_cons, List.length_cons, List.length_nil] at hrun
  rw [hrun, Option.map_some, hresult] at hrefused
  cases hrefused

end ClusterNode.Counter
