import ClusterNode.Proofs.Workload.Deeds

/-!
Fleets of nodes that generate ids. Each handler counts for itself, and nodes that use different
handlers bear different names; then no two ids that are made are the same, in whichever order the
tasks take their steps, and whatever the clocks and the sources of randomness bring.
-/

set_option autoImplicit false

namespace ClusterNode.Workload.UniqueIds

/-- Nodes that generate ids, and the next sequence number of each handler that they use. The rest is
a record of what was done about ids, which nothing depends on. -/
structure Fleet (ι κ : Type) where
  nodes : ι → Node uniqueIds
  next : κ → UInt64
  history : List (ι × Deed)

section Fleet

variable {ι κ : Type} [DecidableEq ι] [DecidableEq κ] (handler : ι → κ)

namespace Fleet

def start (rpcTimeout : ι → Duration) : Fleet ι κ where
  nodes i := Node.start uniqueIds (rpcTimeout i)
  next _ := uniqueIds.shared
  history := []

def node (f : Fleet ι κ) (i : ι) : Node uniqueIds := { f.nodes i with shared := f.next (handler i) }

def apply (f : Fleet ι κ) (move : ι × Node.Event uniqueIds) : Fleet ι κ where
  nodes := Function.update f.nodes move.1 ((f.node handler move.1).apply move.2)
  next := Function.update f.next (handler move.1) ((f.node handler move.1).apply move.2).shared
  history := f.history ++ (deeds (f.node handler move.1) move.2).map fun deed => (move.1, deed)

def run (f : Fleet ι κ) (moves : List (ι × Node.Event uniqueIds)) : Fleet ι κ :=
    moves.foldl (apply handler) f

end Fleet

end Fleet

/-- A fleet whose record agrees with its nodes, and whose tasks follow from it. -/
structure Kept {ι κ : Type} [DecidableEq ι] [DecidableEq κ] (handler : ι → κ) (f : Fleet ι κ) :
    Prop where
  agrees : Agrees handler f.history f.nodes f.next
  course : ∀ i, (f.nodes i).OnCourse (conduct handler f.history i (f.nodes i).identity)
  written : ∀ i, (f.nodes i).written.filterMap Message.generated? =
    ((told f.history).filter fun x => x.1.1 = i).map Prod.snd

section Kept

variable {ι κ : Type} [DecidableEq ι] [DecidableEq κ] {handler : ι → κ} {f : Fleet ι κ} {i : ι}

private theorem Kept.change (hk : Kept handler f) (n : Node uniqueIds) (next : κ → UInt64)
    (ds : List Deed)
    (agrees : Agrees handler (f.history ++ ds.map fun deed => (i, deed))
    (Function.update f.nodes i n) next)
    (course : n.OnCourse (conduct handler (f.history ++ ds.map fun deed => (i, deed)) i n.identity))
    (written : n.written.filterMap Message.generated? =
      (f.nodes i).written.filterMap Message.generated? ++
      (told (ds.map fun deed => (i, deed))).map Prod.snd) :
    Kept handler ⟨Function.update f.nodes i n, next, f.history ++ ds.map fun deed => (i, deed)⟩
      where
  agrees := agrees
  course j := by
    by_cases hj : j = i
    · subst hj
      simpa only [Function.update_self] using course
    · simp only [Function.update_of_ne hj]
      refine (hk.course j).imp id (fun _ _ _ _ => trivial)
        (fun id m job _ hfits => ?_) fun _ _ _ _ => trivial
      refine Known.mono hfits (fun x hx heq => ?_) fun a ha => ha
      obtain ⟨deed, -, rfl⟩ := List.mem_map.mp hx
      exact hj (Prod.mk.inj heq).1.symm
  written j := by
    have htag : ∀ x ∈ told (ds.map fun deed => (i, deed)), x.1.1 = i := by
      intro x hx
      obtain ⟨deed, hdeed, -⟩ := tag_of_told hx
      obtain ⟨_, -, heq⟩ := List.mem_map.mp hdeed
      exact (Prod.mk.inj heq).1.symm
    rw [told_append, List.filter_append, List.map_append, ← hk.written j]
    by_cases hj : j = i
    · subst hj
      rw [List.filter_eq_self.mpr fun x hx => by simpa using htag x hx]
      simpa only [Function.update_self] using written
    · rw [List.filter_eq_nil_iff.mpr fun x hx => by
        simpa [htag x hx] using Ne.symm hj, List.map_nil,
        List.append_nil]
      simp only [Function.update_of_ne hj]

private theorem Kept.still (hk : Kept handler f) {n : Node uniqueIds}
    (course : n.OnCourse (conduct handler f.history i (f.nodes i).identity))
    (later : (f.nodes i).nextTask ≤ n.nextTask) (still : (f.node handler i).Still n) :
    Kept handler ⟨Function.update f.nodes i n, Function.update f.next (handler i) n.shared,
      f.history⟩ := by
  have hidentity : n.identity = (f.nodes i).identity := still.identity
  have hshared : n.shared = f.next (handler i) := still.shared
  have hwritten : n.written = (f.nodes i).written := still.written
  have hnext : Function.update f.next (handler i) n.shared =
    f.next := by rw [hshared, Function.update_eq_self]
  have hagrees : Agrees handler f.history (Function.update f.nodes i n) f.next :=
    hk.agrees.update (fun a ha => hidentity.trans ha) later
  rw [hnext]
  have hchange := hk.change (i := i) n f.next []
  simp only [List.map_nil, List.append_nil] at hchange
  exact hchange hagrees (hidentity ▸ course) (by rw [hwritten]; exact (List.append_nil _).symm)

private theorem Kept.step (hk : Kept handler f) {t : Task uniqueIds.Job}
    (ht : t ∈ (f.nodes i).tasks) (now : Nat) (stamp : Stamp)
    (few : ∀ k,
      (calls handler k (f.apply handler (i, .step now stamp t.id)).history).length ≤ 2 ^ 64) :
    Kept handler (f.apply handler (i, .step now stamp t.id)) := by
  have hcourse : (f.node handler i).OnCourse (conduct handler f.history i (f.nodes i).identity) :=
    (hk.course i).congr
  have hfollows := hcourse.follows t ht
  obtain ⟨o, hm, hchanges⟩ :=
    hcourse.moves duty_kept.init ht (fun job _ => plain_step _ _ job) now stamp
  have happly : (f.node handler i).apply (.step now stamp t.id) =
      (f.node handler i).stepTask now stamp t := by
    simp only [Node.apply, Node.step, hcourse.numbered.task? ht]
  simp only [Fleet.apply, happly, deeds_of_moves hcourse.numbered ht hchanges] at few ⊢
  have hkept : ∀ a, (f.nodes i).identity = some a →
      ((f.node handler i).stepTask now stamp t).identity = some a :=
    fun a ha => hchanges.identity.trans (hm.identity_kept ha)
  have hagrees : Agrees handler f.history
      (Function.update f.nodes i ((f.node handler i).stepTask now stamp t)) f.next :=
    hk.agrees.update hkept
      (Nat.le_of_eq (Node.SameCourse.stepTask (f.node handler i) now stamp t).nextTask.symm)
  have hacts := acts_of_moves hm
  have hwritten : ((f.node handler i).stepTask now stamp t).written.filterMap Message.generated? =
      (f.nodes i).written.filterMap Message.generated? ++ o.lines.filterMap Message.generated? := by
    rw [hchanges.written, List.filterMap_append]
    rfl
  rw [← told_map_deeds i (f.node handler i) t stamp
    (o.lines.filterMap Message.generated?)] at hwritten
  generalize (deed? (f.node handler i) t stamp).toList ++
    (o.lines.filterMap Message.generated?).map (.tells t.id) = ds at hacts hwritten few ⊢
  have hknown : ∀ job, t.stage = .work job → Known handler f.history i
      ((f.node handler i).stepTask now stamp t).identity t.id job := by
    intro job hs
    simpa using Known.mono (hfollows.of_stage hs).2 (List.forall_mem_nil _) hkept
  refine hk.change _ _ ds ?_ ?_ hwritten
  · rw [hchanges.shared]
    refine hagrees.acts hacts hm rfl ?_ ?_ <;> rw [Function.update_self]
    · rw [(Node.SameCourse.stepTask (f.node handler i) now stamp t).nextTask]
      exact hcourse.numbered.below t ht
    · exact hknown
  · refine hcourse.stepTask ht hm hchanges (fun _ _ _ => trivial) ?_ ?_ ?_
    · refine ⟨fun _ _ _ _ => trivial, fun id m job hid hfits => ?_, fun _ _ _ _ => trivial⟩
      refine Known.mono hfits (fun x hx heq => ?_) hkept
      obtain ⟨deed, hdeed, rfl⟩ := List.mem_map.mp hx
      exact hid (((Prod.mk.inj heq).2).symm.trans (hacts.task deed hdeed))
    · intro hidle hidentity
      obtain rfl : ds = [] := hacts.idle hidle
      rw [List.map_nil, List.append_nil, hchanges.identity, hidentity]
      rfl
    · intro job hs
      rw [hchanges.identity, (hm.of_work hs rfl).1]
      exact hk.agrees.allows hacts rfl (fun job hs => (hfollows.of_stage hs).2) (few _) job hs

private theorem Kept.apply (hk : Kept handler f) {move : ι × Node.Event uniqueIds}
    (outside : move.2.FromOutside)
    (few : ∀ k, (calls handler k (f.apply handler move).history).length ≤ 2 ^ 64) :
    Kept handler (f.apply handler move) := by
  obtain ⟨i, e⟩ := move
  have hcourse : (f.node handler i).OnCourse (conduct handler f.history i (f.nodes i).identity) :=
    (hk.course i).congr
  have hstill : (∀ now stamp id, e ≠ .step now stamp id) →
      Kept handler (f.apply handler (i, e)) := by
    intro hstep
    have hnothing : deeds (f.node handler i) e = [] := by
      cases e with
      | step now stamp id => exact absurd rfl (hstep now stamp id)
      | _ => rfl
    simp only [Fleet.apply, hnothing, List.map_nil, List.append_nil]
    refine hk.still (hcourse.apply outside
      (fun bytes _ m hm => ⟨fun _ => trivial, fun handle hhandler => ?_⟩) hstep
      fun _ _ _ _ => trivial) (Node.nextTask_le_apply (f.node handler i) e) (Node.still_apply hstep)
    rw [handler_of_kinds hhandler]
    exact fun x hx heq => absurd (hk.agrees.begun x hx) (by rw [heq]; exact Nat.lt_irrefl _)
  cases e with
  | step now stamp id =>
    cases htask : (f.node handler i).task? id with
    | none =>
      have hnothing : (f.node handler i).apply (.step now stamp id) = f.node handler i := by
        simp only [Node.apply, Node.step, htask]
      simp only [Fleet.apply, hnothing, deeds, htask, List.map_nil, List.append_nil]
      exact hk.still hcourse (Nat.le_refl _) {}
    | some t =>
      obtain ⟨ht, rfl⟩ := Node.mem_of_task? htask
      exact hk.step ht now stamp few
  | client job => exact outside.elim
  | _ => exact hstill (by simp)

private theorem Kept.start (handler : ι → κ) (rpcTimeout : ι → Duration) :
    Kept handler (Fleet.start rpcTimeout) where
  agrees :=
    { counted := fun _ => rfl
      origin := fun _ hx => absurd hx List.not_mem_nil
      begun := fun _ hx => absurd hx List.not_mem_nil
      once := .nil
      sources := fun _ hx => absurd hx List.not_mem_nil
      heard := .nil }
  course i := .start _ (rpcTimeout i)
  written _ := rfl

private theorem calls_le_run (handler : ι → κ) (k : κ) (f : Fleet ι κ)
    (moves : List (ι × Node.Event uniqueIds)) :
    (calls handler k f.history).length ≤ (calls handler k
      (f.run handler moves).history).length := by
  induction moves generalizing f with
  | nil => exact Nat.le_refl _
  | cons move moves ih =>
    refine Nat.le_trans ?_ (ih (f.apply handler move))
    rw [Fleet.apply, calls_append, List.length_append]
    exact Nat.le_add_right _ _

private theorem Kept.run (hk : Kept handler f) {moves : List (ι × Node.Event uniqueIds)}
    (outside : ∀ move ∈ moves, move.2.FromOutside)
    (few : ∀ k, (calls handler k (f.run handler moves).history).length ≤ 2 ^ 64) :
    Kept handler (f.run handler moves) := by
  induction moves generalizing f with
  | nil => exact hk
  | cons move moves ih =>
    obtain ⟨hmove, hrest⟩ := List.forall_mem_cons.mp outside
    have hfirst : Kept handler (f.apply handler move) := hk.apply hmove fun k =>
      Nat.le_trans (calls_le_run handler k (f.apply handler move) moves) (few k)
    exact ih hfirst hrest few

end Kept

structure Fleet.Distinct {ι κ : Type} (f : Fleet ι κ) : Prop where
  /-- No id was made twice, whether by one node or by two. -/
  made : ((made f.history).map fun x => x.2.text).Nodup
  /-- What a node tells are ids that were made for it, -/
  told : ∀ i, ∀ id ∈ (f.nodes i).written.filterMap Message.generated?,
    ∃ x ∈ UniqueIds.made f.history, x.1.1 = i ∧ x.2.text = id
  /-- each once, -/
  once : ∀ i, ((f.nodes i).written.filterMap Message.generated?).Nodup
  /-- and no other node tells one of them. -/
  apart : ∀ i j, i ≠ j → List.Disjoint ((f.nodes i).written.filterMap Message.generated?)
    ((f.nodes j).written.filterMap Message.generated?)

section Distinct

variable {ι κ : Type} [DecidableEq ι] [DecidableEq κ]

private theorem Kept.distinct {handler : ι → κ} {f : Fleet ι κ} (hk : Kept handler f)
    (names : ∀ i j a b, handler i ≠ handler j → (f.nodes i).identity = some a →
      (f.nodes j).identity = some b →
      a.id ≠ b.id) : f.Distinct := by
  have hmade := hk.agrees.nodup names
  have hinj : ∀ x ∈ told f.history, ∀ y ∈ told f.history, x.2 = y.2 → x = y := by
    intro x hx y hy hid
    obtain ⟨a, ha, hatext⟩ := hk.agrees.sources x hx
    obtain ⟨b, hb, hbtext⟩ := hk.agrees.sources y hy
    have hsame : (x.1, a) = (y.1, b) :=
      List.inj_on_of_nodup_map hmade ha hb (by rw [hatext, hbtext, hid])
    exact Prod.ext (Prod.mk.inj hsame).1 hid
  have hmem : ∀ {i id}, id ∈ (f.nodes i).written.filterMap Message.generated? →
      ∃ x ∈ told f.history, x.1.1 = i ∧ x.2 = id := by
    intro i id hid
    rw [hk.written] at hid
    obtain ⟨x, hx, rfl⟩ := List.mem_map.mp hid
    obtain ⟨hx, hi⟩ := List.mem_filter.mp hx
    exact ⟨x, hx, by simpa using hi, rfl⟩
  refine ⟨hmade, fun i id hid => ?_, fun i => ?_, fun i j hij id hid hid' => ?_⟩
  · obtain ⟨x, hx, rfl, rfl⟩ := hmem hid
    obtain ⟨label, hlabel, htext⟩ := hk.agrees.sources x hx
    exact ⟨_, hlabel, rfl, htext⟩
  · rw [hk.written]
    exact ((List.nodup_map_iff_inj_on hk.agrees.heard.of_map).mpr hinj).sublist
      (List.filter_sublist.map _)
  · obtain ⟨x, hx, rfl, rfl⟩ := hmem hid
    obtain ⟨y, hy, rfl, hsame⟩ := hmem hid'
    rw [hinj y hy x hx hsame] at hij
    exact hij rfl

/-- Ids never collide. Whatever the events at the nodes of a fleet and their order, and whatever the
clocks and the sources of randomness bring, all ids are distinct, if no handler is asked for more
ids than it has sequence numbers, and nodes that use different handlers bear different names. Nodes
that share a handler may bear any names. -/
theorem ids_never_collide (handler : ι → κ) (rpcTimeout : ι → Duration)
    (moves : List (ι × Node.Event uniqueIds))
    (outside : ∀ move ∈ moves, move.2.FromOutside)
    (few : ∀ k,
      (calls handler k ((Fleet.start rpcTimeout).run handler moves).history).length ≤ 2 ^ 64)
    (names : ∀ i j a b, handler i ≠ handler j →
      (((Fleet.start rpcTimeout).run handler moves).nodes i).identity = some a →
        (((Fleet.start rpcTimeout).run handler moves).nodes j).identity = some b → a.id ≠ b.id) :
    ((Fleet.start rpcTimeout).run handler moves).Distinct :=
  ((Kept.start handler rpcTimeout).run outside few).distinct names

/-- Two nodes of one name share a handler, and a third one with a handler of its own bears a name
that looks like their ids. All are asked for ids, and the clock stands still. -/
def lookalikes : List (Fin 3 × Node.Event uniqueIds) :=
  let request (i : Fin 3) (body : String) : Fin 3 × Node.Event uniqueIds :=
    (i, .line ("\x7b\"src\":\"c\",\"dest\":\"a\",\"body\":\x7b" ++ body ++
      "\x7d\x7d").toUTF8.toList)
  let steps (i : Fin 3) (count id : Nat) : List (Fin 3 × Node.Event uniqueIds) :=
    List.replicate count (i, .step 0 ⟨0, 0⟩ id)
  let init (i : Fin 3) (name : String) : List (Fin 3 × Node.Event uniqueIds) :=
    request i ("\"type\":\"init\",\"node_id\":\"" ++ name ++ "\",\"node_ids\":[]") :: steps i 4 0
  let generate (i : Fin 3) : Fin 3 × Node.Event uniqueIds :=
    request i "\"type\":\"generate\",\"msg_id\":1"
  init 0 "n" ++ init 1 "n" ++ init 2 "n_0" ++ [generate 0, generate 0, generate 1, generate 2]
    ++ steps 0 2 2 ++ steps 1 4 1 ++ steps 2 4 1 ++ steps 0 4 1 ++ steps 0 2 2

theorem lookalikes_distinct : (∀ move ∈ lookalikes, move.2.FromOutside) ∧
    ((made ((Fleet.start fun _ => ⟨1000⟩).run (fun i : Fin 3 => i == 2) lookalikes).history).map
      fun x => x.2.text) =
      ["n_1_0_0000000000000000", "n_0_0_0_0000000000000000", "n_2_0_0000000000000000",
        "n_0_0_0000000000000000"] ∧
    ((Fleet.start fun _ => ⟨1000⟩).run (fun i : Fin 3 => i == 2) lookalikes).Distinct := by
  have outside : ∀ move ∈ lookalikes, move.2.FromOutside := by
    simp [lookalikes, Node.Event.FromOutside]
  have outcome : (∀ k, (calls (fun i : Fin 3 => i == 2) k
      ((Fleet.start fun _ => ⟨1000⟩).run (fun i : Fin 3 => i == 2)
        lookalikes).history).length ≤ 2 ^ 64) ∧
      (∀ i : Fin 3,
        (((Fleet.start fun _ => ⟨1000⟩).run (fun i : Fin 3 => i == 2) lookalikes).nodes
          i).identity = some ⟨if i == 2 then "n_0" else "n", []⟩) ∧
      ((made ((Fleet.start fun _ => ⟨1000⟩).run (fun i : Fin 3 => i == 2) lookalikes).history).map
        fun x => x.2.text) =
        ["n_1_0_0000000000000000", "n_0_0_0_0000000000000000", "n_2_0_0000000000000000",
          "n_0_0_0000000000000000"] := by decide +kernel
  obtain ⟨few, named, texts⟩ := outcome
  have names : ∀ i j a b, (i == (2 : Fin 3)) ≠ (j == (2 : Fin 3)) →
      (((Fleet.start fun _ => ⟨1000⟩).run (fun i : Fin 3 => i == 2) lookalikes).nodes
        i).identity = some a →
      (((Fleet.start fun _ => ⟨1000⟩).run (fun i : Fin 3 => i == 2) lookalikes).nodes
        j).identity = some b →
      a.id ≠ b.id := by
    intro i j a b hne ha hb
    rw [named i] at ha
    rw [named j] at hb
    obtain rfl := Option.some.inj ha
    obtain rfl := Option.some.inj hb
    revert i j
    decide
  exact ⟨outside, texts, ids_never_collide _ _ lookalikes outside few names⟩

end Distinct

end ClusterNode.Workload.UniqueIds
