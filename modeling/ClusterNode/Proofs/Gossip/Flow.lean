import ClusterNode.Proofs.Gossip.Spreading

/-!
The flow of values through a node: a value that has arrived is held in the end, and a value that is
held has been sent to each neighbor or is still to be sent to it.
-/

set_option autoImplicit false

namespace ClusterNode.Workload.Broadcast

/-- A request for a value is waiting to be looked at. -/
def Waits (n : Node broadcast) (v : BroadcastValue) : Prop :=
  ∃ t ∈ n.tasks, Undecided t ∧ t.message.carries v = true

/-- What a step of a node passes on. -/
structure Passes (n : Node broadcast) (neighbors : List String) (n' : Node broadcast)
    (ms : List Message) : Prop where
  written : n'.written = n.written ++ ms
  held : ∀ v, n.shared.Holds v → n'.shared.Holds v
  waits : ∀ v, Waits n v → Waits n' v ∨ n'.shared.Holds v
  newly : ∀ v, n'.shared.Holds v → n.shared.Holds v ∨ ∀ d ∈ neighbors, d ∈ toForward v n'
  still : ∀ v, ∀ d ∈ toForward v n, d ∈ toForward v n' ∨ ∃ m ∈ ms, m.dest = d ∧ m.carries v = true
  log : ∀ u ∈ n'.shared.log, u ∈ n.shared.log ∨ ∃ t ∈ n.tasks, t.message.carried? = some u
  tasks : ∀ x ∈ n'.tasks, ∃ t ∈ n.tasks, x.message = t.message
  emits : ∀ m ∈ ms, (∃ t ∈ n.tasks, t.message.msgId?.isSome ∧ m.dest = t.message.src) ∨
    ∃ t ∈ n.tasks, ∃ u, t.message.carried? = some u ∧ ∃ d ∈ neighbors, m = forward n.name d u

section Passes

variable {n : Node broadcast} {name : String} {neighbors : List String} {t : Task broadcast.Job}

private theorem Passes.refl (n : Node broadcast) (neighbors : List String) :
    Passes n neighbors n [] where
  written := by simp
  held := fun _ h => h
  waits := fun _ h => .inl h
  newly := fun _ h => .inl h
  still := fun _ _ h => .inl h
  log := fun _ h => .inl h
  tasks := fun x hx => ⟨x, hx, rfl⟩
  emits := by simp

private theorem mem_share {v : BroadcastValue} {d : String} :
    d ∈ share neighbors v t ↔ t.message.carries v = true ∧ d ∈ ahead neighbors t := by
  by_cases h : t.message.carries v = true <;> simp [share, h]

private theorem Spreading.ahead_subset (hs : Spreading n name neighbors) (ht : t ∈ n.tasks)
    {u : BroadcastValue}
    (hu : t.message.carried? = some u) {d : String} (hd : d ∈ ahead n.shared.neighbors t) :
    d ∈ neighbors := by
  have hshare : d ∈ toForward u n := by
    refine List.mem_flatMap.mpr ⟨t, ht, mem_share.mpr ⟨?_, hd⟩⟩
    rw [Message.carries_of_carried? hu]
    exact BEq.rfl
  have hmem := (hs.ledger u).subset (List.mem_append_right _ hshare)
  split at hmem
  · exact hmem
  · cases hmem

namespace Effect

variable {u v : BroadcastValue} {n' : Node broadcast} {o : Option (Task broadcast.Job)}
  {ms : List Message}

private theorem mem_tasks (he : Effect n t u n' o ms) (hs : Spreading n name neighbors)
    (ht : t ∈ n.tasks)
    {x : Task broadcast.Job} :
    (x ∈ n.tasks → x = t ∨ x ∈ n'.tasks) ∧ (x ∈ o → x ∈ n'.tasks) ∧
      (x ∈ n'.tasks → x ∈ n.tasks ∨ x ∈ o) := by
  obtain ⟨before, after, ha⟩ := hs.numbered.around ht
  rw [ha.tasks, he.tasks before after ha]
  simp only [List.mem_append, List.mem_cons, Option.mem_toList]
  exact ⟨fun h => by rcases h with h | h | h <;> simp [h], fun h => .inl (.inr h),
    fun h => by rcases h with (h | h) | h <;> simp [h]⟩

private theorem mem_toForward (he : Effect n t u n' o ms) (hs : Spreading n name neighbors)
    (ht : t ∈ n.tasks) (hv : t.message.carries v = true) {d : String}
    (hd : d ∈ o.toList.flatMap (ahead n.shared.neighbors)) :
    d ∈ toForward v n' := by
  rw [← he.along] at hd
  obtain ⟨x, hx, hd⟩ := List.mem_flatMap.mp hd
  have hx : x ∈ o := by simpa using hx
  refine List.mem_flatMap.mpr ⟨x, (he.mem_tasks hs ht).2.1 hx, mem_share.mpr ⟨?_, hd⟩⟩
  rwa [(he.bears x hx).2]

private theorem still (he : Effect n t u n' o ms) (hs : Spreading n name neighbors)
    (ht : t ∈ n.tasks) (hu : t.message.carried? = some u)
    (own : ∀ d ∈ ahead n.shared.neighbors t, d ∈ o.toList.flatMap (ahead n.shared.neighbors) ∨
      ∃ m ∈ ms, m.dest = d ∧ m.carried? = some u) :
    ∀ v, ∀ d ∈ toForward v n, d ∈ toForward v n' ∨ ∃ m ∈ ms, m.dest = d ∧ m.carries v = true := by
  intro v d hd
  obtain ⟨x, hx, hd⟩ := List.mem_flatMap.mp hd
  rcases (he.mem_tasks hs ht).1 hx with rfl | hx
  · obtain ⟨hv, hd⟩ := mem_share.mp hd
    rcases own d hd with hd | ⟨m, hm, hdest, hcarried⟩
    · exact .inl (he.mem_toForward hs ht hv hd)
    · refine .inr ⟨m, hm, hdest, ?_⟩
      rw [Message.carries_of_carried? hcarried, ← Message.carries_of_carried? hu, hv]
  · exact .inl (List.mem_flatMap.mpr ⟨x, hx, by rwa [he.along]⟩)

private theorem waits (he : Effect n t u n' o ms) (hs : Spreading n name neighbors)
    (ht : t ∈ n.tasks) (hu : t.message.carried? = some u)
    (own : Undecided t → (∃ x ∈ o, Undecided x) ∨ n'.shared.Holds u) :
    ∀ v, Waits n v → Waits n' v ∨ n'.shared.Holds v := by
  rintro v ⟨x, hx, hundecided, hv⟩
  rcases (he.mem_tasks hs ht).1 hx with rfl | hx
  · rcases own hundecided with ⟨y, hy, hundecided⟩ | hheld
    · exact .inl ⟨y, (he.mem_tasks hs ht).2.1 hy, hundecided, by rwa [(he.bears y hy).2]⟩
    · rw [Message.carries_of_carried? hu] at hv
      exact .inr (hheld.congr hv)
  · exact .inl ⟨x, hx, hundecided, hv⟩

private theorem kept (he : Effect n t u n' o ms) (hs : Spreading n name neighbors)
    (ht : t ∈ n.tasks) :
    ∀ x ∈ n'.tasks, ∃ y ∈ n.tasks, x.message = y.message := by
  intro x hx
  rcases (he.mem_tasks hs ht).2.2 hx with hx | hx
  · exact ⟨x, hx, rfl⟩
  · exact ⟨t, ht, (he.bears x hx).2⟩

private theorem passes_of_shared (he : Effect n t u n' o ms) (hs : Spreading n name neighbors)
    (ht : t ∈ n.tasks) (hu : t.message.carried? = some u) (shared : n'.shared = n.shared)
    (undecided : Undecided t → ∃ x ∈ o, Undecided x)
    (own : ∀ d ∈ ahead n.shared.neighbors t, d ∈ o.toList.flatMap (ahead n.shared.neighbors) ∨
      ∃ m ∈ ms, m.dest = d ∧ m.carried? = some u)
    (emits : ∀ m ∈ ms, (∃ t ∈ n.tasks, t.message.msgId?.isSome ∧ m.dest = t.message.src) ∨
      ∃ t ∈ n.tasks, ∃ u, t.message.carried? = some u ∧ ∃ d ∈ neighbors, m = forward n.name d u) :
    Passes n neighbors n' ms where
  written := he.written
  held := by rw [shared]; exact fun _ h => h
  waits := he.waits hs ht hu fun h => .inl (undecided h)
  newly := by rw [shared]; exact fun _ h => .inl h
  still := he.still hs ht hu own
  log := by rw [shared]; exact fun _ h => .inl h
  tasks := he.kept hs ht
  emits := emits

private theorem passes_of_accept (he : Effect n t u n' o []) (hs : Spreading n name neighbors)
    (ht : t ∈ n.tasks) (hu : t.message.carried? = some u)
    (shared : n'.shared = (n.shared.accept u).2)
    (undecided : Undecided t) (hahead : o.toList.flatMap (ahead n.shared.neighbors) =
      if n.shared.contains u then [] else n.shared.neighbors) : Passes n neighbors n' [] where
  written := he.written
  held := fun v h => by
    rw [shared]
    exact (Gossip.holds_accept hs.consistent).mpr (.inl h)
  waits := he.waits hs ht hu fun _ => by
    rw [shared]
    exact .inr ((Gossip.holds_accept hs.consistent).mpr (.inr BEq.rfl))
  newly := by
    intro v hv
    rw [shared] at hv
    rcases (Gossip.holds_accept hs.consistent).mp hv with hv | huv
    · exact .inl hv
    · by_cases hheld : n.shared.Holds u
      · exact .inl (hheld.congr huv)
      · rw [if_neg fun h => hheld ((hs.consistent u).mp h)] at hahead
        refine .inr fun d hd => he.mem_toForward hs ht ?_ (by rwa [hahead, hs.along])
        rw [Message.carries_of_carried? hu, huv]
  still := he.still hs ht hu (by simp [undecided.ahead_eq])
  log := by
    intro v hv
    rw [shared] at hv
    rcases Gossip.mem_log_accept hv with hv | rfl
    · exact .inl hv
    · exact .inr ⟨t, ht, hu⟩
  tasks := he.kept hs ht
  emits := by simp

private theorem passes (he : Effect n t u n' o ms) (hs : Spreading n name neighbors)
    (ht : t ∈ n.tasks)
    (hu : t.message.carried? = some u) : Passes n neighbors n' ms := by
  have hchange := he.change
  generalize hg : n'.shared = g at hchange
  cases hchange with
  | rest hahead hundecided =>
    exact he.passes_of_shared hs ht hu hg hundecided (fun d hd => .inl (hahead ▸ hd)) (by simp)
  | accept hundecided hahead => exact he.passes_of_accept hs ht hu hg hundecided hahead
  | answer hahead hdecided hasked hdest hcarried =>
    refine he.passes_of_shared hs ht hu hg (fun h => absurd h hdecided)
      (fun d hd => .inl (hahead ▸ hd)) fun m hm => ?_
    obtain rfl := List.mem_singleton.mp hm
    exact .inl ⟨t, ht, hasked, hdest⟩
  | @forward _ d hdecided hahead =>
    have hd : d ∈ neighbors := hs.ahead_subset ht hu (by rw [hahead]; exact List.mem_cons_self)
    refine he.passes_of_shared hs ht hu hg (fun h => absurd h hdecided) (fun d' hd' => ?_)
      fun m hm => ?_
    · rw [hahead] at hd'
      rcases List.mem_cons.mp hd' with rfl | hd'
      · exact .inr ⟨_, List.mem_singleton.mpr rfl, rfl, carried?_forward _ _ _⟩
      · exact .inl hd'
    · obtain rfl := List.mem_singleton.mp hm
      exact .inr ⟨t, ht, u, hu, d, hd, rfl⟩

end Effect

/-- Each step of a node that spreads values keeps it so, and passes on what it works for. -/
theorem Spreading.step (hs : Spreading n name neighbors) (now : Nat) (stamp : Stamp) (id : Nat) :
    Spreading (n.step now stamp id) name neighbors ∧
      ∃ ms, Passes n neighbors (n.step now stamp id) ms := by
  rw [Node.step]
  cases htask : n.task? id with
  | none => exact ⟨hs, [], .refl n neighbors⟩
  | some t =>
    have ht := (Node.mem_of_task? htask).1
    obtain ⟨u, hbears⟩ := hs.bears t ht
    obtain ⟨o, ms, he⟩ := stepTask_effect hs.working hbears now stamp
    exact ⟨he.spreading hs ht hbears.carried, ms, he.passes hs ht hbears.carried⟩

end Passes

end ClusterNode.Workload.Broadcast
