import ClusterNode.Proofs.Node.Answers
import ClusterNode.Proofs.Node.Conduct
import ClusterNode.Proofs.Store.Client

/-!
Jobs that decide at their first step. Either it fails because the request is malformed, and has
changed nothing, or it leads to a job that no longer fails and changes nothing more, as long as the
writer works. So a request that fails leaves no mark, alone or among others.
-/

set_option autoImplicit false

namespace ClusterNode

variable {w : Workload}

/-- A job that comes to a good end if the writer works: it reports no error, and leaves alone what
the jobs share. -/
inductive Workload.Settles (w : Workload) : w.Job → Prop
  | done (job : w.Job) (step : ∀ view shared, w.step view shared job = (.finish (.ok ()), shared)) :
    Settles w job
  | looks (job : w.Job) (next : w.Shared → w.Job)
      (step : ∀ view shared, w.step view shared job = (.proceed (next shared), shared))
      (after : ∀ shared, Settles w (next shared)) : Settles w job
  | stamps (job : w.Job) (next : Stamp → w.Job)
    (step : ∀ view shared, w.step view shared job = (.stamp next, shared))
      (after : ∀ stamp, Settles w (next stamp)) : Settles w job
  | sends (job : w.Job) (dest : String) (payload : Json) (next : Except NodeError Unit → w.Job)
      (step : ∀ view shared, w.step view shared job = (.send dest payload next, shared))
      (object : ∃ fields, payload = .object fields) (kind : kindOf payload ≠ "error")
      (after : Settles w (next (.ok ()))) : Settles w job
  | replies (job : w.Job) (payload : Json) (next : Except NodeError Unit → w.Job)
      (step : ∀ view shared, w.step view shared job = (.reply payload next, shared))
      (object : ∃ fields, payload = .object fields) (kind : kindOf payload ≠ "error")
      (after : Settles w (next (.ok ()))) : Settles w job

def Workload.Opens (w : Workload) (m : Message) (job : w.Job) : Prop :=
  (∃ fields, m.body = .object fields) ∧ ∃ handler, w.handlers.get? m.kind = some handler ∧
    job = handler m

structure Workload.Decides (w : Workload) : Prop where
  bare : w.handlers.get? "init" = none
  first : ∀ view shared m job, w.Opens m job →
    (∃ e, w.step view shared job = (.finish (.error e), shared) ∧
      e.toRpcError.code = .malformedRequest) ∨
      ∃ next shared', w.step view shared job = (.proceed next, shared') ∧ w.Settles next

theorem NodeError.rpcError?_isSome {e : NodeError} (h : e.toRpcError.code = .malformedRequest) :
    e.rpcError?.isSome := by
  rw [toRpcError] at h
  cases hreported : e.rpcError? with
  | some reported => rfl
  | none =>
    rw [hreported] at h
    cases h

def Task.failure? {Job : Type} (t : Task Job) : Option RpcError :=
  match t.stage with
  | .conclude (.error e) => some e.toRpcError
  | .refuse e => some e
  | _ => none

namespace Node

variable {n n' n₀ : Node w} {t : Task w.Job} {stamp : Stamp} {o : Outcome w} {m : Message}
  {id : Nat}

theorem routed_of_mem_dispatched {bytes : List UInt8} (h : m ∈ n.dispatched bytes) :
    (∃ fields, m.body = .object fields) ∧ m.inReplyTo? = none ∧
      Routed n m (n.receiveBytes bytes) := by
  obtain ⟨hrouted, hrequest⟩ := List.mem_filter.mp h
  simp only [routedBy] at hrouted
  split at hrouted
  · rename_i hverdict
    obtain ⟨hreading, hgoes⟩ := hverdict
    rw [Option.isNone_iff_eq_none] at hreading hgoes
    cases hread : Reading.ofBytes bytes with
    | message m' text =>
      rw [hread] at hrouted
      obtain rfl : m = m' := by simpa [Reading.message?] using hrouted
      refine ⟨Reading.body_of_ofBytes hread, by simpa using hrequest, ?_⟩
      rw [verdict_receiveBytes hreading, hread, Option.map_eq_none_iff] at hgoes
      rw [receiveBytes_eq_take, if_neg (by simp [hreading]), hread]
      exact take_routed hgoes
    | blank => simp [hread, Reading.message?] at hrouted
    | refused e => simp [hread, Reading.message?] at hrouted
  · exact absurd hrouted List.not_mem_nil

/-- How the work for a request has come out, in view of the node before it: well, or as the refusal
of a malformed request, and then nothing has changed. -/
inductive Resolved (n : Node w) (id : Nat) (m : Message) (n' : Node w) : Prop
  | well (t : Task w.Job) (task : n'.task? id = some t) (message : t.message = m)
      (stage : t.stage = .conclude (.ok ())) : Resolved n id m n'
  | refused (t : Task w.Job) (e : NodeError) (task : n'.task? id = some t) (message : t.message = m)
      (stage : t.stage = .conclude (.error e)) (code : e.toRpcError.code.toInt64 = 12)
      (identity : n'.identity = n.identity) (shared : n'.shared = n.shared) : Resolved n id m n'

/-- A task comes to a goal by its own steps, whatever the clock and the source of randomness bring
to them. -/
inductive Inevitable (id : Nat) (goal : Node w → Prop) : Node w → Prop
  | here (n : Node w) (reached : goal n) : Inevitable id goal n
  | step (n : Node w) (next : ∀ now stamp, Inevitable id goal (n.step now stamp id)) :
    Inevitable id goal n

section Alone

structure Stands (n : Node w) (id : Nat) (role : Role) (m : Message) (stage : Stage w.Job) :
    Prop where
  numbered : n.Numbered
  working : n.mode = .working
  task : ∃ t, n.task? id = some t ∧ t.role = role ∧ t.message = m ∧ t.stage = stage

variable {role : Role} {stage : Stage w.Job} {job : w.Job}

private theorem Stands.spawn (numbered : n.Numbered) (working : n.mode = .working) (role : Role)
    (m : Message)
    (stage : Stage w.Job) : Stands (n.spawn role m stage) n.nextTask role m stage :=
  ⟨numbered.spawn role m stage, working, _,
    (numbered.spawn role m stage).task? (mem_spawn.mpr (.inr rfl)), rfl, rfl, rfl⟩

private theorem Stands.step (bare : w.handlers.get? "init" = none) (h : Stands n id role m stage)
    (plain : ∀ t : Task w.Job, t.role = role → t.stage = stage → n.Plain t) (now : Nat)
    (stamp : Stamp) :
    ∃ t o, t.message = m ∧ t.stage = stage ∧ Moves n t stamp o ∧ (n.step now stamp id).identity =
      o.identity ∧
      (n.step now stamp id).shared = o.shared ∧
      ∀ next, o.stage? = some next → Stands (n.step now stamp id) id role m next := by
  obtain ⟨t, htask, rfl, rfl, rfl⟩ := h.task
  obtain ⟨ht, rfl⟩ := mem_of_task? htask
  obtain ⟨o, hm, hchanges⟩ := stepTask_moves bare h.numbered ht (plain t rfl rfl) now stamp
  rw [Node.step, htask]
  refine ⟨t, o, rfl, rfl, hm, hchanges.identity, hchanges.shared, fun next hnext => ?_⟩
  refine ⟨h.numbered.stepTask now stamp ht,
    (SameCourse.stepTask n now stamp t).mode.trans h.working, ?_⟩
  obtain ⟨x, hx, hstage⟩ := Option.map_eq_some_iff.mp (hchanges.own.trans hnext)
  obtain ⟨hrole, hmessage⟩ := h.numbered.role_turn ht hx
  exact ⟨x, hx, hrole, hmessage, hstage⟩

private theorem Stands.begins (bare : w.handlers.get? "init" = none) {job? : Option w.Job}
    (h : Stands n id role m (.fresh job?)) (now : Nat) (stamp : Stamp) :
    (n.step now stamp id).identity = n.identity ∧ (n.step now stamp id).shared = n.shared ∧
      Stands (n.step now stamp id) id role m (job?.elim .adopt .work) := by
  obtain ⟨t, o, -, hs, hm, hidentity, hshared, hnext⟩ :=
    h.step bare (fun t _ hs => by simp [Plain, hs]) now stamp
  cases hm with
  | begins hs' =>
    obtain rfl := Stage.fresh.inj (hs.symm.trans hs')
    exact ⟨hidentity, hshared, hnext _ rfl⟩
  | starts job hs' =>
    obtain rfl := Stage.fresh.inj (hs.symm.trans hs')
    exact ⟨hidentity, hshared, hnext _ rfl⟩
  | _ => simp_all

private theorem Stands.work (bare : w.handlers.get? "init" = none)
    (h : Stands n id .handle m (.work job))
    {action : Action w.Job} {shared : w.Shared}
    (hstep : w.step n.view n.shared job = (action, shared)) (plain : action.Plain)
    (object : ∀ payload, action.payload? = some payload → ∃ fields, payload = .object fields)
    (now : Nat) (stamp : Stamp) :
    (n.step now stamp id).identity = n.identity ∧ (n.step now stamp id).shared = shared ∧
      ∀ next, action.leads stamp (.ok ()) = some next →
        Stands (n.step now stamp id) id .handle m next := by
  have hplain : ∀ t : Task w.Job, t.role = .handle → t.stage = .work job → n.Plain t := by
    intro t hrole hs
    simp only [Plain, hs, hstep]
    exact ⟨hrole, plain⟩
  obtain ⟨t, o, -, hs, hm, hidentity, hshared, hstands⟩ := h.step bare hplain now stamp
  obtain ⟨hidentity', hshared', result, hleads, hresult⟩ := hm.of_work hs hstep
  obtain rfl := hresult h.working object
  exact ⟨hidentity.trans hidentity', hshared.trans hshared', fun next hnext =>
    hstands next (hleads.trans hnext)⟩

private theorem Stands.resolved (h : Stands n id role m (.conclude (.ok ()))) :
    Resolved n₀ id m n := by
  obtain ⟨t, htask, -, hmessage, hs⟩ := h.task
  exact .well t htask hmessage hs

private theorem Stands.settles (bare : w.handlers.get? "init" = none) (hjob : w.Settles job)
    (h : Stands n id .handle m (.work job)) : Inevitable id (Resolved n₀ id m) n := by
  induction hjob generalizing n with
  | done job step =>
    refine .step n fun now stamp => ?_
    obtain ⟨-, -, hnext⟩ :=
      h.work bare (step n.view n.shared) trivial (fun _ h => by cases h) now stamp
    exact .here _ (hnext _ rfl).resolved
  | looks job next step after ih =>
    refine .step n fun now stamp => ?_
    obtain ⟨-, -, hnext⟩ :=
      h.work bare (step n.view n.shared) trivial (fun _ h => by cases h) now stamp
    exact ih n.shared (hnext _ rfl)
  | stamps job next step after ih =>
    refine .step n fun now stamp => ?_
    obtain ⟨-, -, hnext⟩ :=
      h.work bare (step n.view n.shared) trivial (fun _ h => by cases h) now stamp
    exact ih stamp (hnext _ rfl)
  | sends job dest payload next step object kind after ih =>
    refine .step n fun now stamp => ?_
    obtain ⟨-, -, hnext⟩ := h.work bare (step n.view n.shared) trivial
      (fun _ h => Option.some.inj h ▸ object) now stamp
    exact ih (hnext _ rfl)
  | replies job payload next step object kind after ih =>
    refine .step n fun now stamp => ?_
    obtain ⟨-, -, hnext⟩ := h.work bare (step n.view n.shared) trivial
      (fun _ h => Option.some.inj h ▸ object) now stamp
    exact ih (hnext _ rfl)

private theorem Stands.opens (hw : w.Decides) (hjob : w.Opens m job)
    (h : Stands n id .handle m (.work job))
    (identity : n.identity = n₀.identity) (shared : n.shared = n₀.shared) :
    Inevitable id (Resolved n₀ id m) n := by
  refine .step n fun now stamp => ?_
  obtain ⟨e, hstep, hcode⟩ | ⟨next, shared', hstep, hsettles⟩ := hw.first n.view n.shared m job hjob
  · obtain ⟨hidentity, hshared, hnext⟩ :=
      h.work hw.bare hstep trivial (fun _ h => by cases h) now stamp
    obtain ⟨-, -, t, htask, -, hmessage, hs⟩ := hnext _ rfl
    exact .here _ (.refused t e htask hmessage hs (by rw [hcode]; rfl) (hidentity.trans identity)
      (hshared.trans shared))
  · obtain ⟨-, -, hnext⟩ := h.work hw.bare hstep trivial (fun _ h => by cases h) now stamp
    exact (hnext _ rfl).settles hw.bare hsettles

private theorem Stands.adopts (bare : w.handlers.get? "init" = none)
    (h : Stands n id .initialise m .adopt)
    (identity : n.identity = n₀.identity) (shared : n.shared = n₀.shared) :
    Inevitable id (Resolved n₀ id m) n := by
  have hplain : ∀ {n : Node w} {stage : Stage w.Job}, stage = .adopt ∨ stage = .confirm →
      ∀ t : Task w.Job, t.role = .initialise → t.stage = stage → n.Plain t := by
    rintro n stage (rfl | rfl) t - hs <;> simp [Plain, hs]
  refine .step n fun now stamp => ?_
  obtain ⟨t, o, -, hs, hm, hidentity, hshared, hnext⟩ := h.step bare (hplain (.inl rfl)) now stamp
  cases hm with
  | refuses e hs' code =>
    obtain ⟨-, -, x, hx, -, hmessage, hs⟩ := hnext _ rfl
    exact .here _ (.refused x e hx hmessage hs (by rw [code]; rfl) (hidentity.trans identity)
      (hshared.trans shared))
  | adopts i hs' vacant offer =>
    refine .step _ fun now stamp => ?_
    obtain ⟨t', o', -, hs'', hm', -, -, hnext'⟩ :=
      (hnext _ rfl).step bare (hplain (.inr rfl)) now stamp
    cases hm' with
    | confirms result lines hs₃ wrote succeeds =>
      obtain rfl := succeeds (hnext _ rfl).working
      exact .here _ (hnext' _ rfl).resolved
    | _ => simp_all
  | _ => simp_all

end Alone

/-- Every request that is passed on comes to an end by the steps of its task: well, or it is refused
as malformed and nothing has changed. -/
theorem resolves (hw : w.Decides) (numbered : n.Numbered) (working : n.mode = .working)
    {bytes : List UInt8}
    (h : m ∈ n.dispatched bytes) :
    Inevitable n.nextTask (Resolved n n.nextTask m) (n.receiveBytes bytes) := by
  obtain ⟨hbody, hrequest, hrouted⟩ := routed_of_mem_dispatched h
  have hspawned : ∀ role stage,
      Stands (({ n with metrics := n.metrics.countReceived } : Node w).spawn role m stage)
          n.nextTask role m stage :=
    fun role stage => .spawn
      (n := { n with metrics := n.metrics.countReceived }) numbered.congr working role m stage
  generalize n.receiveBytes bytes = n' at hrouted
  cases hrouted with
  | taken id callback reply waits => simp [hrequest] at reply
  | dropped id reply waits => simp [hrequest] at reply
  | initialise request kind =>
    refine .step _ fun now stamp => ?_
    obtain ⟨hidentity, hshared, hstands⟩ :=
      (hspawned .initialise (.fresh none)).begins hw.bare now stamp
    exact hstands.adopts hw.bare hidentity hshared
  | handled handler request kind serves =>
    refine .step _ fun now stamp => ?_
    obtain ⟨hidentity, hshared, hstands⟩ :=
      (hspawned .handle (.fresh (some (handler m)))).begins hw.bare now stamp
    exact hstands.opens hw ⟨hbody, handler, serves, rfl⟩ hidentity hshared

end Node

end ClusterNode
