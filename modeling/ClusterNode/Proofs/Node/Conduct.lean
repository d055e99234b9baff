import ClusterNode.Proofs.Basic
import ClusterNode.Proofs.Node.Moves

/-!
Conducts: what is known of the jobs of a workload that make no requests of their own, each under the
number of its task. A step of one task keeps a conduct if its own job goes on as the conduct allows,
and if what is known of the others stays known.
-/

set_option autoImplicit false

namespace ClusterNode

variable {w : Workload}

structure Conduct (w : Workload) where
  /-- Of a request for an identity that has not been decided. -/
  Seeks : Nat → Message → Prop
  /-- Of a job. -/
  Fits : Nat → Message → w.Job → Prop
  /-- Of a failure. -/
  Fails : Nat → NodeError → Prop
  refusable : ∀ id m, Seeks id m → ∀ e : NodeError, e.toRpcError.code = .malformedRequest →
    Fails id e

namespace Conduct

variable {c : Conduct w}

def Lenient (c : Conduct w) : Prop := ∀ id e, c.Fails id e

/-- Whether a job may do something, given what the clock and the source of randomness bring. What is
sent or answered can be written, and if no failure is ruled out, the job has to cope with a writer
that fails. -/
def Allows (c : Conduct w) (id : Nat) (m : Message) (stamp : Stamp) : Action w.Job → Prop
  | .proceed next => c.Fits id m next
  | .stamp next => c.Fits id m (next stamp)
  | .finish (.ok ()) => True
  | .finish (.error e) => c.Fails id e
  | .send _ payload next | .reply payload next =>
    (∃ fields, payload = .object fields) ∧ ∀ r, r = .ok () ∨ c.Lenient → c.Fits id m (next r)
  | _ => False

structure Spares (c c' : Conduct w) (id : Nat) : Prop where
  seeks : ∀ other m, other ≠ id → c.Seeks other m → c'.Seeks other m
  fits : ∀ other m job, other ≠ id → c.Fits other m job → c'.Fits other m job
  fails : ∀ other e, other ≠ id → c.Fails other e → c'.Fails other e

structure Opens (c : Conduct w) (id : Nat) (m : Message) : Prop where
  seeks : m.kind = "init" → c.Seeks id m
  fits : ∀ handler, w.handlers.get? m.kind = some handler → c.Fits id m (handler m)

theorem Allows.plain {id : Nat} {m : Message} {stamp : Stamp} {action : Action w.Job}
    (h : c.Allows id m stamp action) : action.Plain := by
  cases action <;> trivial

def Suits (c : Conduct w) (id : Nat) (role : Role) (m : Message) : Stage w.Job → Prop
  | .fresh none | .adopt => role = .initialise ∧ c.Seeks id m
  | .fresh (some job) | .work job => role = .handle ∧ c.Fits id m job
  | .confirm => role = .initialise
  | .conclude (.ok ()) => role.isRequest
  | .conclude (.error e) => role.isRequest ∧ c.Fails id e
  | .refuse e => role.isRequest ∧ ∃ cause, c.Fails id cause ∧ e = cause.toRpcError
  | _ => False

end Conduct

def Task.Follows (c : Conduct w) (t : Task w.Job) : Prop :=
  c.Suits t.id t.role t.message t.stage

namespace Task.Follows

variable {c c' : Conduct w} {t x : Task w.Job} {stage : Stage w.Job}

theorem of_stage (h : t.Follows c) (hs : t.stage = stage) : c.Suits t.id t.role t.message stage :=
  hs ▸ h

private theorem congr (h : t.Follows c) (id : x.id = t.id) (role : x.role = t.role)
    (message : x.message = t.message)
    (stage : x.stage = t.stage) : x.Follows c := by
  unfold Follows
  rw [id, role, message, stage]
  exact h

private theorem imp (h : t.Follows c) (seeks : ∀ m, c.Seeks t.id m → c'.Seeks t.id m)
    (fits : ∀ m job, c.Fits t.id m job → c'.Fits t.id m job)
    (fails : ∀ e, c.Fails t.id e → c'.Fails t.id e) : t.Follows c' := by
  unfold Follows at h ⊢
  generalize t.stage = stage at h
  cases stage with
  | fresh job =>
    cases job with
    | none => exact ⟨h.1, seeks _ h.2⟩
    | some job => exact ⟨h.1, fits _ _ h.2⟩
  | adopt => exact ⟨h.1, seeks _ h.2⟩
  | work job => exact ⟨h.1, fits _ _ h.2⟩
  | confirm => exact h
  | conclude result =>
    cases result with
    | ok u => exact h
    | error e => exact ⟨h.1, fails _ h.2⟩
  | refuse e =>
    obtain ⟨role, cause, hcause, he⟩ := h
    exact ⟨role, cause, fails _ hcause, he⟩
  | _ => exact h.elim

private theorem not_hand (h : t.Follows c) (task : Nat) (id : UInt64) : t.stage ≠ .hand task id :=
  fun hs => h.of_stage hs

end Task.Follows

namespace Node

variable {c c' : Conduct w} {n n' : Node w} {t x : Task w.Job} {stamp : Stamp} {o : Outcome w}

private theorem plain_of_follows (h : t.Follows c)
    (plain : ∀ job, t.stage = .work job → (w.step n.view n.shared job).1.Plain) : n.Plain t := by
  unfold Plain
  split
  · rename_i job hs
    exact ⟨(h.of_stage hs).1, plain job hs⟩
  all_goals first | trivial | exact h.of_stage ‹_›

private theorem Moves.follows (hm : Moves n t stamp o) (h : t.Follows c)
    (calm : n.mode = .working ∨ c'.Lenient)
    (still : (∀ job, t.stage ≠ .work job) → o.identity = n.identity → c' = c)
    (allows : ∀ job, t.stage = .work job →
      c'.Allows t.id t.message stamp (w.step n.view n.shared job).1)
    {stage : Stage w.Job} (hstage : o.stage? = some stage) :
    ({ t with stage } : Task w.Job).Follows c' := by
  have hresult : ∀ {r : Except NodeError Unit}, (n.mode = .working → r = .ok ()) → r = .ok () ∨
      c'.Lenient :=
    fun hr => calm.imp hr id
  have hallowed : ∀ {job action shared}, t.stage = .work job →
    w.step n.view n.shared job = (action, shared) →
      t.role = .handle ∧ c'.Allows t.id t.message stamp action := by
    intro job action shared hs hstep
    have hallows := allows job hs
    rw [hstep] at hallows
    exact ⟨(h.of_stage hs).1, hallows⟩
  cases hm with
  | begins hs =>
    obtain rfl := still (by simp [hs]) rfl
    obtain rfl := Option.some.inj hstage
    have hsuits := h.of_stage hs
    exact hsuits
  | starts job hs =>
    obtain rfl := still (by simp [hs]) rfl
    obtain rfl := Option.some.inj hstage
    have hsuits := h.of_stage hs
    exact hsuits
  | refuses e hs code =>
    obtain rfl := still (by simp [hs]) rfl
    obtain ⟨role, hseeks⟩ := h.of_stage hs
    obtain rfl := Option.some.inj hstage
    exact ⟨by rw [role]; rfl, c'.refusable _ _ hseeks e code⟩
  | adopts i hs vacant offer =>
    obtain rfl := Option.some.inj hstage
    exact (h.of_stage hs).1
  | proceeds job next shared hs hstep =>
    obtain rfl := Option.some.inj hstage
    exact hallowed hs hstep
  | stamps job next shared hs hstep =>
    obtain ⟨role, hallows⟩ := hallowed hs hstep
    obtain rfl := Option.some.inj hstage
    exact ⟨role, hallows⟩
  | finishes job result shared hs hstep =>
    obtain ⟨role, hallows⟩ := hallowed hs hstep
    obtain rfl := Option.some.inj hstage
    have hrequest : t.role.isRequest := by rw [role]; rfl
    cases result with
    | ok u => exact hrequest
    | error e => exact ⟨hrequest, hallows⟩
  | sends job dest payload next shared result lines hs hstep wrote succeeds =>
    obtain ⟨role, hpayload, hnext⟩ := hallowed hs hstep
    obtain rfl := Option.some.inj hstage
    exact ⟨role, hnext result (hresult fun hmode => succeeds hmode hpayload)⟩
  | replies job payload next shared result lines hs hstep wrote succeeds =>
    obtain ⟨role, hpayload, hnext⟩ := hallowed hs hstep
    obtain rfl := Option.some.inj hstage
    exact ⟨role, hnext result (hresult fun hmode => succeeds hmode hpayload)⟩
  | confirms result lines hs wrote succeeds =>
    have role : t.role = .initialise := h.of_stage hs
    have hrequest : t.role.isRequest := by rw [role]; rfl
    obtain rfl := Option.some.inj hstage
    cases result with
    | ok u => exact hrequest
    | error e =>
      rcases hresult succeeds with hok | hlenient
      · cases hok
      · exact ⟨hrequest, hlenient t.id e⟩
  | ends hs => cases hstage
  | reports e hs =>
    obtain rfl := still (by simp [hs]) rfl
    obtain ⟨hrequest, hfails⟩ := h.of_stage hs
    obtain rfl := Option.some.inj hstage
    exact ⟨hrequest, e, hfails, rfl⟩
  | reported e lines hs wrote => cases hstage

/-- The request that a line brings and that is passed to a handler, or to the node itself. -/
def dispatched (n : Node w) (bytes : List UInt8) : List Message :=
  (n.routedBy (.line bytes)).filter fun m => m.inReplyTo? = none

private theorem mem_dispatched {bytes : List UInt8} {m : Message} {text : String}
    (reading : n.verdict = none)
    (hread : Reading.ofBytes bytes = .message m text)
    (hfault : (Reading.message m text).fault? w.handlers.contains = none)
    (request : m.inReplyTo? = none) :
    m ∈ n.dispatched bytes := by
  have hgoes : (n.receiveBytes bytes).verdict = none := by
    rw [verdict_receiveBytes reading, hread, hfault, Option.map_none]
  simp [dispatched, routedBy, reading, hgoes, hread, Reading.message?, request]

theorem dispatched_cases (n : Node w) (bytes : List UInt8) :
    n.dispatched bytes = [] ∨ ∃ m, n.dispatched bytes = [m] := by
  simp only [dispatched, routedBy]
  split
  · cases (Reading.ofBytes bytes).message? with
    | none => exact .inl rfl
    | some m =>
      by_cases hm : m.inReplyTo? = none
      · exact .inr ⟨m, by simp [hm]⟩
      · exact .inl (by simp [hm])
  · exact .inl rfl

structure OnCourse (c : Conduct w) (n : Node w) : Prop where
  numbered : n.Numbered
  unasked : n.pending.entries = []
  calm : n.mode = .working ∨ c.Lenient
  follows : ∀ t ∈ n.tasks, t.Follows c

namespace OnCourse

theorem start (c : Conduct w) (rpcTimeout : Duration) : OnCourse c (Node.start w rpcTimeout) :=
  ⟨.start w rpcTimeout, rfl, .inl rfl, fun _ ht => absurd ht List.not_mem_nil⟩

theorem congr (hc : OnCourse c n) (htasks : n'.tasks = n.tasks := by rfl)
    (hnext : n'.nextTask = n.nextTask := by rfl) (hpending : n'.pending = n.pending := by rfl)
    (hmode : n'.mode = n.mode := by rfl) : OnCourse c n' :=
  ⟨hc.numbered.congr htasks hnext, hpending ▸ hc.unasked, hmode ▸ hc.calm, htasks ▸ hc.follows⟩

theorem imp (hc : OnCourse c n) (lenient : c.Lenient → c'.Lenient)
    (seeks : ∀ id m, id < n.nextTask → c.Seeks id m → c'.Seeks id m)
    (fits : ∀ id m job, id < n.nextTask → c.Fits id m job → c'.Fits id m job)
    (fails : ∀ id e, id < n.nextTask → c.Fails id e → c'.Fails id e) : OnCourse c' n :=
  ⟨hc.numbered, hc.unasked, hc.calm.imp id lenient, fun t ht => (hc.follows t ht).imp
    (fun m => seeks t.id m (hc.numbered.below t ht))
      (fun m job => fits t.id m job (hc.numbered.below t ht))
    fun e => fails t.id e (hc.numbered.below t ht)⟩

theorem moves (bare : w.handlers.get? "init" = none) (hc : OnCourse c n) (ht : t ∈ n.tasks)
    (plain : ∀ job, t.stage = .work job → (w.step n.view n.shared job).1.Plain) (now : Nat)
    (stamp : Stamp) :
    ∃ o, Moves n t stamp o ∧ Changes n t o (n.stepTask now stamp t) :=
  stepTask_moves bare hc.numbered ht (plain_of_follows (hc.follows t ht) plain) now stamp

theorem stepTask (hc : OnCourse c n) (ht : t ∈ n.tasks) {now : Nat} (hm : Moves n t stamp o)
    (hchanges : Changes n t o (n.stepTask now stamp t)) (lenient : c.Lenient → c'.Lenient)
    (spares : c.Spares c' t.id)
    (still : (∀ job, t.stage ≠ .work job) → o.identity = n.identity → c' = c)
    (allows : ∀ job, t.stage = .work job →
      c'.Allows t.id t.message stamp (w.step n.view n.shared job).1) :
    OnCourse c' (n.stepTask now stamp t) := by
  have hcourse := SameCourse.stepTask n now stamp t
  have hnumbered := hc.numbered.stepTask now stamp ht
  refine ⟨hnumbered, by rw [hchanges.pending, hc.unasked], ?_, fun x hx => ?_⟩
  · rw [hcourse.mode]
    exact hc.calm.imp id lenient
  · by_cases hid : x.id = t.id
    · have hown := hnumbered.task? hx
      rw [hid] at hown
      have hstage := hchanges.own
      rw [hown, Option.map_some] at hstage
      obtain ⟨role, message⟩ := hc.numbered.role_turn ht hown
      exact (hm.follows (hc.follows t ht) (hc.calm.imp id lenient) still allows hstage.symm).congr
        hid role
        message rfl
    · obtain ⟨y, hy, hne, rfl⟩ := (mem_stepTask_iff_of_ne now stamp hc.numbered ht hid).mp hx
      rw [Task.receiving_eq_self (hc.follows t ht).not_hand]
      exact (hc.follows y hy).imp (fun m => spares.seeks y.id m hne)
        (fun m job => spares.fits y.id m job hne)
        fun e => spares.fails y.id e hne

private theorem stop (hc : OnCourse c n) (e : NodeError) : OnCourse c (n.stop e) := by
  obtain ⟨g, -, hstop⟩ := stop_eq n e
  refine ⟨hc.numbered.stop e, by
    rw [hstop]; exact hc.unasked, by rw [hstop]; exact hc.calm, fun x hx => ?_⟩
  obtain ⟨y, hy, -, rfl | rfl⟩ := mem_stop hx
  · exact hc.follows x hy
  · exact (hc.follows y hy).congr rfl rfl rfl rfl

private theorem spawn (hc : OnCourse c n) {role : Role} {m : Message} {stage : Stage w.Job}
    (h : Task.Follows c ⟨n.nextTask, role, m, stage, .empty⟩) :
    OnCourse c (n.spawn role m stage) := by
  refine ⟨hc.numbered.spawn role m stage, hc.unasked, hc.calm, fun x hx => ?_⟩
  rcases mem_spawn.mp hx with hx | rfl
  · exact hc.follows x hx
  · exact h

private theorem routed (hc : OnCourse c n) {m : Message}
    (opens : m.inReplyTo? = none → c.Opens n.nextTask m)
    (h : Routed n m n') : OnCourse c n' := by
  cases h with
  | taken id callback reply waits =>
    have hentry := Pending.mem_of_get? waits
    rw [hc.unasked] at hentry
    exact absurd hentry List.not_mem_nil
  | dropped id reply waits => exact hc.congr
  | initialise request kind => exact OnCourse.spawn (hc.congr) ⟨rfl, (opens request).seeks kind⟩
  | handled handler request kind serves =>
    exact OnCourse.spawn (hc.congr) ⟨rfl, (opens request).fits handler serves⟩

theorem line (hc : OnCourse c n) {bytes : List UInt8}
    (opens : ∀ m ∈ n.dispatched bytes, c.Opens n.nextTask m) :
    OnCourse c (n.receiveBytes bytes) := by
  rw [receiveBytes_eq_take]
  cases hverdict : n.verdict with
  | some result => exact hc
  | none =>
    rw [if_neg (by simp)]
    cases hread : Reading.ofBytes bytes with
    | blank => exact hc
    | refused e => exact hc.stop e
    | message m text =>
      cases hfault : (Reading.message m text).fault? w.handlers.contains with
      | none =>
        exact hc.routed (fun request => opens m (mem_dispatched hverdict hread hfault request))
          (take_routed hfault)
      | some e =>
        rw [take_of_fault hfault]
        exact OnCourse.stop (n := { n with metrics := n.metrics.countReceived }) hc.congr e

end OnCourse

/-- Events that no caller inside the program brings about. -/
def Event.FromOutside : Event w → Prop
  | .client _ => False
  | _ => True

theorem OnCourse.apply (hc : OnCourse c n) {e : Event w} (outside : e.FromOutside)
    (opens : ∀ bytes, e = .line bytes → ∀ m ∈ n.dispatched bytes, c.Opens n.nextTask m)
    (hstep : ∀ now stamp id, e ≠ .step now stamp id)
    (hmode : ∀ mode, e = .setMode mode → c.Lenient) :
    OnCourse c (n.apply e) := by
  cases e with
  | line bytes => exact hc.line (opens bytes rfl)
  | step now stamp id => exact absurd rfl (hstep now stamp id)
  | settle =>
    simp only [Node.apply, settle]
    split
    · exact hc.congr
    · exact hc
  | cancel => exact hc.congr
  | setMode mode => exact ⟨hc.numbered.congr, hc.unasked, .inr (hmode mode rfl), hc.follows⟩
  | client job => exact outside.elim

end Node

end ClusterNode
