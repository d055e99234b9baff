import ClusterNode.Proofs.Message.Body
import ClusterNode.Proofs.Node.Identity

/-!
The moves of a task that makes no requests of its own: all that one of its steps can do to the
identity of the node, to what the jobs share, to the output, and to the task. What is not a step of
a task does nothing to them.
-/

set_option autoImplicit false

namespace ClusterNode

variable {w : Workload}

def Action.Plain {Job : Type} : Action Job → Prop
  | .proceed _ | .finish _ | .send _ _ _ | .reply _ _ | .stamp _ => True
  | .abandon | .call _ _ _ _ | .ask _ _ _ _ | .sleep _ _ | .note _ _ => False

/-- Where an action leads its task, given what the clock brings, or how a line was taken. -/
def Action.leads {Job : Type} (stamp : Stamp) (result : Except NodeError Unit) : Action Job →
    Option (Stage Job)
  | .proceed next => some (.work next)
  | .stamp next => some (.work (next stamp))
  | .finish result => some (.conclude result)
  | .send _ _ next | .reply _ next => some (.work (next result))
  | _ => none

/-- What a step leaves: the identity, what the jobs share, the lines that are new, and the stage of
the task unless it is gone. -/
structure Outcome (w : Workload) where
  identity : Option Identity
  shared : w.Shared
  lines : List Message
  stage? : Option (Stage w.Job)

namespace Node

/-- What a node writes that is to say something: a line, or nothing if it cannot. -/
inductive MayWrite (n : Node w) (dest : String) (payload : Json) (inReplyTo : Option UInt64) :
    List Message → Prop
  | nothing : MayWrite n dest payload inReplyTo []
  | line (body : Json) (stamped : encodeBody payload none inReplyTo = .ok body) :
      MayWrite n dest payload inReplyTo [⟨n.name, dest, body⟩]

/-- How a node says something: it changes nothing but its output and its counts, and a writer that
works does not fail. -/
structure Speech (n : Node w) (dest : String) (payload : Json) (inReplyTo : Option UInt64)
    (lines : List Message) (result : Except NodeError Unit) (n' : Node w) : Prop where
  wrote : n.MayWrite dest payload inReplyTo lines
  rest : ∃ metrics, metrics.crashes = n.metrics.crashes ∧
    n' = { n with written := n.written ++ lines, metrics }
  succeeds : n.mode = .working → (∃ fields, payload = .object fields) → result = .ok ()

section Speech

variable {n : Node w} {dest : String} {payload body : Json} {inReplyTo : Option UInt64}

private theorem write_speech (n : Node w) (dest : String)
    (h : encodeBody payload none inReplyTo = .ok body) :
    ∃ lines, Speech n dest payload inReplyTo lines (n.write dest body).1 (n.write dest body).2 := by
  have hwrote : ∀ appears : Bool,
      n.MayWrite dest payload inReplyTo (if appears then [⟨n.name, dest, body⟩] else []) := by
    intro appears
    cases appears
    · exact .nothing
    · exact .line body h
  rw [write_eq]
  refine ⟨_, hwrote (n.mode.outcome dest).1, ⟨_, ?_, rfl⟩, fun hmode _ => by rw [hmode]; rfl⟩
  split <;> rfl

private theorem Speech.silent {result : Except NodeError Unit}
    (succeeds : n.mode = .working → (∃ fields, payload = .object fields) → result = .ok ()) :
    Speech n dest payload inReplyTo [] result n :=
  ⟨.nothing, ⟨n.metrics, rfl, by rw [List.append_nil]⟩, succeeds⟩

private theorem send_speech (n : Node w) (dest : String) (payload : Json) :
    ∃ lines, Speech n dest payload none lines (n.send dest payload).1 (n.send dest payload).2 := by
  simp only [send]
  cases hbody : encodeBody payload none none with
  | ok body => exact write_speech n dest hbody
  | error e =>
    refine ⟨[], .silent fun _ hobject => ?_⟩
    obtain ⟨fields, rfl⟩ := hobject
    cases hbody

private theorem reply_speech (n : Node w) (m : Message) (payload : Json) :
    ∃ lines, Speech n m.src payload m.msgId? lines (n.reply m payload).1 (n.reply m payload).2 := by
  cases hid : m.msgId? with
  | none =>
    rw [reply_unnumbered hid]
    exact ⟨[], .silent fun _ _ => rfl⟩
  | some id =>
    simp only [reply, hid]
    cases hbody : encodeBody payload none (some id) with
    | ok body => exact write_speech n m.src hbody
    | error e =>
      refine ⟨[], .silent fun _ hobject => ?_⟩
      obtain ⟨fields, rfl⟩ := hobject
      cases hbody

theorem MayWrite.line_eq {lines : List Message} (h : n.MayWrite dest payload inReplyTo lines) :
    ∀ line ∈ lines, line.kind = kindOf payload ∧ ∃ fields, payload = .object fields ∧
      line = ⟨n.name, dest, .object (ClusterNode.stamped none inReplyTo fields)⟩ := by
  cases h with
  | nothing => exact fun _ hline => absurd hline List.not_mem_nil
  | line body stamped =>
    refine List.forall_mem_singleton.mpr ⟨kindOf_encodeBody stamped, ?_⟩
    cases payload with
    | object fields => exact ⟨fields, rfl, by rw [← Except.ok.inj stamped]; rfl⟩
    | _ => cases stamped

end Speech

/-- All that a step of a task can do that makes no requests of its own. -/
inductive Moves (n : Node w) (t : Task w.Job) (stamp : Stamp) : Outcome w → Prop
  | begins (stage : t.stage = .fresh none) : Moves n t stamp ⟨n.identity, n.shared, [], some .adopt⟩
  | starts (job : w.Job) (stage : t.stage = .fresh (some job)) :
      Moves n t stamp ⟨n.identity, n.shared, [], some (.work job)⟩
  | refuses (e : NodeError) (stage : t.stage = .adopt)
    (code : e.toRpcError.code = .malformedRequest) :
      Moves n t stamp ⟨n.identity, n.shared, [], some (.conclude (.error e))⟩
  | adopts (i : Identity) (stage : t.stage = .adopt) (vacant : n.identity = none)
      (offer : t.message.offer? = some i) : Moves n t stamp ⟨some i, n.shared, [], some .confirm⟩
  | proceeds (job next : w.Job) (shared : w.Shared) (stage : t.stage = .work job)
      (step : w.step n.view n.shared job = (.proceed next, shared)) :
      Moves n t stamp ⟨n.identity, shared, [], some (.work next)⟩
  | stamps (job : w.Job) (next : Stamp → w.Job) (shared : w.Shared) (stage : t.stage = .work job)
      (step : w.step n.view n.shared job = (.stamp next, shared)) :
      Moves n t stamp ⟨n.identity, shared, [], some (.work (next stamp))⟩
  | finishes (job : w.Job) (result : Except NodeError Unit) (shared : w.Shared)
    (stage : t.stage = .work job)
      (step : w.step n.view n.shared job = (.finish result, shared)) :
      Moves n t stamp ⟨n.identity, shared, [], some (.conclude result)⟩
  | sends (job : w.Job) (dest : String) (payload : Json) (next : Except NodeError Unit → w.Job)
      (shared : w.Shared) (result : Except NodeError Unit) (lines : List Message)
        (stage : t.stage = .work job)
      (step : w.step n.view n.shared job = (.send dest payload next, shared))
      (wrote : n.MayWrite dest payload none lines)
      (succeeds : n.mode = .working → (∃ fields, payload = .object fields) → result = .ok ()) :
      Moves n t stamp ⟨n.identity, shared, lines, some (.work (next result))⟩
  | replies (job : w.Job) (payload : Json) (next : Except NodeError Unit → w.Job)
    (shared : w.Shared)
      (result : Except NodeError Unit) (lines : List Message) (stage : t.stage = .work job)
      (step : w.step n.view n.shared job = (.reply payload next, shared))
      (wrote : n.MayWrite t.message.src payload t.message.msgId? lines)
      (succeeds : n.mode = .working → (∃ fields, payload = .object fields) → result = .ok ()) :
      Moves n t stamp ⟨n.identity, shared, lines, some (.work (next result))⟩
  | confirms (result : Except NodeError Unit) (lines : List Message) (stage : t.stage = .confirm)
      (wrote : n.MayWrite t.message.src (Payload.encode Payload.Init.initOk) t.message.msgId? lines)
      (succeeds : n.mode = .working → result = .ok ()) :
      Moves n t stamp ⟨n.identity, n.shared, lines, some (.conclude result)⟩
  | ends (stage : t.stage = .conclude (.ok ())) : Moves n t stamp ⟨n.identity, n.shared, [], none⟩
  | reports (e : NodeError) (stage : t.stage = .conclude (.error e)) :
      Moves n t stamp ⟨n.identity, n.shared, [], some (.refuse e.toRpcError)⟩
  | reported (e : RpcError) (lines : List Message) (stage : t.stage = .refuse e)
      (wrote : n.MayWrite t.message.src (Payload.encode e) t.message.msgId? lines) :
      Moves n t stamp ⟨n.identity, n.shared, lines, none⟩

section Moves

variable {n : Node w} {t : Task w.Job} {stamp : Stamp} {o : Outcome w}

theorem Moves.shared_cases (h : Moves n t stamp o) :
    (∃ job, t.stage = .work job ∧ o.shared = (w.step n.view n.shared job).2) ∨
      (∀ job, t.stage ≠ .work job) ∧ o.shared = n.shared := by
  have hwork : ∀ {job action shared}, t.stage = .work job →
    w.step n.view n.shared job = (action, shared) →
      ∃ job, t.stage = .work job ∧ shared = (w.step n.view n.shared job).2 :=
    fun hs hstep => ⟨_, hs, by rw [hstep]⟩
  cases h with
  | proceeds job next shared hs hstep => exact .inl (hwork hs hstep)
  | stamps job next shared hs hstep => exact .inl (hwork hs hstep)
  | finishes job result shared hs hstep => exact .inl (hwork hs hstep)
  | sends job dest payload next shared result lines hs hstep => exact .inl (hwork hs hstep)
  | replies job payload next shared result lines hs hstep => exact .inl (hwork hs hstep)
  | _ => exact .inr ⟨by simp [*], rfl⟩

theorem Moves.shared_of_idle (h : Moves n t stamp o) (idle : ∀ job, t.stage ≠ .work job) :
    o.shared = n.shared := by
  rcases h.shared_cases with ⟨job, hs, -⟩ | ⟨-, hshared⟩
  · exact absurd hs (idle job)
  · exact hshared

theorem Moves.of_work (hm : Moves n t stamp o) {job : w.Job} {action : Action w.Job}
    {shared : w.Shared}
    (hs : t.stage = .work job) (hstep : w.step n.view n.shared job = (action, shared)) :
    o.identity = n.identity ∧ o.shared = shared ∧ ∃ result, o.stage? = action.leads stamp result ∧
      (n.mode = .working →
        (∀ payload, action.payload? = some payload → ∃ fields, payload = .object fields) →
        result = .ok ()) := by
  have hsame : ∀ {job' action' shared'}, t.stage = .work job' →
    w.step n.view n.shared job' = (action', shared') →
      action' = action ∧ shared' = shared := by
    intro job' action' shared' hs' hstep'
    obtain rfl := Stage.work.inj (hs.symm.trans hs')
    rw [hstep] at hstep'
    exact ⟨(Prod.mk.inj hstep').1.symm, (Prod.mk.inj hstep').2.symm⟩
  cases hm with
  | proceeds job' next shared' hs' hstep' =>
    obtain ⟨rfl, rfl⟩ := hsame hs' hstep'
    exact ⟨rfl, rfl, .ok (), rfl, fun _ _ => rfl⟩
  | stamps job' next shared' hs' hstep' =>
    obtain ⟨rfl, rfl⟩ := hsame hs' hstep'
    exact ⟨rfl, rfl, .ok (), rfl, fun _ _ => rfl⟩
  | finishes job' result shared' hs' hstep' =>
    obtain ⟨rfl, rfl⟩ := hsame hs' hstep'
    exact ⟨rfl, rfl, .ok (), rfl, fun _ _ => rfl⟩
  | sends job' dest payload next shared' result lines hs' hstep' wrote succeeds =>
    obtain ⟨rfl, rfl⟩ := hsame hs' hstep'
    exact ⟨rfl, rfl, result, rfl, fun hmode hobject => succeeds hmode (hobject payload rfl)⟩
  | replies job' payload next shared' result lines hs' hstep' wrote succeeds =>
    obtain ⟨rfl, rfl⟩ := hsame hs' hstep'
    exact ⟨rfl, rfl, result, rfl, fun hmode hobject => succeeds hmode (hobject payload rfl)⟩
  | _ => simp_all

private theorem Moves.identity_cases (h : Moves n t stamp o) :
    o.identity = n.identity ∨ n.identity = none ∧ t.stage = .adopt ∧ o.stage? = some .confirm := by
  cases h with
  | adopts i hs vacant offer => exact .inr ⟨vacant, hs, rfl⟩
  | _ => exact .inl rfl

theorem Moves.identity_kept (h : Moves n t stamp o) {i : Identity} (hi : n.identity = some i) :
    o.identity = some i := by
  rcases h.identity_cases with heq | ⟨hvacant, -⟩
  · exact heq.trans hi
  · rw [hi] at hvacant
    cases hvacant

theorem Moves.lines_cases (h : Moves n t stamp o) : o.lines = [] ∨ ∃ line, o.lines = [line] := by
  have hwrote : ∀ {dest payload inReplyTo lines}, n.MayWrite dest payload inReplyTo lines →
      lines = [] ∨ ∃ line, lines = [line] := by
    intro dest payload inReplyTo lines wrote
    cases wrote with
    | nothing => exact .inl rfl
    | line body stamped => exact .inr ⟨_, rfl⟩
  cases h with
  | sends job dest payload next shared result lines hs hstep wrote => exact hwrote wrote
  | replies job payload next shared result lines hs hstep wrote => exact hwrote wrote
  | confirms result lines hs wrote => exact hwrote wrote
  | reported e lines hs wrote => exact hwrote wrote
  | _ => exact .inl rfl

end Moves

def Plain (n : Node w) (t : Task w.Job) : Prop :=
  match t.stage with
  | .work job => t.role = .handle ∧ (w.step n.view n.shared job).1.Plain
  | .post _ _ _ _ | .dial _ _ _ _ _ | .flush _ | .wait _ | .sleep _ _ | .hand _ _ => False
  | _ => True

structure Changes (n : Node w) (t : Task w.Job) (o : Outcome w) (n' : Node w) : Prop where
  own : (n'.task? t.id).map Task.stage = o.stage?
  identity : n'.identity = o.identity
  shared : n'.shared = o.shared
  written : n'.written = n.written ++ o.lines
  pending : n'.pending = n.pending
  crashes : (∀ e, t.stage = .conclude (.error e) → e.rpcError?.isSome) →
    n'.metrics.crashes = n.metrics.crashes

section Moves

variable {n n₁ : Node w} {t : Task w.Job} {o : Outcome w}

private theorem Changes.goTo (hn : n.Numbered) (ht : t ∈ n.tasks) {stage : Stage w.Job}
    (hstage : o.stage? = some stage)
    (tasks : n₁.tasks = n.tasks := by rfl) (identity : n₁.identity = o.identity := by rfl)
    (shared : n₁.shared = o.shared := by rfl)
      (written : n₁.written = n.written ++ o.lines := by simp)
    (pending : n₁.pending = n.pending := by rfl)
    (crashes : n₁.metrics.crashes = n.metrics.crashes := by rfl) :
        Changes n t o (n₁.goTo t.id stage) where
  own := by rw [hn.task?_goTo ht stage tasks, hstage, Option.map_some]
  identity := identity
  shared := shared
  written := written
  pending := pending
  crashes := fun _ => crashes

private theorem Changes.remove (hstage : o.stage? = none)
    (identity : n₁.identity = o.identity := by rfl)
    (shared : n₁.shared = o.shared := by rfl)
      (written : n₁.written = n.written ++ o.lines := by simp)
    (pending : n₁.pending = n.pending := by rfl)
    (crashes : n₁.metrics.crashes = n.metrics.crashes := by rfl) :
        Changes n t o (n₁.remove t.id) where
  own := by rw [task?_remove, hstage, Option.map_none]
  identity := identity
  shared := shared
  written := written
  pending := pending
  crashes := fun _ => crashes

private theorem act_moves (hn : n.Numbered) (ht : t ∈ n.tasks) (now : Nat) (stamp : Stamp)
    {job : w.Job} (hs : t.stage = .work job) (role : t.role = .handle)
    (plain : (w.step n.view n.shared job).1.Plain) :
    ∃ o, Moves n t stamp o ∧
      Changes n t o (({ n with shared := (w.step n.view n.shared job).2 } : Node w).act now stamp t
        (w.step n.view n.shared job).1) := by
  cases hstep : w.step n.view n.shared job with
  | mk action shared =>
    rw [hstep] at plain
    simp only at plain ⊢
    cases action with
    | proceed next =>
      refine ⟨_, .proceeds job next shared hs hstep, ?_⟩
      exact .goTo hn ht rfl
    | stamp next =>
      refine ⟨_, .stamps job next shared hs hstep, ?_⟩
      exact .goTo hn ht rfl
    | finish result =>
      refine ⟨_, .finishes job result shared hs hstep, ?_⟩
      simp only [act, role]
      exact .goTo hn ht rfl
    | send dest payload next =>
      obtain ⟨lines, wrote, ⟨metrics, hcrashes, hrest⟩, succeeds⟩ :=
        send_speech ({ n with shared } : Node w) dest payload
      have wrote' : n.MayWrite dest payload none lines := by
        cases wrote with
        | nothing => exact .nothing
        | line body stamped => exact .line body stamped
      refine ⟨_, .sends job dest payload next shared _ lines hs hstep wrote' succeeds, ?_⟩
      simp only [act, hrest]
      exact .goTo hn ht rfl rfl rfl rfl rfl rfl hcrashes
    | reply payload next =>
      obtain ⟨lines, wrote, ⟨metrics, hcrashes, hrest⟩, succeeds⟩ :=
        reply_speech ({ n with shared } : Node w) t.message payload
      have wrote' : n.MayWrite t.message.src payload t.message.msgId? lines := by
        cases wrote with
        | nothing => exact .nothing
        | line body stamped => exact .line body stamped
      refine ⟨_, .replies job payload next shared _ lines hs hstep wrote' succeeds, ?_⟩
      simp only [act, hrest]
      exact .goTo hn ht rfl rfl rfl rfl rfl rfl hcrashes
    | _ => exact plain.elim

private theorem adopt_moves (bare : w.handlers.get? "init" = none) (hn : n.Numbered)
    (ht : t ∈ n.tasks)
    (hs : t.stage = .adopt) (stamp : Stamp) :
    ∃ o, Moves n t stamp o ∧ Changes n t o (n.adopt t) := by
  have hadopts := adopt_cases bare n t
  generalize n.adopt t = n' at hadopts
  cases hadopts with
  | malformed e offer code =>
    refine ⟨_, .refuses (.rpc e) hs code, ?_⟩
    exact .goTo hn ht rfl
  | late i identity offer =>
    refine ⟨_, .refuses (.alreadyInitialized i.id) hs rfl, ?_⟩
    exact .goTo hn ht rfl
  | granted i identity offer =>
    refine ⟨_, .adopts i hs identity offer, ?_⟩
    exact .goTo hn ht rfl

/-- A step of a task whose next step makes no request is one of its moves. -/
theorem stepTask_moves (bare : w.handlers.get? "init" = none) (hn : n.Numbered) (ht : t ∈ n.tasks)
    (plain : n.Plain t) (now : Nat) (stamp : Stamp) :
    ∃ o, Moves n t stamp o ∧ Changes n t o (n.stepTask now stamp t) := by
  unfold Plain at plain
  cases hs : t.stage with
  | fresh job =>
    simp only [stepTask, hs]
    cases job with
    | none =>
      refine ⟨_, .begins hs, ?_⟩
      exact .goTo hn ht rfl
    | some job =>
      refine ⟨_, .starts job hs, ?_⟩
      exact .goTo hn ht rfl
  | adopt =>
    simp only [stepTask, hs]
    exact adopt_moves bare hn ht hs stamp
  | work job =>
    simp only [hs] at plain
    simp only [stepTask, hs]
    exact act_moves hn ht now stamp hs plain.1 plain.2
  | confirm =>
    obtain ⟨lines, wrote, ⟨metrics, hcrashes, hrest⟩, succeeds⟩ :=
      reply_speech n t.message (Payload.encode Payload.Init.initOk)
    refine ⟨_, .confirms _ lines hs wrote fun hmode => succeeds hmode ⟨_, rfl⟩, ?_⟩
    simp only [stepTask, hs, hrest]
    exact .goTo hn ht rfl rfl rfl rfl rfl rfl hcrashes
  | conclude result =>
    cases result with
    | ok u =>
      refine ⟨_, .ends hs, ?_⟩
      simp only [stepTask, hs, conclude]
      exact .remove rfl
    | error e =>
      refine ⟨_, .reports e hs, ?_⟩
      simp only [stepTask, hs, conclude, NodeError.toRpcError]
      cases hreported : e.rpcError? with
      | some reported => exact .goTo hn ht rfl
      | none =>
        have hchanges : Changes n t ⟨n.identity, n.shared, [], some (.refuse ⟨.crash, e.message⟩)⟩
            (({ n with metrics := n.metrics } : Node w).goTo t.id (.refuse ⟨.crash, e.message⟩)) :=
          .goTo hn ht rfl
        refine ⟨hchanges.own, rfl, rfl, by simp [goTo, update], rfl, fun h => ?_⟩
        have hsome := h e hs
        rw [hreported] at hsome
        cases hsome
  | refuse e =>
    obtain ⟨lines, wrote, ⟨metrics, hcrashes, hrest⟩, -⟩ :=
      reply_speech n t.message (Payload.encode e)
    refine ⟨_, .reported e lines hs wrote, ?_⟩
    simp only [stepTask, hs, hrest]
    exact .remove rfl rfl rfl rfl rfl hcrashes
  | _ => simp only [hs] at plain

end Moves

structure Still (n n' : Node w) : Prop where
  identity : n'.identity = n.identity := by rfl
  shared : n'.shared = n.shared := by rfl
  written : n'.written = n.written := by rfl
  crashes : n'.metrics.crashes = n.metrics.crashes := by rfl

section Still

variable {n : Node w}

private theorem still_stop (n : Node w) (e : NodeError) : Still n (n.stop e) := by
  obtain ⟨g, -, hstop⟩ := stop_eq n e
  rw [hstop]
  exact {}

private theorem still_take (n : Node w) (r : Reading) : Still n (n.take r) := by
  cases r with
  | blank => exact {}
  | refused e => exact still_stop n e
  | message m line =>
    cases hfault : (Reading.message m line).fault? w.handlers.contains with
    | none =>
      have hrouted := take_routed (n := n) hfault
      generalize n.take (.message m line) = n' at hrouted
      cases hrouted <;> exact {}
    | some e =>
      rw [take_of_fault hfault]
      exact { still_stop { n with metrics := n.metrics.countReceived } e with }

/-- What is not a step of a task changes neither the identity nor what the jobs share, and writes
nothing. -/
theorem still_apply {e : Event w} (h : ∀ now stamp id, e ≠ .step now stamp id) :
    Still n (n.apply e) := by
  cases e with
  | line bytes =>
    simp only [apply, receiveBytes_eq_take]
    split
    · exact {}
    · exact still_take n _
  | step now stamp id => exact absurd rfl (h now stamp id)
  | settle =>
    simp only [apply, settle]
    split <;> exact {}
  | cancel => exact {}
  | setMode mode => exact {}
  | client job => exact {}

end Still

end Node

end ClusterNode
