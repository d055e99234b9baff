import ClusterNode.Proofs.Node.Identity

/-!
What a node makes of the requests for an identity: one of them is granted at most, and the others
are refused. Each is decided once, unless the reading of input ends with an error before.
-/

set_option autoImplicit false

namespace ClusterNode

variable {w : Workload}

/-- What becomes of a request for an identity: it is granted, or it is refused with an error. -/
structure Decision where
  request : Message
  refusal : Option RpcError

namespace Decision

structure Granted (i : Identity) (d : Decision) : Prop where
  offer : d.request.offer? = some i
  refusal : d.refusal = none

structure Malformed (d : Decision) : Prop where
  offer : d.request.offer? = none
  refusal : ∃ e, d.refusal = some e ∧ e.code = .malformedRequest

/-- The request offers an identity to a node that has one, and is told which. -/
structure Late (i : Identity) (d : Decision) : Prop where
  offer : d.request.offer?.isSome
  refusal : d.refusal = some ⟨.malformedRequest, (NodeError.alreadyInitialized i.id).message⟩

def isHeard (d : Decision) : Bool := d.request.msgId?.isSome

end Decision

/-- The decisions that lead to an identity, in the order in which they are made. -/
inductive Course : Option Identity → List Decision → Prop
  | nil : Course none []
  | malformed {identity : Option Identity} {ds : List Decision} {d : Decision}
    (earlier : Course identity ds)
      (malformed : d.Malformed) : Course identity (ds ++ [d])
  | granted {i : Identity} {ds : List Decision} {d : Decision} (earlier : Course none ds)
      (granted : d.Granted i) : Course (some i) (ds ++ [d])
  | late {i : Identity} {ds : List Decision} {d : Decision} (earlier : Course (some i) ds)
      (late : d.Late i) : Course (some i) (ds ++ [d])

namespace Course

variable {i : Identity} {ds : List Decision}

theorem all_malformed (h : Course none ds) : ∀ d ∈ ds, d.Malformed := by
  generalize hidentity : (none : Option Identity) = identity at h
  induction h with
  | nil => exact fun _ hd => absurd hd List.not_mem_nil
  | malformed earlier malformed ih =>
    exact List.forall_mem_append.mpr ⟨ih hidentity, List.forall_mem_singleton.mpr malformed⟩
  | granted earlier granted ih => cases hidentity
  | late earlier late ih => cases hidentity

theorem refused {identity : Option Identity} (h : Course identity ds) :
    ∀ d ∈ ds, ∀ e, d.refusal = some e → e.code = .malformedRequest := by
  induction h with
  | nil => exact fun _ hd => absurd hd List.not_mem_nil
  | malformed earlier malformed ih =>
    refine List.forall_mem_append.mpr ⟨ih, List.forall_mem_singleton.mpr fun e he => ?_⟩
    obtain ⟨e', he', hcode⟩ := malformed.refusal
    rw [he'] at he
    rwa [← Option.some.inj he]
  | granted earlier granted ih =>
    refine List.forall_mem_append.mpr ⟨ih, List.forall_mem_singleton.mpr fun e he => ?_⟩
    rw [granted.refusal] at he
    cases he
  | late earlier late ih =>
    refine List.forall_mem_append.mpr ⟨ih, List.forall_mem_singleton.mpr fun e he => ?_⟩
    rw [late.refusal] at he
    rw [← Option.some.inj he]

theorem split (h : Course (some i) ds) : ∃ before d after, ds = before ++ d :: after ∧ d.Granted i ∧
    (∀ x ∈ before, x.Malformed) ∧ ∀ x ∈ after, x.Malformed ∨ x.Late i := by
  generalize hidentity : some i = identity at h
  induction h with
  | nil => cases hidentity
  | malformed earlier malformed ih =>
    obtain ⟨before, d, after, rfl, hgranted, hbefore, hafter⟩ := ih hidentity
    exact ⟨before, d, after ++ [_], by simp, hgranted, hbefore,
      List.forall_mem_append.mpr ⟨hafter, List.forall_mem_singleton.mpr (.inl malformed)⟩⟩
  | granted earlier granted ih =>
    obtain rfl := Option.some.inj hidentity
    exact ⟨_, _, [], rfl, granted, earlier.all_malformed, fun _ hd => absurd hd List.not_mem_nil⟩
  | late earlier late ih =>
    obtain rfl := Option.some.inj hidentity
    obtain ⟨before, d, after, rfl, hgranted, hbefore, hafter⟩ := ih rfl
    exact ⟨before, d, after ++ [_], by simp, hgranted, hbefore,
      List.forall_mem_append.mpr ⟨hafter, List.forall_mem_singleton.mpr (.inr late)⟩⟩

end Course

def Task.undecided {Job : Type} (t : Task Job) : List Message :=
  match t.stage with
  | .fresh none | .adopt => [t.message]
  | _ => []

namespace Node

/-- What the node makes of the request of a task. -/
def decision (n : Node w) (t : Task w.Job) : Decision where
  request := t.message
  refusal :=
    match (n.adopt t).task? t.id with
    | some ⟨_, _, _, .conclude (.error e), _⟩ => some e.toRpcError
    | _ => none

def settles (n : Node w) (t : Task w.Job) : List Decision :=
  match t.stage with
  | .adopt => [n.decision t]
  | _ => []

def decides (n : Node w) : Event w → List Decision
  | .step _ _ id => (n.task? id).toList.flatMap n.settles
  | _ => []

/-- What is decided in a run, in order. -/
def decisions (n : Node w) (events : List (Event w)) : List Decision := n.record decides events

/-- The requests for an identity that an event brings. -/
def asks (n : Node w) : Event w → List Message
  | .line bytes => (n.lineRequests bytes).filter fun m => m.kind = "init"
  | _ => []

/-- The requests for an identity that a run receives. -/
def asked (n : Node w) (events : List (Event w)) : List Message :=
  (n.requests events).filter fun m => m.kind = "init"

private theorem asked_cons (n : Node w) (e : Event w) (events : List (Event w)) :
    n.asked (e :: events) = n.asks e ++ (n.apply e).asked events := by
  cases e with
  | line bytes => exact List.filter_append _ _
  | _ => rfl

section Turn

variable {n : Node w} {t x : Task w.Job}

private theorem undecided_receiving (t x : Task w.Job) :
    (t.receiving x).undecided = x.undecided := by
  simp only [Task.undecided, Task.receiving_stage, Task.receiving_message]

private theorem undecided_of_busy (h : t.stage.Busy) : t.undecided = [] := by
  unfold Task.undecided
  cases hs : t.stage <;> first | rfl | (rw [hs] at h; exact h.elim)

theorem settles_eq_nil (hs : t.stage ≠ .adopt) : n.settles t = [] := by
  unfold settles
  split
  · exact absurd ‹_› hs
  · rfl

private theorem course_adopt (bare : w.handlers.get? "init" = none) (hn : n.Numbered)
    (ht : t ∈ n.tasks)
    {ds : List Decision} (h : Course n.identity ds) :
    Course (n.adopt t).identity (ds ++ [n.decision t]) := by
  have hadopts := adopt_cases bare n t
  rw [decision]
  generalize n.adopt t = n' at hadopts
  cases hadopts with
  | malformed e offer code =>
    rw [hn.task?_goTo ht]
    exact .malformed h ⟨offer, e, rfl, code⟩
  | late i identity offer =>
    rw [hn.task?_goTo ht]
    have hidentity :
        (n.goTo t.id (.conclude (.error (.alreadyInitialized i.id)))).identity = some i := identity
    rw [identity] at h
    rw [hidentity]
    exact .late h ⟨offer, rfl⟩
  | granted i identity offer =>
    rw [hn.task?_goTo ht]
    rw [identity] at h
    exact .granted h ⟨offer, rfl⟩

private theorem undecided_turn (bare : w.handlers.get? "init" = none) (hn : n.Numbered)
    (ht : t ∈ n.tasks) (now : Nat)
    (stamp : Stamp) : t.undecided = (n.settles t).map Decision.request ++
      ((n.stepTask now stamp t).task? t.id).toList.flatMap Task.undecided := by
  by_cases hadopt : t.stage = .adopt
  · have hadopts := adopt_cases bare n t
    have hstep : n.stepTask now stamp t = n.adopt t := by simp only [stepTask, hadopt]
    have hundecided : t.undecided = [t.message] := by simp only [Task.undecided, hadopt]
    have hsettles : n.settles t = [n.decision t] := by simp only [settles, hadopt]
    rw [hstep, hundecided, hsettles, decision]
    generalize n.adopt t = n' at hadopts
    cases hadopts <;> rw [hn.task?_goTo ht] <;> rfl
  · rw [settles_eq_nil hadopt, List.map_nil, List.nil_append]
    cases hx : (n.stepTask now stamp t).task? t.id with
    | none =>
      have hleads := stepTask_leads hn ht now stamp
      rw [hx] at hleads
      generalize hgone : Option.map Task.stage (none : Option (Task w.Job)) = o at hleads
      cases hleads with
      | leaves hs =>
        rcases hs with hs | hs | ⟨e, hs⟩ | ⟨task, id, hs⟩
        · exact undecided_of_busy hs
        all_goals simp only [Task.undecided, hs]; rfl
      | _ => cases hgone
    | some x =>
      obtain ⟨-, hmessage, hleads⟩ := hn.own_turn ht hx
      have hundecided : x.undecided = ({ t with stage := x.stage } : Task w.Job).undecided := by
        simp only [Task.undecided, hmessage]
      rw [Option.toList_some, List.flatMap_singleton, hundecided]
      generalize x.stage = stage at hleads
      cases hleads with
      | stays => rfl
      | begins hs => simp only [Task.undecided, hs]
      | starts job hs => simp only [Task.undecided, hs]
      | refused e hs => exact absurd hs hadopt
      | granted hs handler => exact absurd hs hadopt
      | passedOn handler hs serves => exact absurd hs hadopt
      | calls job dest payload body patience begun next id hs action stamped =>
        simp only [Task.undecided, hs]
      | asks job dest payload body onReply next id hs action stamped =>
        simp only [Task.undecided, hs]
      | confirmed result hs => simp only [Task.undecided, hs]
      | reports e hs => simp only [Task.undecided, hs]
      | _ => exact undecided_of_busy ‹_›

end Turn

/-- What has been decided by now of what the node was asked for, where it was asked for an
identity. -/
structure Settling (n : Node w) (asked : List Message) (ds : List Decision) : Prop where
  candid : n.Candid
  course : Course n.identity ds
  balance : ∃ dropped,
    (ds.map Decision.request ++ n.tasks.flatMap Task.undecided ++ dropped).Perm asked ∧
    ((∀ e, n.verdict ≠ some (.error e)) → dropped = [])
  closed : n.verdict = some (.ok ()) → ∀ t ∈ n.tasks, t.role = .client

section Settling

variable {n n' : Node w} {t x : Task w.Job} {asked : List Message} {ds : List Decision}

theorem undecided_of_client (hin : t.InRole) (hrole : t.role = .client) : t.undecided = [] := by
  unfold Task.InRole at hin
  unfold Task.undecided
  split <;> rename_i hs
  · rw [hs] at hin
    exact absurd (hrole.symm.trans hin) (by decide)
  · rw [hs] at hin
    exact absurd (hrole.symm.trans hin) (by decide)
  · rfl

namespace Settling

theorem start (w : Workload) (rpcTimeout : Duration) :
    (Node.start w rpcTimeout).Settling [] [] where
  candid := .start w rpcTimeout
  course := .nil
  balance := ⟨[], .nil, fun _ => rfl⟩
  closed := fun _ _ ht => absurd ht List.not_mem_nil

private theorem congr (hs : n.Settling asked ds) (hcandid : n'.Candid)
    (hidentity : n'.identity = n.identity := by rfl) (htasks : n'.tasks = n.tasks := by rfl)
    (hverdict : n'.verdict = n.verdict := by rfl) :
    n'.Settling asked ds :=
  ⟨hcandid, hidentity ▸ hs.course, htasks ▸ hverdict ▸ hs.balance, htasks ▸ hverdict ▸ hs.closed⟩

private theorem spawn (hs : n.Settling asked ds) {role : Role} {m : Message} {stage : Stage w.Job}
    (hcandid : (n.spawn role m stage).Candid) (hclosed : n.verdict = some (.ok ()) → role = .client)
    {more : List Message} (hmore : Task.undecided ⟨n.nextTask, role, m, stage, .empty⟩ = more) :
    (n.spawn role m stage).Settling (asked ++ more) ds := by
  obtain ⟨dropped, hbalance, hdropped⟩ := hs.balance
  refine ⟨hcandid, hs.course, ⟨dropped, ?_, hdropped⟩, fun hok x hx => ?_⟩
  · rw [Node.spawn, List.flatMap_append, List.flatMap_singleton, hmore, ← List.append_assoc]
    refine List.Perm.trans ?_ (hbalance.append_right more)
    rw [List.append_assoc _ more dropped, List.append_assoc _ dropped more]
    exact List.Perm.append_left _ List.perm_append_comm
  · rcases mem_spawn.mp hx with hx | rfl
    · exact hs.closed hok x hx
    · exact hclosed hok

private theorem stop (hs : n.Settling asked ds) (e : NodeError) : (n.stop e).Settling asked ds := by
  have hcandid := (hs.candid.stop e).1
  have hnone : (n.stop e).tasks.flatMap Task.undecided = [] :=
    List.flatMap_eq_nil_iff.mpr fun x hx => by
      obtain ⟨y, -, hrole, hxy⟩ := mem_stop hx
      refine undecided_of_client (hcandid.cast.inRole x hx) ?_
      rcases hxy with rfl | rfl <;> exact hrole
  have hidentity : (n.stop e).identity = n.identity := by
    obtain ⟨g, -, hstop⟩ := stop_eq n e
    rw [hstop]
  obtain ⟨dropped, hbalance, -⟩ := hs.balance
  refine ⟨hcandid, hidentity ▸ hs.course, ⟨n.tasks.flatMap Task.undecided ++ dropped, ?_, ?_⟩, ?_⟩
  · rwa [hnone, List.append_nil, ← List.append_assoc]
  · exact fun hgoing => absurd (verdict_stop n e) (hgoing e)
  · intro hok
    rw [verdict_stop] at hok
    cases hok

private theorem routed (hs : n.Settling asked ds) (reading : n.verdict = none) {m : Message}
    (h : Routed n m n') :
    n'.Settling (asked ++ (if m.inReplyTo?.isNone then [m] else []).filter fun m => m.kind = "init")
      ds := by
  have hcandid := (hs.candid.routed h).1
  have hopen : ∀ {role : Role}, n.verdict = some (.ok ()) → role = .client := fun hok => by
    rw [reading] at hok
    cases hok
  cases h with
  | taken id callback reply waits =>
    refine Settling.spawn (hs.congr hs.candid.congr) hcandid hopen ?_
    rw [reply]
    cases callback <;> rfl
  | dropped id reply waits =>
    rw [reply, Option.isNone_some, if_neg (by simp), List.filter_nil, List.append_nil]
    exact hs.congr hs.candid.congr
  | initialise request kind =>
    refine Settling.spawn (hs.congr hs.candid.congr) hcandid hopen ?_
    simp [Task.undecided, request, kind]
  | handled handler request kind serves =>
    refine Settling.spawn (hs.congr hs.candid.congr) hcandid hopen ?_
    simp [Task.undecided, request, kind]

private theorem line (hs : n.Settling asked ds) (bytes : List UInt8) :
    (n.receiveBytes bytes).Settling (asked ++ n.asks (.line bytes)) ds := by
  rw [receiveBytes_eq_take, asks, lineRequests]
  cases hverdict : n.verdict with
  | some result => simpa using hs
  | none =>
    simp only [Option.isSome_none, Bool.false_eq_true, if_false]
    cases hread : Reading.ofBytes bytes with
    | blank => simpa [Node.take] using hs
    | refused e => simpa [Node.take] using hs.stop e
    | message m text =>
      cases hfault : (Reading.message m text).fault? w.handlers.contains with
      | none => exact hs.routed hverdict (take_routed hfault)
      | some e =>
        have hkind : m.kind ≠ "init" := by
          simp only [Reading.fault?, Option.ite_none_right_eq_some] at hfault
          exact hfault.1.2.1
        rw [take_of_fault hfault]
        have hstop := Settling.stop (n := { n with metrics := n.metrics.countReceived })
          (hs.congr hs.candid.congr) e
        by_cases hreply : m.inReplyTo?.isNone <;> simpa [hreply, hkind] using hstop

private theorem stepTask (bare : w.handlers.get? "init" = none) (hw : w.Discreet)
    (hs : n.Settling asked ds)
    (ht : t ∈ n.tasks) (now : Nat) (stamp : Stamp) :
    (n.stepTask now stamp t).Settling asked (ds ++ n.settles t) := by
  have hn := hs.candid.cast.numbered
  have hcourse := SameCourse.stepTask n now stamp t
  refine ⟨hs.candid.stepTask bare hw ht now stamp, ?_, ?_, fun hok x hx => ?_⟩
  · by_cases hadopt : t.stage = .adopt
    · simp only [Node.stepTask, settles, hadopt]
      exact course_adopt bare hn ht hs.course
    · rw [(stepTask_speaks hw (hs.candid.discreet t ht) hadopt n now stamp).identity,
        settles_eq_nil hadopt,
        List.append_nil]
      exact hs.course
  · obtain ⟨dropped, hbalance, hdropped⟩ := hs.balance
    obtain ⟨others, hbefore, hafter⟩ := hn.flatMap_turn ht (undecided_receiving t) now stamp
    refine ⟨dropped, List.Perm.trans (List.Perm.append_right dropped ?_) hbalance,
      hcourse.verdict ▸ hdropped⟩
    rw [List.map_append, List.append_assoc]
    refine List.Perm.append_left _ ?_
    rw [undecided_turn bare hn ht now stamp] at hbefore
    refine ((hafter.append_left _).trans ?_).trans hbefore.symm
    rw [← List.append_assoc, ← List.append_assoc]
    exact List.Perm.append_right _ List.perm_append_comm
  · rw [hcourse.verdict] at hok
    rcases hn.mem_turn ht hx with ⟨y, hy, rfl⟩ | hx
    · rw [Task.receiving_role]
      exact hs.closed hok y hy
    · rw [(hn.role_turn ht hx).1]
      exact hs.closed hok t ht

private theorem apply (bare : w.handlers.get? "init" = none) (hw : w.Discreet)
    (hs : n.Settling asked ds)
    (e : Event w) : (n.apply e).Settling (asked ++ n.asks e) (ds ++ n.decides e) := by
  have hcandid := (hs.candid.apply bare hw e).1
  cases e with
  | line bytes =>
    simp only [decides, List.append_nil]
    exact hs.line bytes
  | step now stamp id =>
    simp only [asks, List.append_nil, decides, Node.apply, Node.step]
    cases ht : n.task? id with
    | none => simpa using hs
    | some t => simpa using hs.stepTask bare hw (mem_of_task? ht).1 now stamp
  | settle =>
    simp only [asks, decides, List.append_nil]
    simp only [Node.apply, settle] at hcandid ⊢
    split at hcandid
    · rename_i hover
      obtain ⟨hreading, hown⟩ := hover
      rw [if_pos ⟨hreading, hown⟩]
      obtain ⟨dropped, hbalance, hdropped⟩ := hs.balance
      refine ⟨hcandid, hs.course, ⟨dropped, hbalance, fun _ => hdropped ?_⟩, fun _ x hx => ?_⟩
      · simp [Option.isNone_iff_eq_none.mp hreading]
      · by_contra hrole
        have hmem : x ∈ n.ownTasks := List.mem_filter.mpr ⟨hx, by simpa using hrole⟩
        rw [List.isEmpty_iff.mp hown] at hmem
        cases hmem
    · rename_i hover
      rw [if_neg hover]
      exact hs
  | cancel =>
    simp only [asks, decides, List.append_nil]
    exact hs.congr hcandid
  | setMode mode =>
    simp only [asks, decides, List.append_nil]
    exact hs.congr hcandid
  | client job =>
    simp only [decides, List.append_nil]
    exact hs.spawn hcandid (fun _ => rfl) rfl

theorem run (bare : w.handlers.get? "init" = none) (hw : w.Discreet) (hs : n.Settling asked ds)
    (events : List (Event w)) :
    (n.run events).Settling (asked ++ n.asked events) (ds ++ n.decisions events) := by
  induction events generalizing n asked ds with
  | nil => simpa [Node.asked, Node.requests, decisions, record] using hs
  | cons e events ih =>
    rw [run_cons, asked_cons, decisions, record, ← decisions, ← List.append_assoc,
      ← List.append_assoc]
    exact ih (hs.apply bare hw e)

end Settling

end Settling

end Node

end ClusterNode
