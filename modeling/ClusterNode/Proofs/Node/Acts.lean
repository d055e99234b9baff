import ClusterNode.Proofs.Node.Output
import ClusterNode.Proofs.Node.Turn
import ClusterNode.Proofs.Node.Verdict
import Mathlib.Data.List.Induction

/-!
What a task does, step by step, while anything else goes on around it: the lines that it writes, and
what it counts of errors. What its own steps keep in view of that holds of a handler in every run.
-/

set_option autoImplicit false

namespace ClusterNode

variable {w : Workload}

/-- What a step of a task does: the lines that it writes, and by how much it raises the counts of
reported errors and of crashes. -/
structure Act where
  lines : List Message
  errorReplies : UInt64
  crashes : UInt64

def Act.nothing : Act := ⟨[], 0, 0⟩

namespace Node

def Event.isStepOf (i : Nat) : Event w → Bool
  | .step _ _ id => id = i
  | _ => false

def stepsOf (i : Nat) (events : List (Event w)) : Nat := events.countP (Event.isStepOf i)

def actTo (n n' : Node w) : Act where
  lines := n'.written.drop n.written.length
  errorReplies := n'.metrics.errorReplies - n.metrics.errorReplies
  crashes := n'.metrics.crashes - n.metrics.crashes

/-- The node before and after an event that is a step of the task with a number. -/
def turnsAt (i : Nat) (n : Node w) (e : Event w) : List (Node w × Node w) :=
  if e.isStepOf i ∧ (n.task? i).isSome then [(n, n.apply e)] else []

/-- The node before and after each step that the task with a number takes in a run. -/
def turns (i : Nat) (n : Node w) (events : List (Event w)) : List (Node w × Node w) :=
    n.record (turnsAt i) events

def acts (i : Nat) (n : Node w) (events : List (Event w)) : List Act :=
  (n.turns i events).map fun turn => turn.1.actTo turn.2

section Acts

variable {n n' : Node w} {i : Nat} {t : Task w.Job} {events : List (Event w)}

theorem actTo_eq {lines : List Message} {errorReplies crashes : UInt64}
    (written : n'.written = n.written ++ lines := by simp)
    (reported : n'.metrics.errorReplies = n.metrics.errorReplies + errorReplies := by simp)
    (crashed : n'.metrics.crashes = n.metrics.crashes + crashes := by simp) :
    n.actTo n' = ⟨lines, errorReplies, crashes⟩ := by
  simp only [actTo, written, reported, crashed, List.drop_left, UInt64.add_comm,
    UInt64.add_sub_cancel]

theorem actTo_eq_nothing (written : n'.written = n.written := by rfl)
    (reported : n'.metrics.errorReplies = n.metrics.errorReplies := by rfl)
    (crashed : n'.metrics.crashes = n.metrics.crashes := by rfl) : n.actTo n' = .nothing :=
  actTo_eq (by simp [written]) (by simp [reported]) (by simp [crashed])

theorem record_append {α : Type} {brings : Node w → Event w → List α} (n : Node w)
    (first second : List (Event w)) :
    n.record brings (first ++ second) = n.record brings first ++
      (n.run first).record brings second := by
  induction first generalizing n with
  | nil => rfl
  | cons e first ih => rw [List.cons_append, record, record, ih, List.append_assoc, run_cons]

private theorem record_eq_nil {α : Type} {brings : Node w → Event w → List α}
    (nothing : ∀ before e after, events = before ++ e :: after → brings (n.run before) e = []) :
    n.record brings events = [] := by
  induction events generalizing n with
  | nil => rfl
  | cons e events ih =>
    have hfirst : brings n e = [] := nothing [] e events rfl
    have hrest := ih fun before e' after h =>
      nothing (e :: before) e' after (by rw [h, List.cons_append])
    rw [record, hfirst, hrest, List.append_nil]

private theorem turnsAt_of_absent {e : Event w} (absent : n.task? i = none) :
    n.turnsAt i e = [] := by
  simp [turnsAt, absent]

theorem turnsAt_of_still {e : Event w} (still : e.isStepOf i = false) : n.turnsAt i e = [] := by
  simp [turnsAt, still]

theorem turns_of_idle (idle : stepsOf i events = 0) : n.turns i events = [] := by
  refine record_eq_nil fun before e after hevents => turnsAt_of_still ?_
  have hstill := List.countP_eq_zero.mp idle e (by simp [hevents])
  simpa using hstill

theorem exists_step_of_isStepOf {e : Event w} (h : e.isStepOf i = true) :
    ∃ now stamp, e = .step now stamp i := by
  cases e with
  | step now stamp id =>
    obtain rfl : id = i := by simpa [Event.isStepOf] using h
    exact ⟨now, stamp, rfl⟩
  | _ => cases h

/-- A task that is not there does nothing, and does not come back. -/
theorem turns_of_gone (hn : n.Numbered) (hi : i < n.nextTask) (gone : n.task? i = none) :
    n.turns i events = [] := by
  refine record_eq_nil fun before e after _ => turnsAt_of_absent ?_
  have hkeep : ∀ e ∈ before, ∀ m : Node w, m.Numbered ∧ i < m.nextTask ∧ m.task? i = none →
      (m.apply e).Numbered ∧ i < (m.apply e).nextTask ∧ (m.apply e).task? i = none := by
    rintro e - m ⟨hm, hlt, hgone⟩
    refine ⟨hm.apply e, Nat.lt_of_lt_of_le hlt (nextTask_le_apply m e), ?_⟩
    rw [task?_eq_none_iff] at hgone ⊢
    intro x hx hid
    obtain ⟨y, hy, hyid⟩ := exists_of_mem_apply hm hx (hid ▸ hlt)
    exact hgone y hy (hyid.trans hid)
  exact (run_induction ⟨hn, hi, gone⟩ hkeep).2.2

private theorem turns_of_nextTask_le (hn : n.Numbered) (hi : (n.run events).nextTask ≤ i) :
    n.turns i events = [] := by
  refine record_eq_nil fun before e after hevents => turnsAt_of_absent (task?_eq_none_iff.mpr ?_)
  intro x hx hid
  have hlt := (hn.run before).below x hx
  have hle := nextTask_le_run (n.run before) (e :: after)
  rw [← run_append, ← hevents] at hle
  omega

theorem turnsAt_step (hn : n.Numbered) (ht : t ∈ n.tasks) (now : Nat) (stamp : Stamp) :
    n.turnsAt t.id (.step now stamp t.id) = [(n, n.stepTask now stamp t)] ∧
      n.apply (.step now stamp t.id) = n.stepTask now stamp t := by
  have htask := hn.task? ht
  have hstep : n.apply (.step now stamp t.id) =
    n.stepTask now stamp t := by simp only [apply, step, htask]
  refine ⟨?_, hstep⟩
  rw [turnsAt, hstep, if_pos]
  exact ⟨by simp [Event.isStepOf], by simp [htask]⟩

theorem turns_cons_step (hn : n.Numbered) (ht : t ∈ n.tasks) (now : Nat) (stamp : Stamp)
    (events : List (Event w)) : n.turns t.id (.step now stamp t.id :: events) =
      (n, n.stepTask now stamp t) :: (n.stepTask now stamp t).turns t.id events := by
  obtain ⟨hat, happly⟩ := turnsAt_step hn ht now stamp
  rw [turns, record, hat, happly]
  rfl

private theorem writeRequest_act (n : Node w) (dest : String) (id : UInt64) (body : Json) :
    ∃ lines, n.actTo (n.writeRequest dest id body).2 = ⟨lines, 0, 0⟩ ∧
      ((n.writeRequest dest id body).1 = .ok () ∧ lines = [⟨n.name, dest, body⟩] ∨
        (n.writeRequest dest id body).1 = .error (.io "output closed") ∧
          (lines = [] ∨ lines = [⟨n.name, dest, body⟩])) := by
  rw [writeRequest, write_eq]
  cases hsucceeds : (n.mode.outcome dest).2 with
  | true =>
    rw [WriteMode.appears_of_succeeds hsucceeds]
    exact ⟨_, actTo_eq rfl (by simp [endRequest, Metrics.countSent, Metrics.countRpcSent])
      (by simp [endRequest, Metrics.countSent, Metrics.countRpcSent]), .inl ⟨rfl, rfl⟩⟩
  | false =>
    refine ⟨_, actTo_eq rfl (by simp [endRequest, Metrics.countSendFailure])
      (by simp [endRequest, Metrics.countSendFailure]), .inr ⟨rfl, ?_⟩⟩
    split
    · exact .inr rfl
    · exact .inl rfl

theorem writeCall_act (n : Node w) (now : Nat) (dest : String) (id : UInt64) (body : Json)
    (limit : Option (Nat × Duration)) :
    ∃ lines, n.actTo (n.writeCall now dest id body limit).2 = ⟨lines, 0, 0⟩ ∧
      ((∃ flushed, (n.writeCall now dest id body limit).1 = .ok flushed) ∧
        lines = [⟨n.name, dest, body⟩] ∨
        (∃ e, (n.writeCall now dest id body limit).1 = .error e ∧
          (e = .io "output closed" ∨ ∃ dest after, e = .timeout dest after)) ∧
            (lines = [] ∨ lines = [⟨n.name, dest, body⟩])) := by
  obtain ⟨lines, hact, hwritten⟩ := n.writeRequest_act dest id body
  have hplaced := n.writeCall_placed now dest id body limit
  generalize n.writeCall now dest id body limit = placed at hplaced ⊢
  cases hplaced with
  | brokenOff deadline after =>
    exact ⟨[], actTo_eq_nothing, .inr ⟨⟨_, rfl, .inr ⟨dest, after, rfl⟩⟩, .inl rfl⟩⟩
  | unflushed =>
    exact ⟨_, actTo_eq rfl (by simp [emit]) (by simp [emit]), .inl ⟨⟨false, rfl⟩, rfl⟩⟩
  | written h =>
    rw [h] at hact hwritten
    rcases hwritten with ⟨-, hlines⟩ | ⟨hfailed, -⟩
    · exact ⟨lines, hact, .inl ⟨⟨true, rfl⟩, hlines⟩⟩
    · cases hfailed
  | failed e h =>
    rw [h] at hact hwritten
    rcases hwritten with ⟨hok, -⟩ | ⟨hfailed, hlines⟩
    · cases hok
    · exact ⟨lines, hact, .inr ⟨⟨e, rfl, .inl (Except.error.inj hfailed)⟩, hlines⟩⟩

theorem flushCall?_act {now : Nat} {wait : Wait w.Job} {result : Except NodeError Unit}
    (h : n.flushCall? now wait = some (result, n')) : n.actTo n' = .nothing ∧ n'.tasks = n.tasks ∧
      ∀ e, result = .error e → e = .io "output closed" ∨ ∃ dest after, e = .timeout dest after := by
  have hflushed := n.flushCall?_flushed now wait
  rw [h] at hflushed
  cases hflushed with
  | brokenOff deadline after =>
    exact ⟨actTo_eq_nothing, rfl, fun e he => .inr ⟨_, after, (Except.error.inj he).symm⟩⟩
  | ended => exact ⟨actTo_eq_nothing, rfl, fun e he => by cases he⟩
  | failed => exact ⟨actTo_eq_nothing, rfl, fun e he => .inl (Except.error.inj he).symm⟩

end Acts

section Handlers

variable {n : Node w} {t x : Task w.Job} {e : Event w}

private theorem fresh_of_mem_apply (hn : n.Numbered) (hx : x ∈ (n.apply e).tasks)
    (hnew : n.nextTask ≤ x.id)
    (role : x.role = .handle) :
    ∃ handler, w.handlers.get? x.message.kind = some handler ∧
      x.stage = .fresh (some (handler x.message)) := by
  have hold : x ∉ n.tasks := fun hx => absurd (hn.below x hx) (Nat.not_lt.mpr hnew)
  have hstop : ∀ {m : Node w} {error : NodeError}, m.tasks = n.tasks →
      x ∉ (m.stop error).tasks := by
    intro m error htasks hx
    obtain ⟨y, hy, hclient, rfl | rfl⟩ := mem_stop hx
    · exact hold (htasks ▸ hy)
    · rw [hclient] at role
      cases role
  have hspawn : ∀ {m : Node w} {other : Role} {request : Message} {stage : Stage w.Job},
      m.tasks = n.tasks →
      other ≠ .handle → x ∉ (m.spawn other request stage).tasks := by
    intro m other request stage htasks hother hx
    rcases mem_spawn.mp hx with hx | rfl
    · exact hold (htasks ▸ hx)
    · exact hother role
  cases e with
  | line bytes =>
    simp only [Node.apply, receiveBytes_eq_take] at hx
    split at hx
    · exact absurd hx hold
    · cases hr : Reading.ofBytes bytes with
      | blank =>
        rw [hr] at hx
        exact absurd hx hold
      | refused error =>
        rw [hr] at hx
        exact absurd hx (hstop rfl)
      | message m text =>
        rw [hr] at hx
        cases hfault : (Reading.message m text).fault? w.handlers.contains with
        | some error =>
          rw [take_of_fault hfault] at hx
          exact absurd hx (hstop rfl)
        | none =>
          have hrouted := take_routed (n := n) hfault
          generalize n.take (.message m text) = n' at hrouted hx
          cases hrouted with
          | dropped => exact absurd hx hold
          | taken id callback reply waits => exact absurd hx (hspawn rfl (by simp))
          | initialise request kind => exact absurd hx (hspawn rfl (by simp))
          | handled handler request kind serves =>
            rcases mem_spawn.mp hx with hx | rfl
            · exact absurd hx hold
            · exact ⟨handler, serves, rfl⟩
  | step now stamp id =>
    simp only [Node.apply, Node.step] at hx
    cases ht : n.task? id with
    | none =>
      rw [ht] at hx
      exact absurd hx hold
    | some t =>
      rw [ht] at hx
      have hbelow := (hn.stepTask now stamp (mem_of_task? ht).1).below x hx
      rw [(SameCourse.stepTask n now stamp t).nextTask] at hbelow
      omega
  | settle =>
    simp only [Node.apply, Node.settle] at hx
    split at hx <;> exact absurd hx hold
  | client job => exact absurd hx (hspawn rfl (by simp))
  | _ => exact absurd hx hold

/-- What holds of a handler when it is new, in view of what it has done, and what its own steps
keep, holds of every handler in a run, whatever else goes on. -/
theorem handler_induction {P : List Act → Stage w.Job → Prop} {rpcTimeout : Duration}
    (begins : ∀ (m : Message) handler, w.handlers.get? m.kind = some handler →
      P [] (.fresh (some (handler m))))
    (keeps : ∀ (n : Node w) (t x : Task w.Job) acts now stamp, n.Numbered → t ∈ n.tasks →
      t.role = .handle →
      P acts t.stage → (n.stepTask now stamp t).task? t.id = some x →
      P (acts ++ [n.actTo (n.stepTask now stamp t)]) x.stage)
    (events : List (Event w)) :
    ∀ t ∈ ((Node.start w rpcTimeout).run events).tasks, t.role = .handle →
      P ((Node.start w rpcTimeout).acts t.id events) t.stage := by
  -- What a handler has done grows at its end, so a run is taken apart at its last event.
  induction events using List.reverseRecOn with
  | nil => exact fun t ht => absurd ht List.not_mem_nil
  | append_singleton events e ih =>
    intro x hx role
    have hn : ((Node.start w rpcTimeout).run events).Numbered :=
      Numbered.run (.start w rpcTimeout) events
    have hacts : (Node.start w rpcTimeout).acts x.id (events ++ [e]) =
        (Node.start w rpcTimeout).acts x.id events ++
          (((Node.start w rpcTimeout).run events).turnsAt x.id e).map fun turn =>
              turn.1.actTo turn.2 := by
      rw [acts, turns, record_append, record, record, List.append_nil, List.map_append]
      rfl
    rw [run_append, run_cons, run_nil] at hx
    rw [hacts]
    by_cases hmoves : ∃ now stamp, e = .step now stamp x.id
    · obtain ⟨now, stamp, rfl⟩ := hmoves
      cases ht : ((Node.start w rpcTimeout).run events).task? x.id with
      | none =>
        rw [Node.apply, Node.step, ht] at hx
        exact absurd (hn.task? hx) (by simp [ht])
      | some t =>
        obtain ⟨hmem, hid⟩ := mem_of_task? ht
        rw [← hid] at hx ⊢
        obtain ⟨hat, happly⟩ := turnsAt_step hn hmem now stamp
        rw [happly] at hx
        have hown := (hn.stepTask now stamp hmem).task? hx
        rw [← hid] at hown
        obtain ⟨hrole, -⟩ := hn.role_turn hmem hown
        rw [hat]
        exact keeps _ t x _ now stamp hn hmem (hrole ▸ role) (ih t hmem (hrole ▸ role)) hown
    · have still : e.isStepOf x.id = false := by
        rw [← Bool.not_eq_true]
        exact fun h => hmoves (exists_step_of_isStepOf h)
      rw [turnsAt_of_still still, List.map_nil, List.append_nil]
      by_cases hlt : x.id < ((Node.start w rpcTimeout).run events).nextTask
      · obtain ⟨y, hy, hid, hrole, hstage⟩ := stage_of_mem_apply hn hx hlt
          fun now stamp he => hmoves ⟨now, stamp, he⟩
        rw [← hid, ← hstage]
        exact ih y hy (hrole.trans role)
      · have hnew := Nat.le_of_not_lt hlt
        obtain ⟨handler, hserves, hstage⟩ := fresh_of_mem_apply hn hx hnew role
        rw [acts, turns_of_nextTask_le (.start w rpcTimeout) hnew, hstage]
        exact begins _ handler hserves

end Handlers

end Node

end ClusterNode
