import ClusterNode.Proofs.Gossip.Handling
import Mathlib.Data.List.Induction

/-!
Nodes that take their requests in turn: each request is handled to its end before the next one
comes, and what is written for it depends on the requests before it only.
-/

set_option autoImplicit false

namespace ClusterNode

section EraseDups

variable {α : Type} [BEq α] [EquivBEq α]

private theorem eraseDups_concat (xs : List α) (v : α) : (xs ++ [v]).eraseDups =
    if xs.any (· == v) then xs.eraseDups else xs.eraseDups ++ [v] := by
  match xs with
  | [] => rfl
  | a :: xs =>
    -- What equals the first value is left out of the rest, so the recursion is on the length.
    have hrest := eraseDups_concat (xs.filter fun b => !b == a) v
    rw [List.cons_append, List.eraseDups_cons, List.eraseDups_cons, List.filter_append,
      List.any_cons]
    by_cases hav : (a == v) = true
    · have hva : (v == a) = true := BEq.symm hav
      simp [hav, hva]
    · have hva : (v == a) = false := Bool.eq_false_iff.mpr fun h => hav (BEq.symm h)
      have hkeep : [v].filter (fun b => !b == a) = [v] := by simp [hva]
      have hany : (xs.filter fun b => !b == a).any (· == v) = xs.any (· == v) := by
        rw [List.any_filter]
        refine congrArg (List.any xs) (funext fun b => ?_)
        cases hbv : b == v with
        | false => simp
        | true =>
          have hba : (b == a) = false :=
            Bool.eq_false_iff.mpr fun h => hav (BEq.trans (BEq.symm h) hbv)
          simp [hba]
      rw [hkeep, hrest, hany]
      by_cases hin : xs.any (· == v) = true <;> simp [hav, hin]
termination_by xs.length
decreasing_by exact Nat.lt_succ_of_le (List.length_filter_le _ _)

private theorem any_eraseDups (xs : List α) (v : α) :
    xs.eraseDups.any (· == v) = xs.any (· == v) := by
  induction xs using List.reverseRecOn with
  | nil => rfl
  | append_singleton xs x ih =>
    rw [eraseDups_concat, List.any_append]
    by_cases hx : xs.any (· == x) = true
    · rw [if_pos hx, ih]
      by_cases hxv : (x == v) = true
      · obtain ⟨u, hu, hux⟩ := List.any_eq_true.mp hx
        have hany : xs.any (· == v) = true := List.any_eq_true.mpr ⟨u, hu, BEq.trans hux hxv⟩
        simp [hany]
      · simp [hxv]
    · rw [if_neg hx, List.any_append, ih]

end EraseDups

namespace Node

variable {w : Workload}

def Event.IsStep : Event w → Prop
  | .step _ _ _ => True
  | _ => False

/-- A node takes lines in turn: after each, its tasks take steps until none is left. What is written
until then belongs to the line. -/
inductive InTurn : Node w → List (List UInt8) → List (List Message) → Node w → Prop
  | done (n : Node w) : InTurn n [] [] n
  | line {n n' : Node w} {line : List UInt8} {lines : List (List UInt8)} {out : List Message}
      {outs : List (List Message)} {steps : List (Event w)} (own : ∀ e ∈ steps, e.IsStep)
      (rest : ((n.receiveBytes line).run steps).tasks = [])
      (written : ((n.receiveBytes line).run steps).written = n.written ++ out)
      (more : InTurn ((n.receiveBytes line).run steps) lines outs n') :
      InTurn n (line :: lines) (out :: outs) n'

end Node

namespace Workload.Broadcast

/-- The values that were asked for, each as it was first spelled. -/
def accepted (history : List Message) : List BroadcastValue :=
  (history.filterMap Message.carried?).eraseDups

def assigned? (name : String) (m : Message) : Option (List String) :=
  match (m.payload : Except RpcError Payload.Broadcast) with
  | .ok (.topology table) => neighborsFor table name
  | _ => none

/-- The neighbors that a node was given last. -/
def neighborsAfter (name : String) (history : List Message) : List String :=
  ((history.filterMap (assigned? name)).getLast?).getD []

def passed (name dest : String) (v : BroadcastValue) : Message :=
  ⟨name, dest, .object [("message", v.toJson), ("type", .string "broadcast")]⟩

/-- What a node writes for a request that came after others. -/
def output (name : String) (history : List Message) (m : Message) : List Message :=
  match (m.payload : Except RpcError Payload.Broadcast) with
  | .error e => answered name m e
  | .ok (.broadcast v) => answered name m Payload.Broadcast.broadcastOk ++
      if history.any (·.carries v) then []
      else (neighborsAfter name history).map fun d => passed name d v
  | .ok .read => answered name m (Payload.Broadcast.readOk (accepted history))
  | .ok (.topology _) =>
    match assigned? name m with
    | none => answered name m (⟨.malformedRequest, "topology has no entry for " ++ name⟩ : RpcError)
    | some _ => answered name m Payload.Broadcast.topologyOk
  | .ok _ => answered name m (⟨.notSupported, m.kind ++ " is not a request"⟩ : RpcError)

/-- What a node writes for requests that come one after the other. -/
def outputs (name : String) (history : List Message) : List Message → List (List Message)
  | [] => []
  | m :: requests => output name history m :: outputs name (history ++ [m]) requests

/-- The state of a node agrees with the requests that it has had. -/
structure Reflects (name : String) (history : List Message) (g : Values) : Prop where
  log : g.log = accepted history
  neighbors : g.neighbors = neighborsAfter name history
  consistent : g.Consistent

section Reflects

variable {name : String} {history : List Message} {g : Values} {m : Message} {v : BroadcastValue}

theorem forward_eq_passed (name dest : String) (v : BroadcastValue) :
    forward name dest v = passed name dest v := by
  have hlt : "message" < "type" := by decide
  have hfields : Dictionary.ofList (Payload.fields (Payload.Broadcast.broadcast v)) =
      [("message", v.toJson), ("type", .string "broadcast")] := by
    show Dictionary.ofList (Payload.Broadcast.broadcast v).fields = _
    simp [Dictionary.ofList, Dictionary.insert, Payload.Broadcast.fields, hlt]
  rw [forward, Payload.Plain.message, hfields]
  rfl

private theorem any_carried (history : List Message) (v : BroadcastValue) :
    (history.filterMap Message.carried?).any (· == v) = history.any (·.carries v) := by
  rw [List.any_filterMap]
  refine congrArg (List.any history) (funext fun m => ?_)
  rw [Message.carries]
  cases m.carried? <;> rfl

private theorem Reflects.holds (h : Reflects name history g) (v : BroadcastValue) :
    g.Holds v ↔ history.any (·.carries v) = true := by
  rw [← any_carried, ← any_eraseDups, ← accepted, ← h.log, List.any_eq_true]
  rfl

theorem Reflects.start (name : String) : Reflects name [] Gossip.empty where
  log := rfl
  neighbors := rfl
  consistent := fun v => by simp [Gossip.contains, Gossip.Holds, Gossip.empty]

private theorem Reflects.keep (h : Reflects name history g) (carried : m.carried? = none)
    (assigned : assigned? name m = none) : Reflects name (history ++ [m]) g where
  log := by rw [h.log, accepted, accepted, List.filterMap_append]; simp [carried]
  neighbors := by
    rw [h.neighbors, neighborsAfter, neighborsAfter, List.filterMap_append]
    simp [assigned]
  consistent := h.consistent

private theorem Reflects.assign (h : Reflects name history g) {neighbors : List String}
    (carried : m.carried? = none) (assigned : assigned? name m = some neighbors) :
    Reflects name (history ++ [m]) (g.setNeighbors neighbors) where
  log := by
    show g.log = _
    rw [h.log, accepted, accepted, List.filterMap_append]
    simp [carried]
  neighbors := by
    rw [neighborsAfter, List.filterMap_append]
    simp [assigned, Gossip.setNeighbors]
  consistent := h.consistent

private theorem Reflects.accept (h : Reflects name history g) (carried : m.carried? = some v)
    (assigned : assigned? name m = none) : Reflects name (history ++ [m]) (g.accept v).2 := by
  have hneighbors : neighborsAfter name (history ++ [m]) = neighborsAfter name history := by
    simp [neighborsAfter, List.filterMap_append, assigned]
  have haccepted : accepted (history ++ [m]) =
      if history.any (·.carries v) then accepted history else accepted history ++ [v] := by
    rw [accepted, List.filterMap_append, ← any_carried]
    simp only [List.filterMap_cons, carried, List.filterMap_nil]
    exact eraseDups_concat _ v
  refine ⟨?_, (Gossip.neighbors_accept g v).trans (h.neighbors.trans hneighbors.symm),
    h.consistent.accept v⟩
  rw [haccepted]
  by_cases hv : g.Holds v
  · rw [Gossip.accept_of_holds h.consistent hv, if_pos ((h.holds v).mp hv), h.log]
  · rw [Gossip.accept_of_not_holds h.consistent hv, if_neg fun hany =>
      hv ((h.holds v).mpr hany), ← h.log]

private theorem Reflects.handled (h : Reflects name history g) (m : Message) :
    (handled name g m).1 = output name history m ∧
      Reflects name (history ++ [m]) (handled name g m).2 := by
  unfold Broadcast.handled output
  cases hpayload : (m.payload : Except RpcError Payload.Broadcast) with
  | error e =>
    have hcarried : m.carried? = none := by simp only [Message.carried?, hpayload]
    have hassigned : assigned? name m = none := by simp only [assigned?, hpayload]
    exact ⟨rfl, h.keep hcarried hassigned⟩
  | ok p =>
    have hcarried : (∀ v, p ≠ .broadcast v) → m.carried? = none := by
      intro hp
      simp only [Message.carried?, hpayload]
      cases p with
      | broadcast v => exact absurd rfl (hp v)
      | _ => rfl
    have hassigned : (∀ table, p ≠ .topology table) → assigned? name m = none := by
      intro hp
      simp only [assigned?, hpayload]
      cases p with
      | topology table => exact absurd rfl (hp table)
      | _ => rfl
    cases p with
    | broadcast v =>
      have hcarried : m.carried? = some v := by simp only [Message.carried?, hpayload]
      refine ⟨?_, h.accept hcarried (hassigned (by simp))⟩
      by_cases hv : g.Holds v
      · simp only [Gossip.accept_of_holds h.consistent hv, (h.holds v).mp hv, if_true]
        rfl
      · simp only [Gossip.accept_of_not_holds h.consistent hv]
        rw [if_neg fun hany => hv ((h.holds v).mpr hany), ← h.neighbors]
        simp only [sent, forward_eq_passed]
    | topology table =>
      have hassigned : assigned? name m =
        neighborsFor table name := by simp only [assigned?, hpayload]
      dsimp only
      rw [hassigned]
      cases hneighbors : neighborsFor table name with
      | none => exact ⟨rfl, h.keep (hcarried (by simp)) (hassigned.trans hneighbors)⟩
      | some neighbors => exact ⟨rfl, h.assign (hcarried (by simp)) (hassigned.trans hneighbors)⟩
    | read =>
      exact ⟨by rw [Gossip.snapshot, h.log], h.keep (hcarried (by simp)) (hassigned (by simp))⟩
    | _ => exact ⟨rfl, h.keep (hcarried (by simp)) (hassigned (by simp))⟩

end Reflects

/-- A line that brings a request of one of the kinds that are served. -/
structure Asks (line : List UInt8) (m : Message) : Prop where
  read : ∃ text, Reading.ofBytes line = .message m text
  request : m.inReplyTo? = none
  kind : m.kind ∈ kinds

section Run

variable {n n' : Node broadcast} {name : String} {m : Message} {start out : List Message}
  {final : Values}
  {bound : Nat} {history requests : List Message} {lines : List (List UInt8)}
    {outs : List (List Message)}

private theorem Turn.run (h : Turn name m start out final n bound)
    {steps : List (Node.Event broadcast)}
    (own : ∀ e ∈ steps, e.IsStep) : Turn name m start out final (n.run steps) bound := by
  refine Node.run_induction (P := (Turn name m start out final · bound)) h fun e he n' h' => ?_
  have hstep : e.IsStep := own e he
  cases e with
  | step now stamp id => exact h'.step now stamp id
  | _ => exact hstep.elim

private theorem Turn.done (h : Turn name m start out final n bound) (rest : n.tasks = []) :
    Placed n name ∧ n.written = start ++ out ∧ n.shared = final := by
  rcases h.state with ⟨-, hwritten, hshared⟩ | ⟨t, written, left, fewer, ht, -⟩
  · exact ⟨h.placed, hwritten, hshared⟩
  · rw [rest] at ht
    cases ht

theorem outs_eq (h : n.InTurn lines outs n') (hn : Placed n name) (rest : n.tasks = [])
    (reflects : Reflects name history n.shared) (asks : List.Forall₂ Asks lines requests) :
    outs = outputs name history requests := by
  induction h generalizing history requests with
  | done n =>
    cases asks
    rfl
  | @line n n' line lines out outs steps own hrest hwritten more ih =>
    cases asks with
    | @cons _ m _ requests hasks asks =>
      obtain ⟨⟨text, hread⟩, hrequest, hkind⟩ := hasks
      obtain ⟨hout, hreflects⟩ := reflects.handled m
      obtain ⟨hplaced, hwritten', hshared⟩ :=
        ((turn_of_receive hn rest hread hrequest hkind).1.run own).done hrest
      have houts := ih hplaced hrest (hshared ▸ hreflects) asks
      rw [hwritten, hout] at hwritten'
      rw [outputs, houts, List.append_cancel_left hwritten']

/-- What a node that was at rest has come to when it has handled a request. -/
structure Served (n : Node broadcast) (name : String) (m : Message) (n' : Node broadcast) :
    Prop where
  placed : Placed n' name
  tasks : n'.tasks = []
  written : n'.written = n.written ++ (handled name n.shared m).1
  shared : n'.shared = (handled name n.shared m).2
  nextTask : n'.nextTask = n.nextTask + 1

/-- The steps that a node takes for its next task, as many as a request needs. -/
def nextSteps (n : Node broadcast) (now : Nat) (stamp : Stamp) : List (Node.Event broadcast) :=
  List.replicate (n.shared.neighbors.length + 7) (.step now stamp n.nextTask)

private theorem isStep_nextSteps (n : Node broadcast) (now : Nat) (stamp : Stamp) :
    ∀ e ∈ nextSteps n now stamp, e.IsStep := by
  intro e he
  obtain rfl := List.eq_of_mem_replicate he
  trivial

theorem served_of_receive (hn : Placed n name) (rest : n.tasks = []) {line : List UInt8}
    {text : String} (hread : Reading.ofBytes line = .message m text) (hreply : m.inReplyTo? = none)
    (hkind : m.kind ∈ kinds)
    (now : Nat) (stamp : Stamp) :
    Served n name m ((n.receiveBytes line).run (nextSteps n now stamp)) := by
  obtain ⟨hturn, honly⟩ := turn_of_receive hn rest hread hreply hkind
  have hrest := hturn.ends honly now stamp
  obtain ⟨hplaced, hwritten, hshared⟩ := (hturn.run (isStep_nextSteps n now stamp)).done hrest
  have hnext : ((n.receiveBytes line).run (nextSteps n now stamp)).nextTask = n.nextTask + 1 := by
    refine Node.run_induction (P := fun n' => n'.nextTask = n.nextTask + 1) ?_ fun e he n' h' => ?_
    · rw [receiveBytes_of_kind hn.reading hread hreply hkind]
      rfl
    · obtain rfl := List.eq_of_mem_replicate he
      rw [Node.apply, Node.step]
      cases n'.task? n.nextTask with
      | none => exact h'
      | some t => exact (Node.SameCourse.stepTask n' now stamp t).nextTask.trans h'
  exact ⟨hplaced, hrest, hwritten, hshared, hnext⟩

theorem exists_inTurn (hn : Placed n name) (rest : n.tasks = [])
    (asks : List.Forall₂ Asks lines requests) :
    ∃ outs n', n.InTurn lines outs n' := by
  induction asks generalizing n with
  | nil => exact ⟨[], n, .done n⟩
  | @cons line m lines requests hasks asks ih =>
    obtain ⟨⟨text, hread⟩, hrequest, hkind⟩ := hasks
    have hserved := served_of_receive hn rest hread hrequest hkind 0 ⟨0, 0⟩
    obtain ⟨outs, n', hmore⟩ := ih hserved.placed hserved.tasks
    exact ⟨_ :: outs, n', .line (isStep_nextSteps n 0 ⟨0, 0⟩) hserved.tasks hserved.written hmore⟩

end Run

end Workload.Broadcast

end ClusterNode
