import ClusterNode.Proofs.Gossip.Cluster
import ClusterNode.Proofs.Gossip.InTurn

/-!
Clusters at rest: a request that comes to a node is handled by some steps of that node, and then the
cluster is at rest again.
-/

set_option autoImplicit false

namespace ClusterNode.Workload.Broadcast.Cluster

variable {ι : Type} [Fintype ι] [DecidableEq ι] {name : ι → String} {c : Cluster ι} {i j : ι}
  {n n' : Node broadcast}

private theorem run_cons (move : Move ι) (moves : List (Move ι)) :
    c.run name (move :: moves) = (c.apply name move).run name moves := rfl

theorem run_append (moves more : List (Move ι)) :
    c.run name (moves ++ more) = (c.run name moves).run name more :=
  List.foldl_append

@[simp] theorem nodes_change_self : (c.change name i n).nodes i = n := by
  show Function.update c.nodes i n i = n
  exact Function.update_self i n c.nodes

private theorem nodes_change_of_ne (hj : j ≠ i) : (c.change name i n).nodes j = c.nodes j := by
  show Function.update c.nodes i n j = c.nodes j
  exact Function.update_of_ne hj n c.nodes

private theorem written_step (n : Node broadcast) (now : Nat) (stamp : Stamp) (id : Nat) :
    n.written <+: (n.step now stamp id).written := by
  rw [Node.step]
  cases n.task? id with
  | none => exact List.prefix_rfl
  | some t => exact (Node.SameCourse.stepTask n now stamp t).written

private theorem change_change (grows : (c.nodes i).written <+: n.written)
    (more : n.written <+: n'.written) :
    (c.change name i n).change name i n' = c.change name i n' := by
  obtain ⟨lines, hlines⟩ := grows
  obtain ⟨lines', hlines'⟩ := more
  simp [change, ← hlines', ← hlines]

private theorem run_steps (grows : (c.nodes i).written <+: n.written) (count now : Nat)
    (stamp : Stamp) (id : Nat) :
    (c.change name i n).run name (List.replicate count (.step i now stamp id)) =
      c.change name i (n.run (List.replicate count (.step now stamp id))) := by
  induction count generalizing n with
  | zero => rfl
  | succ count ih =>
    have hgrows := written_step n now stamp id
    have hstep : (c.change name i n).apply name (.step i now stamp id) =
        c.change name i (n.step now stamp id) := by
      rw [apply, nodes_change_self]
      exact change_change grows hgrows
    rw [List.replicate_succ, run_cons, hstep, ih (grows.trans hgrows), List.replicate_succ,
      Node.run_cons]
    rfl

structure AtRest (name : ι → String) (c : Cluster ι) : Prop where
  placed : ∀ i, Placed (c.nodes i) (name i)
  tasks : ∀ i, (c.nodes i).tasks = []

/-- A cluster that was at rest has handled a request that came to one of its nodes. -/
structure Handled (name : ι → String) (c : Cluster ι) (i : ι) (m : Message) (c' : Cluster ι) :
    Prop where
  rest : AtRest name c'
  wire : c'.wire =
    c.wire ++ (handled (name i) (c.nodes i).shared m).1.filter fun m => ∃ j, m.dest = name j
  shared : (c'.nodes i).shared = (handled (name i) (c.nodes i).shared m).2
  nextTask : (c'.nodes i).nextTask = (c.nodes i).nextTask + 1
  others : ∀ j, j ≠ i → c'.nodes j = c.nodes j

private theorem AtRest.handles (h : AtRest name c) {line : List UInt8} {m : Message} {text : String}
    (hread : Reading.ofBytes line = .message m text) (hreply : m.inReplyTo? = none)
    (hkind : m.kind ∈ kinds)
    {count task : Nat} (enough : count = (c.nodes i).shared.neighbors.length + 7)
    (begun : task = (c.nodes i).nextTask) (now : Nat) (stamp : Stamp) :
    Handled name c i m ((c.change name i ((c.nodes i).receiveBytes line)).run name
      (List.replicate count (.step i now stamp task))) := by
  subst enough begun
  have hgrows : (c.nodes i).written <+: ((c.nodes i).receiveBytes line).written := by
    rw [receiveBytes_of_kind (h.placed i).reading hread hreply hkind]
    exact List.prefix_rfl
  have hserved := served_of_receive (h.placed i) (h.tasks i) hread hreply hkind now stamp
  rw [run_steps hgrows]
  change Handled name c i m (c.change name i
    (((c.nodes i).receiveBytes line).run (nextSteps (c.nodes i) now stamp)))
  generalize ((c.nodes i).receiveBytes line).run (nextSteps (c.nodes i) now stamp) = n at hserved ⊢
  refine ⟨⟨?_, ?_⟩, ?_, ?_, ?_, fun j hj => nodes_change_of_ne hj⟩
  · exact forall_nodes (P := fun j n => Placed n (name j)) rfl hserved.placed h.placed
  · exact forall_nodes (P := fun _ n => n.tasks = []) rfl hserved.tasks h.tasks
  · simp [change, hserved.written]
  · rw [nodes_change_self, hserved.shared]
  · rw [nodes_change_self, hserved.nextTask]

theorem AtRest.asks (h : AtRest name c) {line : List UInt8} {m : Message} {text : String}
    (hread : Reading.ofBytes line = .message m text) (hreply : m.inReplyTo? = none)
    (hkind : m.kind ∈ kinds)
    {count task : Nat} (enough : count = (c.nodes i).shared.neighbors.length + 7)
    (begun : task = (c.nodes i).nextTask) (now : Nat) (stamp : Stamp) :
    Handled name c i m (c.run name
      (.client i line :: List.replicate count (.step i now stamp task))) := by
  rw [run_cons, apply]
  exact h.handles hread hreply hkind enough begun now stamp

theorem AtRest.delivers (h : AtRest name c) {src : String} {v : BroadcastValue}
    {wire : List Message}
    (first : c.wire = forward src (name i) v :: wire) (survives : v.number.Survives)
    {count task : Nat} (enough : count = (c.nodes i).shared.neighbors.length + 7)
    (begun : task = (c.nodes i).nextTask) (now : Nat) (stamp : Stamp) :
    Handled name { c with wire } i (forward src (name i) v)
      (c.run name (.deliver i 0 :: List.replicate count (.step i now stamp task))) := by
  have hplain := plain_broadcast survives
  have hlegible : (forward src (name i) v).Legible := hplain.legible
  have hkind : (forward src (name i) v).kind = "broadcast" := hplain.kind
  have hrest : AtRest name { c with wire } := ⟨h.placed, h.tasks⟩
  have harrives : c.apply name (.deliver i 0) = ({ c with wire } : Cluster ι).change name i
      ((c.nodes i).receiveBytes (Bench.Session.lineBytes (forward src (name i) v).encode)) := by
    simp [apply, first]
  rw [run_cons, harrives]
  exact hrest.handles (ofBytes_encode hlegible) hplain.inReplyTo?
    (by rw [hkind]; decide) enough begun now stamp

omit [DecidableEq ι] in
theorem Handled.of_carried {c' : Cluster ι} {m : Message} (h : Handled name c i m c')
    {v : BroadcastValue}
    (carried : m.carried? = some v) (outside : m.msgId? = none ∨ ∀ j, m.src ≠ name j) :
    c'.wire = c.wire ++
        (sent (name i) v ((c.nodes i).shared.accept v).1).filter (fun m => ∃ j, m.dest = name j) ∧
      (c'.nodes i).shared = ((c.nodes i).shared.accept v).2 := by
  have hhandled : handled (name i) (c.nodes i).shared m =
      (answered (name i) m Payload.Broadcast.broadcastOk ++
        sent (name i) v ((c.nodes i).shared.accept v).1,
        ((c.nodes i).shared.accept v).2) := by
    simp only [handled, Message.payload_of_carried? carried]
  have hanswer : (answered (name i) m Payload.Broadcast.broadcastOk).filter
      (fun m => ∃ j, m.dest = name j) = [] := by
    rw [answered]
    rcases outside with hnone | houtside
    · rw [hnone]
      rfl
    · cases m.msgId? with
      | none => rfl
      | some id => simpa [Payload.Plain.message] using fun j => houtside j
  refine ⟨?_, by rw [h.shared, hhandled]⟩
  rw [h.wire, hhandled, List.filter_append, hanswer, List.nil_append]

end ClusterNode.Workload.Broadcast.Cluster
