import ClusterNode.Proofs.Gossip.Spreading
import ClusterNode.Proofs.Node.Init

/-!
Nodes that are ready to spread values: two requests give a node its identity and its neighbors.
-/

set_option autoImplicit false

namespace ClusterNode.Workload.Broadcast

/-- A node that has its identity and its neighbors, has been asked to broadcast nothing yet, and has
nothing left to do. -/
structure Ready (n : Node broadcast) (name : String) (neighbors : List String) : Prop where
  identity : ∃ peers, n.identity = some ⟨name, peers⟩
  working : n.mode = .working
  reading : n.verdict = none
  tasks : n.tasks = []
  shared : n.shared = Gossip.empty.setNeighbors neighbors
  written : ∀ m ∈ n.written, m.carried? = none

theorem Ready.spreading {n : Node broadcast} {name : String} {neighbors : List String}
    (h : Ready n name neighbors) : Spreading n name neighbors where
  numbered := ⟨by simp [h.tasks], by simp [h.tasks]⟩
  identity := h.identity
  working := h.working
  reading := h.reading
  bears := by simp [h.tasks]
  consistent := by
    rw [h.shared]
    intro v
    simp [Gossip.contains, Gossip.Holds, Gossip.empty, Gossip.setNeighbors]
  along := by rw [h.shared]; rfl
  ledger := by
    intro v
    have hforwards : forwards v n.written = [] := by
      simp only [forwards, List.map_eq_nil_iff, List.filter_eq_nil_iff]
      intro m hm
      simp [Message.carries, h.written m hm]
    have hcontains : n.shared.contains v = false := by
      rw [h.shared]
      simp [Gossip.contains, Gossip.empty, Gossip.setNeighbors]
    simp [hforwards, hcontains, toForward, h.tasks]

section Requests

variable {line : List UInt8} {m : Message} {text id : String} {peers neighbors : List String}

/-- A node that was asked to take on an identity has no neighbors yet. -/
theorem ready_of_init (rpcTimeout : Duration) (hread : Reading.ofBytes line = .message m text)
    (hreply : m.inReplyTo? = none) (hkind : m.kind = "init")
    (hpayload : (m.payload : Except RpcError Payload.Init) = .ok (.init id peers)) :
    Ready ((Node.start broadcast rpcTimeout).run
      (.line line :: List.replicate 4 (.step 0 ⟨0, 0⟩ 0))) id [] := by
  have hinit := Node.initialised_of_init (w := broadcast) rfl rpcTimeout hread hreply hkind hpayload
  refine ⟨⟨peers, hinit.identity⟩, hinit.working, hinit.reading,
    hinit.tasks, by rw [hinit.shared]; rfl,
    fun a ha => ?_⟩
  obtain ⟨dest, id, rfl⟩ := hinit.written a ha
  rfl

/-- A node that is asked to take in a topology takes its neighbors from it. -/
theorem Ready.topology {n : Node broadcast} {before : List String}
    {table : Dictionary (List String)}
    (h : Ready n id before) (hread : Reading.ofBytes line = .message m text)
    (hreply : m.inReplyTo? = none) (hkind : m.kind = "topology")
    (hpayload : (m.payload : Except RpcError Payload.Broadcast) = .ok (.topology table))
    (hneighbors : neighborsFor table id = some neighbors) :
    Ready (n.run (.line line :: List.replicate 5 (.step 0 ⟨0, 0⟩ n.nextTask))) id neighbors := by
  obtain ⟨⟨peers, hidentity⟩, hworking, hreading, htasks, hshared, hwritten⟩ := h
  have hhandler : broadcast.handlers.get? "topology" = some Job.received := rfl
  have hstep : Workload.step broadcast = Broadcast.step := rfl
  cases hid : m.msgId? with
  | none =>
    simp [Node.run, Node.apply, Node.receiveBytes_eq_take, hread, Node.take, hreply,
      Node.receiveRequest, hkind, Node.spawn, Node.step, Node.task?, Node.stepTask, hreading,
      hworking, htasks, hidentity, Node.goTo, Node.update, hpayload, hhandler, Node.reply, hid,
        hstep,
      Broadcast.step, begin, Node.act, Node.view, View.identify, hneighbors, Node.conclude,
      Node.remove]
    exact ⟨⟨peers, rfl⟩, rfl, rfl, rfl, by rw [hshared]; rfl, hwritten⟩
  | some k =>
    simp [Node.run, Node.apply, Node.receiveBytes_eq_take, hread, Node.take, hreply,
      Node.receiveRequest, hkind, Node.spawn, Node.step, Node.task?, Node.stepTask, hreading,
      hworking, htasks, hidentity, Node.goTo, Node.update, hpayload, hhandler, Node.reply, hid,
        hstep,
      Broadcast.step, begin, Node.act, Node.view, View.identify, hneighbors, Node.conclude,
      Node.remove, Payload.encode, encodeBody_object, Node.write, Node.emit, Node.endWrite,
        WriteMode.outcome]
    refine ⟨⟨peers, rfl⟩, rfl, rfl, rfl, by rw [hshared]; rfl, fun a ha => ?_⟩
    rcases List.mem_append.mp ha with ha | ha
    · exact hwritten a ha
    · obtain rfl := List.mem_singleton.mp ha
      rfl

end Requests

end ClusterNode.Workload.Broadcast
