import ClusterNode.Proofs.Message.Body
import ClusterNode.Proofs.Node.Run

/-!
Nodes that have taken on an identity, and have done nothing else yet.
-/

set_option autoImplicit false

namespace ClusterNode.Node

variable {w : Workload}

/-- A node that has taken on an identity, and has told so at most. -/
structure Initialised (n : Node w) (name : String) (peers : List String) : Prop where
  identity : n.identity = some ⟨name, peers⟩
  working : n.mode = .working
  reading : n.verdict = none
  pending : n.pending = .empty
  tasks : n.tasks = []
  shared : n.shared = w.shared
  written : ∀ m ∈ n.written, ∃ dest id,
    m = Payload.Plain.message Payload.Init.initOk name dest none (some id)

/-- A request that offers an identity to a node gives it that identity, with or without a number to
answer under. -/
theorem initialised_of_init (hhandler : w.handlers.get? "init" = none) (rpcTimeout : Duration)
    {line : List UInt8} {m : Message} {text name : String} {peers : List String}
    (hread : Reading.ofBytes line = .message m text) (hreply : m.inReplyTo? = none)
    (hkind : m.kind = "init")
    (hpayload : (m.payload : Except RpcError Payload.Init) = .ok (.init name peers)) :
    ((Node.start w rpcTimeout).run (.line line :: List.replicate 4 (.step 0 ⟨0, 0⟩ 0))).Initialised
      name peers := by
  cases hid : m.msgId? with
  | none =>
    simp [run, apply, receiveBytes_eq_take, hread, take, hreply, receiveRequest, hkind, start,
      spawn, step,
      task?, stepTask, goTo, update, adopt, hpayload, init, hhandler, reply, hid, conclude, remove]
    exact ⟨rfl, rfl, rfl, rfl, rfl, rfl, by simp⟩
  | some id =>
    simp [run, apply, receiveBytes_eq_take, hread, take, hreply, receiveRequest, hkind, start,
      spawn, step,
      task?, stepTask, goTo, update, adopt, hpayload, init, hhandler, reply, hid, conclude, remove,
      Payload.encode, encodeBody_object, write, WriteMode.outcome]
    exact ⟨rfl, rfl, rfl, rfl, rfl, rfl, fun a ha => ⟨m.src, id, List.mem_singleton.mp ha⟩⟩

end ClusterNode.Node
