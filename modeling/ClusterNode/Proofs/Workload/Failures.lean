import ClusterNode.Proofs.Node.Traceless
import ClusterNode.Proofs.Workload.Answers

/-!
Requests that fail leave no trace on nodes whose workload makes no requests of its own: the jobs of
these workloads decide at their first step.
-/

set_option autoImplicit false

namespace ClusterNode

variable {w : Workload}

namespace Node

structure NoTrace (n : Node w) (events : List (Event w)) : Prop where
  /-- A task that has failed was refused as malformed, and none of its steps has altered the
  identity or what the jobs share. -/
  failures : ∀ t ∈ (n.run events).tasks, ∀ e, t.failure? = some e → e.code.toInt64 = 12 ∧
    ¬ n.Marks events t.id
  told : ∀ line ∈ (n.run events).written, ∀ e, line.rpcError? = some e → e.code.toInt64 = 12
  crashes : (n.run events).metrics.crashes = 0
  /-- What is read as a request for an identity is one, -/
  offers : ∀ t ∈ (n.run events).tasks, t.stage = .adopt →
    (t.message.payload : Except RpcError Payload.Init) ≠ .ok .initOk
  /-- and no job finds that its request is none. -/
  requests : ∀ t ∈ (n.run events).tasks, ∀ job, t.stage = .work job → ∀ kind,
    (w.step (n.run events).view (n.run events).shared job).1 ≠ .notARequest kind

private theorem Traceless.no_trace (hw : w.Decides) {n : Node w} {events : List (Event w)}
    (h : Traceless (n.Marks events) (n.run events)) : n.NoTrace events where
  failures t ht e he := by
    have hfollows := h.course.follows t ht
    simp only [Task.failure?] at he
    split at he
    · rename_i cause hs
      obtain ⟨-, hcode, hunmarked⟩ := hfollows.of_stage hs
      rw [← Option.some.inj he, hcode]
      exact ⟨rfl, hunmarked⟩
    · rename_i e' hs
      obtain ⟨-, cause, ⟨hcode, hunmarked⟩, rfl⟩ := hfollows.of_stage hs
      rw [← Option.some.inj he, hcode]
      exact ⟨rfl, hunmarked⟩
    · cases he
  told := h.told
  crashes := h.crashes
  offers t ht hs hpayload := by
    obtain ⟨-, hkind, ⟨fields, hbody⟩, -⟩ := (h.course.follows t ht).of_stage hs
    rw [Message.kind_of_payload Payload.Init.tag_of_decode hpayload hbody] at hkind
    exact absurd hkind (by decide)
  requests t ht job hs kind hnone := by
    rcases ((h.course.follows t ht).of_stage hs).2 with ⟨hopens, -⟩ | hsettles
    · rcases hw.first (n.run events).view
        (n.run events).shared _ job hopens with ⟨e, hstep, hcode⟩ | ⟨_, _, hstep, -⟩
      · rw [hstep] at hnone
        cases hnone
        cases hcode
      · rw [hstep] at hnone
        cases hnone
    · cases hsettles <;> simp_all [Action.notARequest, Action.fail]

end Node

private theorem View.error_of_identify {view : View} {e : NodeError}
    (h : view.identify = .error e) :
    e = .notInitialized := by
  simp only [identify] at h
  split at h
  · cases h
  · exact (Except.error.inj h).symm

namespace Workload

private theorem kind_of_kinds {α : Type} {kinds : List String} {kind : String} {handler a : α}
    (h : Registry.get? ⟨Dictionary.ofList (kinds.map fun kind => (kind, handler))⟩ kind = some a) :
    kind ∈ kinds := by
  rw [Registry.get?, Dictionary.get?_ofList] at h
  obtain ⟨entry, hentry, -⟩ := Option.map_eq_some_iff.mp h
  obtain ⟨k, hk, rfl⟩ := List.mem_map.mp (List.mem_reverse.mp (List.mem_of_find?_eq_some hentry))
  have hkind := List.find?_some hentry
  exact (of_decide_eq_true hkind).symm ▸ hk

namespace Broadcast

private theorem settles_ending : broadcast.Settles (.ending (.ok ())) := .done _ fun _ _ => rfl

private theorem settles_forwarding (v : BroadcastValue) (neighbors : List String) :
    broadcast.Settles (.forwarding v neighbors) := by
  induction neighbors with
  | nil => exact .done _ fun _ _ => rfl
  | cons neighbor rest ih =>
    refine .sends _ neighbor _ _ (fun _ _ => rfl) ⟨_, rfl⟩ ?_ ih
    rw [kindOf_encode (Payload.Broadcast.broadcast v) rfl (by simp)]
    decide

private theorem settles_offered (v : BroadcastValue) (acceptance : Gossip.Acceptance) :
    broadcast.Settles (.offered v acceptance) := by
  refine .replies _ _ _ (fun _ _ => rfl) ⟨_, rfl⟩ ?_ ?_
  · rw [kindOf_encode Payload.Broadcast.broadcastOk rfl (by simp)]
    decide
  · cases acceptance with
    | fresh neighbors => exact settles_forwarding v neighbors
    | duplicate => exact settles_ending

private theorem settles_recorded (v : BroadcastValue) (fresh : Bool) :
    broadcast.Settles (.recorded v fresh) :=
  .looks _ _ (fun _ _ => rfl) fun _ => settles_offered v _

private theorem settles_answering (answer : Payload.Broadcast) :
    broadcast.Settles (.answering answer) := by
  refine .replies _ _ _ (fun _ _ => rfl) ⟨_, rfl⟩ ?_ settles_ending
  cases answer <;> rw [kindOf_encode _ rfl (by simp)] <;> decide

private theorem decides : broadcast.Decides where
  bare := duty_kept.init
  first := by
    rintro view values m job ⟨⟨fields, hbody⟩, handler, hhandler, rfl⟩
    have hkind := kind_of_kinds hhandler
    rw [handler_of_kinds hhandler]
    show (∃ e, begin view values m = (.finish (.error e), values) ∧
      e.toRpcError.code = .malformedRequest) ∨
      ∃ next values', begin view values m = (.proceed next, values') ∧ broadcast.Settles next
    unfold begin
    cases hpayload : (m.payload : Except RpcError Payload.Broadcast) with
    | error e => exact .inl ⟨.rpc e, rfl, Node.Message.code_of_payload hpayload⟩
    | ok p =>
      rw [Message.kind_of_payload Payload.Broadcast.tag_of_decode hpayload hbody] at hkind
      cases p with
      | broadcast v => exact .inr ⟨_, _, rfl, settles_recorded v _⟩
      | read => exact .inr ⟨_, _, rfl, settles_answering _⟩
      | topology table =>
        dsimp only
        cases hidentity : view.identify with
        | error e =>
          obtain rfl := View.error_of_identify hidentity
          exact .inl ⟨_, rfl, rfl⟩
        | ok identity =>
          dsimp only
          cases neighborsFor table identity.id with
          | none => exact .inl ⟨_, rfl, rfl⟩
          | some neighbors => exact .inr ⟨_, _, rfl, settles_answering _⟩
      | _ =>
        exact absurd hkind (by simp [Payload.Broadcast.tag, kinds])

end Broadcast

namespace UniqueIds

private theorem settles_answering (id : String) : uniqueIds.Settles (.answering id) := by
  refine .replies _ _ _ (fun _ _ => rfl) ⟨_, rfl⟩ ?_ (.done _ fun _ _ => rfl)
  rw [kindOf_encode (Payload.Generate.generateOk id) rfl (by simp)]
  decide

private theorem decides : uniqueIds.Decides where
  bare := duty_kept.init
  first := by
    rintro view next m job ⟨⟨fields, hbody⟩, handler, hhandler, rfl⟩
    have hkind := kind_of_kinds hhandler
    rw [handler_of_kinds hhandler]
    show (∃ e, begin view next m = (.finish (.error e), next) ∧
      e.toRpcError.code = .malformedRequest) ∨
      ∃ job next', begin view next m = (.proceed job, next') ∧ uniqueIds.Settles job
    unfold begin
    cases hpayload : (m.payload : Except RpcError Payload.Generate) with
    | error e => exact .inl ⟨.rpc e, rfl, Node.Message.code_of_payload hpayload⟩
    | ok p =>
      rw [Message.kind_of_payload Payload.Generate.tag_of_decode hpayload hbody] at hkind
      cases p with
      | generate =>
        dsimp only
        cases hidentity : view.identify with
        | error e =>
          obtain rfl := View.error_of_identify hidentity
          exact .inl ⟨_, rfl, rfl⟩
        | ok identity =>
          exact .inr ⟨_, _, rfl, .stamps _ _ (fun _ _ => rfl) fun stamp => settles_answering _⟩
      | generateOk id =>
        exact absurd hkind (by simp [Payload.Generate.tag, kinds])

end UniqueIds

inductive Unassisted : Workload → Prop
  | broadcast : Unassisted broadcast
  | uniqueIds : Unassisted uniqueIds

private theorem Unassisted.decides (hw : Unassisted w) : w.Decides := by
  cases hw with
  | broadcast => exact Broadcast.decides
  | uniqueIds => exact UniqueIds.decides

/-- On a node of a workload that makes no requests, a request that fails leaves no trace. In
whatever state a request is passed on while the writer works, its task comes to an end: a good one,
or a refusal of a malformed request, with all as it was before. And in every run over input with a
writer that works, in whichever order the tasks take their steps, those that have failed have
altered nothing, and nothing crashes. -/
theorem failures_leave_no_trace (hw : Unassisted w) (rpcTimeout : Duration)
    (events : List (Node.Event w)) :
    (((Node.start w rpcTimeout).run events).mode = .working → ∀ bytes,
      ∀ m ∈ ((Node.start w rpcTimeout).run events).dispatched bytes,
        Node.Inevitable ((Node.start w rpcTimeout).run events).nextTask
          (Node.Resolved ((Node.start w rpcTimeout).run events)
          ((Node.start w rpcTimeout).run events).nextTask m)
          (((Node.start w rpcTimeout).run events).receiveBytes bytes)) ∧
      ((∀ e ∈ events, e.FromInput) → (Node.start w rpcTimeout).NoTrace events) := by
  have hnumbered : ((Node.start w rpcTimeout).run events).Numbered :=
    Node.run_induction (.start w rpcTimeout) fun e _ _ hn => hn.apply e
  exact ⟨fun working _ _ hm => Node.resolves hw.decides hnumbered working hm,
    fun input => (Node.traceless_run hw.decides rpcTimeout events input).no_trace hw.decides⟩

/-- A node is given a topology before its identity, then a value that is none, an identity, and a
topology that does not mention it. -/
def refusing : List (Node.Event broadcast) :=
  let request (body : String) : Node.Event broadcast :=
    .line ("\x7b\"src\":\"c\",\"dest\":\"a\",\"body\":\x7b" ++ body ++ "\x7d\x7d").toUTF8.toList
  let steps (count id : Nat) : List (Node.Event broadcast) :=
    List.replicate count (.step 0 ⟨0, 0⟩ id)
  request "\"type\":\"topology\",\"topology\":\x7b\x7d,\"msg_id\":1" :: steps 4 0
    ++ request "\"type\":\"broadcast\",\"message\":\"five\",\"msg_id\":2"
      :: request "\"type\":\"init\",\"node_id\":\"a\",\"node_ids\":[],\"msg_id\":3" :: steps 4 2 ++
        steps 4 1
    ++ request "\"type\":\"topology\",\"topology\":\x7b\x7d,\"msg_id\":4" :: steps 3 3

theorem refusing_leaves_no_trace : Unassisted broadcast ∧
    (∀ e ∈ refusing, e.FromInput) ∧ ((Node.start broadcast ⟨1000⟩).run refusing).mode = .working ∧
    ((Node.start broadcast ⟨1000⟩).run refusing).written.map Message.kind =
      ["error", "init_ok", "error"] ∧
    ((Node.start broadcast ⟨1000⟩).run refusing).tasks.map (fun t => t.failure?.map RpcError.code) =
      [some .malformedRequest] ∧
    (∀ bytes, ∀ m ∈ ((Node.start broadcast ⟨1000⟩).run refusing).dispatched bytes,
      Node.Inevitable ((Node.start broadcast ⟨1000⟩).run refusing).nextTask
        (Node.Resolved ((Node.start broadcast ⟨1000⟩).run refusing)
          ((Node.start broadcast ⟨1000⟩).run refusing).nextTask m)
        (((Node.start broadcast ⟨1000⟩).run refusing).receiveBytes bytes)) ∧
    (Node.start broadcast ⟨1000⟩).NoTrace refusing :=
  have input : ∀ e ∈ refusing, e.FromInput := by simp [refusing, Node.Event.FromInput]
  have outcome : ((Node.start broadcast ⟨1000⟩).run refusing).mode = .working ∧
      ((Node.start broadcast ⟨1000⟩).run refusing).written.map Message.kind =
        ["error", "init_ok", "error"] ∧
      ((Node.start broadcast ⟨1000⟩).run refusing).tasks.map
        (fun t => t.failure?.map RpcError.code) =
        [some .malformedRequest] := by decide +kernel
  ⟨.broadcast, input, outcome.1, outcome.2.1, outcome.2.2,
    (failures_leave_no_trace .broadcast ⟨1000⟩ refusing).1 outcome.1,
    (failures_leave_no_trace .broadcast ⟨1000⟩ refusing).2 input⟩

end Workload

end ClusterNode
