import ClusterNode.Proofs.Node.Frame
import ClusterNode.Proofs.Pending

/-!
What the operations of a node that write do: what they put on the output, and what they leave in the
table of requests.
-/

set_option autoImplicit false

namespace ClusterNode

theorem WriteMode.appears_of_succeeds {mode : WriteMode} {dest : String}
    (h : (mode.outcome dest).2 = true) : (mode.outcome dest).1 = true := by
  cases mode with
  | failingTo d => by_cases hd : d = dest <;> simp_all [outcome]
  | _ => simp_all [outcome]

namespace Node

variable {w : Workload} {n n' : Node w} {dest : String} {body : Json} {id : UInt64}

def name (n : Node w) : String := (n.identity.map Identity.id).getD ""

theorem write_eq (n : Node w) (dest : String) (body : Json) :
    n.write dest body =
      (if (n.mode.outcome dest).2 then .ok () else .error (.io "output closed"), { n with
        written := n.written ++ if (n.mode.outcome dest).1 then [⟨n.name, dest, body⟩] else []
        metrics := if (n.mode.outcome dest).2 then n.metrics.countSent
          else n.metrics.countSendFailure }) := by
  cases happears : (n.mode.outcome dest).1 <;> cases hsucceeds : (n.mode.outcome dest).2 <;>
    simp [write, endWrite, emit, name, happears, hsucceeds]

@[simp] theorem write_pending (n : Node w) (dest : String) (body : Json) :
    (n.write dest body).2.pending = n.pending := by
  rw [write_eq]

@[simp] theorem send_pending (n : Node w) (dest : String) (payload : Json) :
    (n.send dest payload).2.pending = n.pending := by
  simp only [send]
  split <;> simp

@[simp] theorem reply_pending (n : Node w) (request : Message) (payload : Json) :
    (n.reply request payload).2.pending = n.pending := by
  simp only [reply]
  split
  · rfl
  · split <;> simp

private theorem write_written (n : Node w) (dest : String) (body : Json) :
    ∃ ms : List Message, (n.write dest body).2.written = n.written ++ ms ∧
      (ms = [] ∨ ∃ src, ms = [⟨src, dest, body⟩]) := by
  rw [write_eq]
  refine ⟨_, rfl, ?_⟩
  split
  · exact .inr ⟨_, rfl⟩
  · exact .inl rfl

private theorem write_ok {n n' : Node w} {dest : String} {body : Json}
    (h : n.write dest body = (.ok (), n')) :
    ∃ src, n'.written = n.written ++ [⟨src, dest, body⟩] := by
  rw [write_eq] at h
  obtain ⟨hresult, rfl⟩ := Prod.mk.inj h
  cases hsucceeds : (n.mode.outcome dest).2 with
  | true => exact ⟨n.name, by simp only [WriteMode.appears_of_succeeds hsucceeds, if_true]⟩
  | false =>
    rw [hsucceeds] at hresult
    cases hresult

theorem writeRequest_ok (h : n.writeRequest dest id body = (.ok (), n')) :
    n'.pending = n.pending ∧ ∃ src, n'.written = n.written ++ [⟨src, dest, body⟩] := by
  simp only [writeRequest, endRequest] at h
  split at h
  · rename_i n₁ hwrite
    obtain ⟨-, rfl⟩ := Prod.mk.inj h
    have hpending := write_pending n dest body
    rw [hwrite] at hpending
    obtain ⟨src, hwritten⟩ := write_ok hwrite
    exact ⟨hpending, src, hwritten⟩
  · cases h

theorem writeRequest_error {e : NodeError} (h : n.writeRequest dest id body = (.error e, n')) :
    n'.pending = n.pending.erase id ∧ ∃ ms, n'.written = n.written ++ ms ∧
      (ms = [] ∨ ∃ src, ms = [⟨src, dest, body⟩]) := by
  simp only [writeRequest, endRequest] at h
  split at h
  · cases h
  · rename_i n₁ hwrite
    obtain ⟨-, rfl⟩ := Prod.mk.inj h
    have hpending := write_pending n dest body
    have hwritten := write_written n dest body
    rw [hwrite] at hpending hwritten
    refine ⟨?_, hwritten⟩
    dsimp only at hpending ⊢
    rw [Pending.cancel_snd, hpending]

/-- A request of a call that is out, flushed or not, leaves the table as it is. -/
theorem writeCall_ok {now : Nat} {limit : Option (Nat × Duration)} {flushed : Bool}
    (h : n.writeCall now dest id body limit = (.ok flushed, n')) :
    n'.pending = n.pending ∧ ∃ src, n'.written = n.written ++ [⟨src, dest, body⟩] := by
  have hplaced := n.writeCall_placed now dest id body limit
  rw [h] at hplaced
  cases hplaced with
  | unflushed => exact ⟨rfl, _, rfl⟩
  | written hwrite => exact writeRequest_ok hwrite

/-- One that is given up keeps its number, and one that cannot be written gives it back. -/
theorem writeCall_error {now : Nat} {limit : Option (Nat × Duration)} {e : NodeError}
    (h : n.writeCall now dest id body limit = (.error e, n')) :
    (n'.pending = n.pending ∨ n'.pending = n.pending.erase id) ∧
      ∃ ms, n'.written = n.written ++ ms ∧
      (ms = [] ∨ ∃ src, ms = [⟨src, dest, body⟩]) := by
  have hplaced := n.writeCall_placed now dest id body limit
  rw [h] at hplaced
  cases hplaced with
  | brokenOff => exact ⟨.inl rfl, [], by simp, .inl rfl⟩
  | failed _ hwrite => exact (writeRequest_error hwrite).imp_left .inr

section Working

private theorem write_working (hmode : n.mode = .working) (dest : String) (body : Json) :
    n.write dest body = (.ok (), { n with
      written := n.written ++ [⟨n.name, dest, body⟩]
      metrics := n.metrics.countSent }) := by
  simp [write_eq, hmode, WriteMode.outcome]

theorem writeRequest_working (hmode : n.mode = .working) (dest : String) (id : UInt64)
    (body : Json) :
    n.writeRequest dest id body = (.ok (), { n with
      written := n.written ++ [⟨n.name, dest, body⟩]
      metrics := n.metrics.countSent.countRpcSent }) := by
  simp only [writeRequest, endRequest, write_working hmode]

theorem writeCall_working (hmode : n.mode = .working) (now : Nat) (dest : String) (id : UInt64)
    (body : Json) (limit : Option (Nat × Duration)) :
    n.writeCall now dest id body limit = (.ok true, { n with
        written := n.written ++ [⟨n.name, dest, body⟩]
        metrics := n.metrics.countSent.countRpcSent }) ∨
      ∃ deadline after, limit = some (deadline, after) ∧ deadline < now ∧
        n.writeCall now dest id body limit = (.error (.timeout dest after), n) := by
  have hplaced := n.writeCall_placed now dest id body limit
  generalize n.writeCall now dest id body limit = placed at hplaced ⊢
  cases hplaced with
  | brokenOff deadline after hlimit hlate => exact .inr ⟨deadline, after, hlimit, hlate, rfl⟩
  | unflushed stalling =>
    rw [hmode] at stalling
    cases stalling
  | written h =>
    rw [writeRequest_working hmode] at h
    exact .inl (by rw [← (Prod.mk.inj h).2])
  | failed e h =>
    rw [writeRequest_working hmode] at h
    cases h

theorem le_deadline {now deadline : Nat} {patience : Patience} {after : Duration}
    (h : limitOf now patience = some (deadline, after)) : now ≤ deadline := by
  cases patience with
  | atMost d =>
    obtain ⟨rfl, -⟩ := Prod.mk.inj (Option.some.inj h)
    exact Nat.le_add_right now d.millis
  | untilCancelled => cases h

theorem flushCall?_working (hmode : n.mode = .working) (now : Nat) (wait : Wait w.Job) :
    n.flushCall? now wait =
      some (.ok (), { n with metrics := n.metrics.countSent.countRpcSent }) := by
  simp [flushCall?, hmode, endWrite, endRequest, WriteMode.outcome]

theorem send_working (hmode : n.mode = .working) (dest : String) (fields : Dictionary Json) :
    n.send dest (.object fields) = (.ok (), { n with
      written := n.written ++ [⟨n.name, dest, .object fields⟩]
      metrics := n.metrics.countSent }) := by
  simp only [send, encodeBody, write_working hmode]

theorem reply_unnumbered {request : Message} (hid : request.msgId? = none) (payload : Json) :
    n.reply request payload = (.ok (), n) := by
  simp only [reply, hid]

theorem reply_working (hmode : n.mode = .working) {request : Message} {id : UInt64}
    (hid : request.msgId? = some id) (fields : Dictionary Json) :
    n.reply request (.object fields) = (.ok (), { n with
      written := n.written ++
        [⟨n.name, request.src, .object (Dictionary.insert "in_reply_to" (.ofUInt64 id) fields)⟩]
      metrics := n.metrics.countSent }) := by
  simp only [reply, hid, encodeBody, write_working hmode]

end Working

end Node

end ClusterNode
