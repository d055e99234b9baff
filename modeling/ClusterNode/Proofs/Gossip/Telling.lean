import ClusterNode.Proofs.Gossip.InTurn
import ClusterNode.Proofs.Node.Init

/-!
What a node tells that takes requests in turn: a value is forwarded once, as it was first spelled,
along the neighbors of that moment; and each list of values holds the first of each kind that came,
in order.
-/

set_option autoImplicit false

namespace ClusterNode.Workload.Broadcast

section Outputs

variable {name : String} {history before after requests : List Message} {m x : Message}
  {u v : BroadcastValue}

private theorem outputs_append (history before after : List Message) :
    outputs name history (before ++ after) =
    outputs name history before ++ outputs name (history ++ before) after := by
  induction before generalizing history with
  | nil => simp [outputs]
  | cons m before ih => simp [outputs, ih]

private theorem length_outputs (history requests : List Message) :
    (outputs name history requests).length = requests.length := by
  induction requests generalizing history with
  | nil => rfl
  | cons m requests ih => simp only [outputs, List.length_cons, ih]

private theorem getElem?_outputs (history before after : List Message) (m : Message) :
    (outputs name history (before ++ m :: after))[before.length]? =
      some (output name (history ++ before) m) := by
  rw [outputs_append, List.getElem?_append_right (by rw [length_outputs]), length_outputs,
    Nat.sub_self]
  rfl

private theorem exists_of_mem_outputs (hx : x ∈ (outputs name history requests).flatten) :
    ∃ before m after, requests = before ++ m :: after ∧ x ∈ output name (history ++ before) m := by
  induction requests generalizing history with
  | nil => simp [outputs] at hx
  | cons m requests ih =>
    rw [outputs, List.flatten_cons, List.mem_append] at hx
    rcases hx with hx | hx
    · exact ⟨[], m, requests, rfl, by simpa using hx⟩
    · obtain ⟨before, m', after, rfl, hmem⟩ := ih hx
      exact ⟨m :: before, m', after, rfl, by simpa using hmem⟩

private theorem kind_answered {α : Type} [Payload α] {a : α} (hx : x ∈ answered name m a) :
    x.kind = kindOf (Payload.encode a) ∧ ∃ fields, x.body = .object fields := by
  simp only [answered] at hx
  split at hx
  · obtain rfl := List.mem_singleton.mp hx
    exact ⟨kindOf_insert (by decide) _ _, _, rfl⟩
  · cases hx

private theorem carried?_answered {α : Type} [Payload α] {a : α}
    (hne : kindOf (Payload.encode a) ≠ "broadcast")
    (hx : x ∈ answered name m a) : x.carried? = none ∧ x.kind ≠ "broadcast" := by
  obtain ⟨hkind, fields, hbody⟩ := kind_answered hx
  rw [← hkind] at hne
  cases hcarried : x.carried? with
  | none => exact ⟨rfl, hne⟩
  | some v => exact absurd (Message.kind_of_carried? hcarried hbody) hne

private theorem carries_passed (name dest : String) (u v : BroadcastValue) :
    (passed name dest v).carries u = (v == u) := by
  rw [Message.carries_of_carried? (by rw [← forward_eq_passed]; exact carried?_forward name dest v)]

def forwarded (name : String) (history : List Message) (m : Message) : List Message :=
  match m.carried? with
  | some v =>
    if history.any (·.carries v) then [] else (neighborsAfter name history).map fun d =>
      passed name d v
  | none => []

private theorem eq_passed_of_mem (hx : x ∈ forwarded name history m) :
    ∃ d v, x = passed name d v := by
  unfold forwarded at hx
  split at hx
  · split at hx
    · cases hx
    · obtain ⟨d, -, rfl⟩ := List.mem_map.mp hx
      exact ⟨d, _, rfl⟩
  · cases hx

private theorem output_eq (name : String) (history : List Message) (m : Message) : ∃ answer,
    output name history m = answer ++ forwarded name history m ∧
      ∀ x ∈ answer, x.carried? = none ∧ x.kind ≠ "broadcast" := by
  have answer : ∀ {α : Type} [Payload α] {a : α} {tag : String} {rest : List (String × Json)},
      Payload.fields a = ("type", .string tag) :: rest → (∀ field ∈ rest, field.1 ≠ "type") →
      tag ≠ "broadcast" → ∀ x ∈ answered name m a, x.carried? = none ∧ x.kind ≠ "broadcast" :=
    fun hfields hrest hne x hx => carried?_answered (kindOf_encode _ hfields hrest ▸ hne) hx
  unfold output forwarded Message.carried?
  cases (m.payload : Except RpcError Payload.Broadcast) with
  | error e => exact ⟨_, (List.append_nil _).symm, answer rfl (by simp) (by decide)⟩
  | ok p =>
    cases p with
    | broadcast v => exact ⟨_, rfl, answer rfl (by simp) (by decide)⟩
    | topology table =>
      dsimp only
      cases assigned? name m <;>
        exact ⟨_, (List.append_nil _).symm, answer rfl (by simp) (by decide)⟩
    | _ => exact ⟨_, (List.append_nil _).symm, answer rfl (by simp) (by decide)⟩

private theorem filter_output (name : String) (history : List Message) (m : Message)
    (u : BroadcastValue) :
    (output name history m).filter (·.carries u) =
      (forwarded name history m).filter (·.carries u) := by
  obtain ⟨answer, houtput, hanswer⟩ := output_eq name history m
  have hnone : answer.filter (·.carries u) = [] := by
    refine List.filter_eq_nil_iff.mpr fun x hx => ?_
    simp [Message.carries, (hanswer x hx).1]
  rw [houtput, List.filter_append, hnone, List.nil_append]

private theorem carries_congr (huv : (v == u) = true) (m : Message) :
    m.carries v = m.carries u := by
  rw [Message.carries, Message.carries]
  exact congrArg (Option.any · m.carried?) (funext fun x => BEq.congr_right huv)

private theorem any_carries_congr (huv : (v == u) = true) (history : List Message) :
    history.any (·.carries v) = history.any (·.carries u) :=
  congrArg (List.any history) (funext fun m => carries_congr huv m)

private theorem filter_forwarded_eq_nil
    (h : m.carries u = true → history.any (·.carries u) = true) :
    (forwarded name history m).filter (·.carries u) = [] := by
  unfold forwarded
  cases hcarried : m.carried? with
  | none => rfl
  | some v =>
    rw [Message.carries_of_carried? hcarried] at h
    dsimp only
    split
    · rfl
    · rename_i hnew
      refine List.filter_eq_nil_iff.mpr fun x hx hu => hnew ?_
      obtain ⟨d, -, rfl⟩ := List.mem_map.mp hx
      rw [carries_passed] at hu
      rw [any_carries_congr hu]
      exact h hu

private theorem filter_forwarded (hcarried : m.carried? = some v) (huv : (v == u) = true)
    (hnew : history.any (·.carries u) = false) : (forwarded name history m).filter (·.carries u) =
      (neighborsAfter name history).map fun d => passed name d v := by
  rw [← any_carries_congr huv] at hnew
  simp only [forwarded, hcarried, hnew, Bool.false_eq_true, if_false]
  refine List.filter_eq_self.mpr fun x hx => ?_
  obtain ⟨d, -, rfl⟩ := List.mem_map.mp hx
  rw [carries_passed, huv]

private theorem filter_outputs_eq_nil
    (h : ∀ before m after, requests = before ++ m :: after → m.carries u = true →
      (history ++ before).any (·.carries u) = true) :
    (outputs name history requests).flatten.filter (·.carries u) = [] := by
  induction requests generalizing history with
  | nil => rfl
  | cons m requests ih =>
    rw [outputs, List.flatten_cons, List.filter_append, filter_output,
      filter_forwarded_eq_nil fun hm => by simpa using h [] m requests rfl hm, List.nil_append]
    refine ih fun before m' after hrequests hm' => ?_
    have := h (m :: before) m' after (by rw [hrequests]; rfl) hm'
    simpa using this

private theorem filter_outputs (hrequests : requests = before ++ m :: after)
    (hcarried : m.carried? = some v)
    (huv : (v == u) = true) (hnew : before.any (·.carries u) = false) :
    (outputs name [] requests).flatten.filter (·.carries u) =
      (neighborsAfter name before).map fun d => passed name d v := by
  have hm : m.carries u = true := (Message.carries_of_carried? hcarried).trans huv
  have hbefore : (outputs name [] before).flatten.filter (·.carries u) = [] := by
    refine filter_outputs_eq_nil fun first x last hsplit hx => ?_
    rw [hsplit, List.any_append, List.any_cons, hx] at hnew
    simp at hnew
  have hafter : (outputs name (before ++ [m]) after).flatten.filter (·.carries u) = [] :=
    filter_outputs_eq_nil fun first x last _ _ => by simp [hm]
  rw [hrequests, outputs_append, outputs, List.nil_append, List.flatten_append, List.flatten_cons,
    List.filter_append, List.filter_append, hbefore, hafter, filter_output,
    filter_forwarded hcarried huv hnew, List.nil_append, List.append_nil]

end Outputs

structure Told (name : String) (requests : List Message) (outs : List (List Message)) : Prop where
  outputs : outs = outputs name [] requests
  /-- The first request for a value is forwarded, as it was spelled there, to the neighbors of that
  moment, and no other request for an equal value is. -/
  forwards : ∀ u v before m after, requests = before ++ m :: after → m.carried? = some v →
    (v == u) = true → before.any (·.carries u) = false → outs.flatten.filter (·.carries u) =
      (neighborsAfter name before).map fun d => passed name d v
  /-- A value that nobody asks for is not forwarded. -/
  silence : ∀ u, requests.any (·.carries u) = false → outs.flatten.filter (·.carries u) = []
  /-- Nothing else is written that looks like a forward. -/
  alone : ∀ x ∈ outs.flatten, x.kind = "broadcast" → x.carried?.isSome
  /-- A value that has come before is confirmed. -/
  duplicates : ∀ before m after v, requests = before ++ m :: after → m.carried? = some v →
    before.any (·.carries v) = true →
    outs[before.length]? = some (answered name m Payload.Broadcast.broadcastOk)
  /-- The answer to a request for the values lists them. -/
  reads : ∀ before m after, requests = before ++ m :: after →
    (m.payload : Except RpcError Payload.Broadcast) = .ok .read →
    outs[before.length]? = some (answered name m (Payload.Broadcast.readOk (accepted before)))
  /-- Nothing else lists values. -/
  listed : ∀ x ∈ outs.flatten, x.kind = "read_ok" → ∃ before m after,
    requests = before ++ m :: after ∧
    (m.payload : Except RpcError Payload.Broadcast) = .ok .read ∧
    x ∈ answered name m (Payload.Broadcast.readOk (accepted before))

section Told

variable {name : String} {requests : List Message}

private theorem told_outputs (name : String) (requests : List Message) :
    Told name requests (outputs name [] requests) where
  outputs := rfl
  forwards u v before m after hrequests hcarried huv hnew :=
    filter_outputs hrequests hcarried huv hnew
  silence u hu := by
    refine filter_outputs_eq_nil fun before m after hrequests hm => ?_
    rw [hrequests, List.any_append, List.any_cons, hm] at hu
    simp at hu
  alone := by
    intro x hx hkind
    obtain ⟨before, m, after, -, hx⟩ := exists_of_mem_outputs hx
    obtain ⟨answer, houtput, hanswer⟩ := output_eq name ([] ++ before) m
    rw [houtput, List.mem_append] at hx
    rcases hx with hx | hx
    · exact absurd hkind (hanswer x hx).2
    · obtain ⟨d, v, rfl⟩ := eq_passed_of_mem hx
      rw [← forward_eq_passed, carried?_forward]
      rfl
  duplicates := by
    intro before m after v hrequests hcarried hseen
    rw [hrequests, getElem?_outputs, List.nil_append, output, Message.payload_of_carried? hcarried]
    simp only [hseen, if_true, List.append_nil]
  reads := by
    intro before m after hrequests hpayload
    rw [hrequests, getElem?_outputs, List.nil_append, output, hpayload]
  listed := by
    intro x hx hkind
    obtain ⟨before, m, after, hrequests, hx⟩ := exists_of_mem_outputs hx
    rw [List.nil_append] at hx
    have hno : ∀ {α : Type} [Payload α] {a : α} {tag : String} {rest : List (String × Json)},
        Payload.fields a = ("type", .string tag) :: rest → (∀ field ∈ rest, field.1 ≠ "type") →
        tag ≠ "read_ok" → x ∉ answered name m a := by
      intro α _ a tag rest hfields hrest hne hx
      rw [(kind_answered hx).1, kindOf_encode _ hfields hrest] at hkind
      exact hne hkind
    unfold Broadcast.output at hx
    cases hpayload : (m.payload : Except RpcError Payload.Broadcast) with
    | error e =>
      rw [hpayload] at hx
      exact absurd hx (hno rfl (by simp) (by decide))
    | ok p =>
      rw [hpayload] at hx
      cases p with
      | read => exact ⟨before, m, after, hrequests, hpayload, hx⟩
      | broadcast v =>
        rcases List.mem_append.mp hx with hx | hx
        · exact absurd hx (hno rfl (by simp) (by decide))
        · split at hx
          · cases hx
          · obtain ⟨d, -, rfl⟩ := List.mem_map.mp hx
            exact absurd hkind (by
              simp [passed, Message.kind, Json.field?, Dictionary.get?, Json.toString?])
      | topology table =>
        dsimp only at hx
        split at hx <;> exact absurd hx (hno rfl (by simp) (by decide))
      | broadcastOk => exact absurd hx (hno rfl (by simp) (by decide))
      | readOk values => exact absurd hx (hno rfl (by simp) (by decide))
      | topologyOk => exact absurd hx (hno rfl (by simp) (by decide))

/-- A node that takes its requests in turn comes to the end of each, and tells what the requests
before it make it tell. -/
theorem tells_in_turn {n : Node broadcast} {peers : List String} (hn : n.Initialised name peers)
    {lines : List (List UInt8)} (asks : List.Forall₂ Asks lines requests) :
    (∃ outs n', n.InTurn lines outs n') ∧ ∀ outs n', n.InTurn lines outs n' →
      Told name requests outs := by
  have hplaced : Placed n name := ⟨⟨peers, hn.identity⟩, hn.working, hn.reading⟩
  refine ⟨exists_inTurn hplaced hn.tasks asks, fun outs n' h => ?_⟩
  have hreflects : Reflects name [] n.shared := hn.shared ▸ Reflects.start name
  rw [outs_eq h hplaced hn.tasks hreflects asks]
  exact told_outputs name requests

end Told

section Fives

def named : Node broadcast :=
  { Node.start broadcast ⟨1000⟩ with identity := some ⟨"a", ["a", "b"]⟩ }

/-- Neighbors are assigned, one of them twice; the number five comes as an integer, then as a
decimal fraction; neighbors are withheld; the values are asked for. -/
def fives : List Payload.Broadcast :=
  [.topology [("a", ["b", "b"])], .broadcast ⟨.unsigned 5⟩,
    .broadcast ⟨.double ⟨false, ⟨4617315517961601024, by decide⟩⟩⟩, .topology [], .read]

def fiveRequests : List Message :=
  fives.map fun p => Payload.Plain.message p "c" "a" (some 7) none

private theorem fives_plain : ∀ p ∈ fives, ∃ tag ∈ kinds, Payload.Plain p tag := by
  have hdouble : (Number.double ⟨false, ⟨4617315517961601024, by decide⟩⟩).Survives := by
    have hread : Json.numberFrom '5' ['.', '0'] =
        .ok (.double ⟨false, ⟨4617315517961601024, by decide⟩⟩, []) := by decide +kernel
    exact Json.survives_of_numberFrom (by decide +kernel) (.inr rfl) hread
  have htable : (Json.object [("a", .ofStrings ["b", "b"])]).Readable :=
    ⟨by simp [Json.ofStrings, Json.Canonical, Json.CanonicalFields, Json.CanonicalItems,
        Dictionary.Sorted, Dictionary.keys],
      by simp [Json.ofStrings, Json.Survives, Json.SurvivesFields, Json.SurvivesItems],
      by decide⟩
  have hempty : (Json.object []).Readable :=
    ⟨by simp [Json.Canonical, Json.CanonicalFields, Dictionary.Sorted, Dictionary.keys],
      by simp [Json.Survives, Json.SurvivesFields], by decide⟩
  simp only [fives, List.forall_mem_cons]
  refine ⟨⟨"topology", by decide, _, rfl, ?_⟩, ⟨"broadcast", by decide, plain_broadcast ?_⟩,
    ⟨"broadcast", by decide, plain_broadcast hdouble⟩, ⟨"topology", by decide, _, rfl, ?_⟩,
    ⟨"read", by decide, _, rfl, by simp⟩, by simp⟩
  · simpa [stampNames] using htable
  · exact Json.survives_unsigned 5
  · simpa [stampNames] using hempty

theorem fives_told : named.Initialised "a" ["a", "b"] ∧
    List.Forall₂ Asks (fiveRequests.map fun m => Bench.Session.lineBytes m.encode) fiveRequests ∧
    ∀ outs n', named.InTurn (fiveRequests.map fun m => Bench.Session.lineBytes m.encode) outs n' →
      outs.map (·.map fun m => (m.kind, m.dest)) = [[("topology_ok", "c")],
        [("broadcast_ok", "c"), ("broadcast", "b"), ("broadcast", "b")], [("broadcast_ok", "c")],
        [("error", "c")], [("read_ok", "c")]] := by
  have hnamed : named.Initialised "a" ["a", "b"] :=
    ⟨rfl, rfl, rfl, rfl, rfl, rfl, by simp [named, Node.start]⟩
  have asks : List.Forall₂ Asks (fiveRequests.map fun m => Bench.Session.lineBytes m.encode)
      fiveRequests := by
    refine List.forall₂_map_left_iff.mpr (List.forall₂_same.mpr fun m hm => ?_)
    obtain ⟨p, hp, rfl⟩ := List.mem_map.mp hm
    obtain ⟨tag, htag, hplain⟩ := fives_plain p hp
    exact ⟨⟨_, ofBytes_encode hplain.legible⟩, hplain.inReplyTo?, hplain.kind ▸ htag⟩
  refine ⟨hnamed, asks, fun outs n' h => ?_⟩
  rw [((tells_in_turn hnamed asks).2 outs n' h).outputs]
  decide +kernel

end Fives

end ClusterNode.Workload.Broadcast
