import ClusterNode.Message.Basic
import ClusterNode.Payload.Broadcast
import ClusterNode.Payload.Counter
import ClusterNode.Payload.Generate
import ClusterNode.Payload.Init
import ClusterNode.Payload.KeyValue
import ClusterNode.Proofs.Basic
import ClusterNode.Proofs.Dictionary

/-!
Payloads: the tag under which a body is written and read.
-/

set_option autoImplicit false

namespace ClusterNode

/-- The tag of a body, empty if it has none. -/
def kindOf (body : Json) : String := ((body.field? "type").bind Json.toString?).getD ""

theorem kindOf_insert {name : String} (hname : name ≠ "type") (v : Json)
    (fields : Dictionary Json) :
    kindOf (.object (Dictionary.insert name v fields)) = kindOf (.object fields) := by
  simp only [kindOf, Json.field?, Dictionary.get?_insert_of_ne (Ne.symm hname)]

private theorem field?_encode {α : Type} [Payload α] (a : α) (name : String) :
    (Payload.encode a).field? name =
      ((Payload.fields a).reverse.find? fun field => name = field.1).map (·.2) :=
  Dictionary.get?_ofList name _

theorem kindOf_encode {α : Type} [Payload α] (a : α) {tag : String} {rest : List (String × Json)}
    (hfields : Payload.fields a = ("type", .string tag) :: rest)
    (hrest : ∀ field ∈ rest, field.1 ≠ "type") : kindOf (Payload.encode a) = tag := by
  have hnone : rest.reverse.find? (fun field => "type" = field.1) = none := by
    simpa [List.find?_eq_none] using fun field v hf => (hrest (field, v) hf).symm
  rw [kindOf, field?_encode, hfields, List.reverse_cons, List.find?_append, hnone]
  simp [Json.toString?]

private theorem Message.decode_of_payload {α : Type} [Payload α] {m : Message} {a : α}
    (h : (m.payload : Except RpcError α) = .ok a) : Payload.decode m.body = .ok a := by
  simp only [Message.payload] at h
  split at h
  · rename_i a' hdecode
    rw [hdecode, Except.ok.inj h]
  · cases h

theorem Message.payload_of_decode {α : Type} [Payload α] {m : Message} {a : α}
    (h : Payload.decode m.body = .ok a) : (m.payload : Except RpcError α) = .ok a := by
  simp only [Message.payload, h]

theorem Message.kind_of_payload {α : Type} [Payload α] {tagOf : α → String}
    (htag : ∀ {fields : Dictionary Json} {a : α}, Payload.decode (.object fields) = .ok a →
      tagOf a = kindOf (.object fields))
    {m : Message} {a : α} {fields : Dictionary Json} (h : (m.payload : Except RpcError α) = .ok a)
    (hbody : m.body = .object fields) : m.kind = tagOf a := by
  have hdecode := Message.decode_of_payload h
  rw [hbody] at hdecode
  rw [htag hdecode, ← hbody]
  rfl

namespace Payload

private theorem tagged_object {payload name : String} {known : List String}
    {fields : Dictionary Json}
    {rest : Rest} (h : tagged payload known (.object fields) = .ok (name, rest)) :
    kindOf (.object fields) = name ∧ name ∈ known ∧ rest = .named fields := by
  simp only [tagged] at h
  cases htag : Dictionary.get? "type" fields with
  | none =>
    rw [htag] at h
    cases h
  | some tag =>
    rw [htag] at h
    cases tag with
    | string s =>
      simp only [variant] at h
      split at h
      · rename_i hknown
        obtain ⟨rfl, rfl⟩ := Prod.mk.inj (Except.ok.inj h)
        exact ⟨by simp [kindOf, Json.field?, htag, Json.toString?], hknown, rfl⟩
      · cases h
    | _ => cases h

private theorem tag_of_read {α β : Type} {tagOf : α → String} {x : Except Mismatch β}
    {g : β → Except Mismatch α}
    {tag name : String} {a : α} (htag : tag = name) (hread : ∀ b a, g b = .ok a → tagOf a = name)
    (h : (x >>= g) = .ok a) : tagOf a = tag := by
  obtain ⟨b, -, h⟩ := exists_of_bind_eq_ok h
  rw [htag]
  exact hread b a h

namespace Broadcast

/-- The tag that a payload is written under. -/
def tag : Broadcast → String
  | .broadcast _ => "broadcast"
  | .broadcastOk => "broadcast_ok"
  | .read => "read"
  | .readOk _ => "read_ok"
  | .topology _ => "topology"
  | .topologyOk => "topology_ok"

theorem tag_of_decode {fields : Dictionary Json} {p : Broadcast}
    (h : decode (.object fields) = .ok p) :
    p.tag = kindOf (.object fields) := by
  obtain ⟨⟨name, rest⟩, htagged, h⟩ := exists_of_bind_eq_ok h
  obtain ⟨rfl, hknown, rfl⟩ := tagged_object htagged
  dsimp only at h
  split at h
  · exact tag_of_read ‹_› (by rintro _ _ ⟨⟩; rfl) h
  split at h
  · exact tag_of_read ‹_› (by rintro _ _ ⟨⟩; rfl) h
  split at h
  · exact tag_of_read ‹_› (by rintro _ _ ⟨⟩; rfl) h
  split at h
  · exact tag_of_read ‹_› (by rintro _ _ ⟨⟩; rfl) h
  split at h
  · exact tag_of_read ‹_› (by rintro _ _ ⟨⟩; rfl) h
  · have hlast : kindOf (.object fields) = "topology_ok" := by simp_all [tags]
    exact tag_of_read hlast (by rintro _ _ ⟨⟩; rfl) h

end Broadcast

namespace Counter

/-- The tag that a payload is written under. -/
def tag : Counter → String
  | .add _ => "add"
  | .addOk => "add_ok"
  | .read => "read"
  | .readOk _ => "read_ok"

theorem tag_of_decode {fields : Dictionary Json} {p : Counter}
    (h : decode (.object fields) = .ok p) :
    p.tag = kindOf (.object fields) := by
  obtain ⟨⟨name, rest⟩, htagged, h⟩ := exists_of_bind_eq_ok h
  obtain ⟨rfl, hknown, rfl⟩ := tagged_object htagged
  dsimp only at h
  split at h
  · exact tag_of_read ‹_› (by rintro _ _ ⟨⟩; rfl) h
  split at h
  · exact tag_of_read ‹_› (by rintro _ _ ⟨⟩; rfl) h
  split at h
  · exact tag_of_read ‹_› (by rintro _ _ ⟨⟩; rfl) h
  · have hlast : kindOf (.object fields) = "read_ok" := by simp_all [tags]
    exact tag_of_read hlast (by rintro _ _ ⟨⟩; rfl) h

end Counter

namespace Generate

/-- The tag that a payload is written under. -/
def tag : Generate → String
  | .generate => "generate"
  | .generateOk _ => "generate_ok"

theorem tag_of_decode {fields : Dictionary Json} {p : Generate}
    (h : decode (.object fields) = .ok p) :
    p.tag = kindOf (.object fields) := by
  obtain ⟨⟨name, rest⟩, htagged, h⟩ := exists_of_bind_eq_ok h
  obtain ⟨rfl, hknown, rfl⟩ := tagged_object htagged
  dsimp only at h
  split at h
  · exact tag_of_read ‹_› (by rintro _ _ ⟨⟩; rfl) h
  · have hlast : kindOf (.object fields) = "generate_ok" := by simp_all [tags]
    exact tag_of_read hlast (by rintro _ _ ⟨⟩; rfl) h

end Generate

namespace Init

/-- The tag that a payload is written under. -/
def tag : Init → String
  | .init _ _ => "init"
  | .initOk => "init_ok"

theorem tag_of_decode {fields : Dictionary Json} {p : Init} (h : decode (.object fields) = .ok p) :
    p.tag = kindOf (.object fields) := by
  obtain ⟨⟨name, rest⟩, htagged, h⟩ := exists_of_bind_eq_ok h
  obtain ⟨rfl, hknown, rfl⟩ := tagged_object htagged
  dsimp only at h
  split at h
  · exact tag_of_read ‹_› (by rintro _ _ ⟨⟩; rfl) h
  · have hlast : kindOf (.object fields) = "init_ok" := by simp_all [tags]
    exact tag_of_read hlast (by rintro _ _ ⟨⟩; rfl) h

end Init

namespace KeyValue

/-- The tag that a payload is written under. -/
def tag : KeyValue → String
  | .read _ => "read"
  | .readOk _ => "read_ok"
  | .write _ _ => "write"
  | .writeOk => "write_ok"
  | .cas _ _ _ _ => "cas"
  | .casOk => "cas_ok"

end KeyValue

end Payload

end ClusterNode
