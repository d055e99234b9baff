import ClusterNode.Proofs.Json.Reading
import ClusterNode.Proofs.Message.RoundTrip

/-!
Bodies that a node writes: a payload stamped with the number of the request that it is or answers.
Such a body is read back, with its stamps and with the fields of the payload.
-/

set_option autoImplicit false

namespace ClusterNode

namespace Json

/-- A value that may stand in a field of a body that is read back. -/
structure Readable (v : Json) : Prop where
  canonical : v.Canonical
  survives : v.Survives
  shallow : v.depth + 2 < depthLimit

theorem Readable.string (s : String) : (Json.string s).Readable :=
  ⟨trivial, trivial, by show 0 + 2 < 127; omega⟩

theorem Readable.bool (b : Bool) : (Json.bool b).Readable :=
  ⟨trivial, trivial, by show 0 + 2 < 127; omega⟩

theorem Readable.number {n : Number} (hn : n.Survives) : (Json.number n).Readable :=
  ⟨trivial, hn, by show 0 + 2 < 127; omega⟩

theorem Readable.ofInt64 (n : Int64) : (Json.ofInt64 n).Readable :=
  .number (Json.survives_ofInt64 n)

private theorem Readable.ofUInt64 (n : UInt64) : (Json.ofUInt64 n).Readable :=
  .number (Json.survives_unsigned n)

private theorem survivesFields_of_forall {fields : List (String × Json)}
    (h : ∀ field ∈ fields, field.2.Readable) : SurvivesFields fields := by
  induction fields with
  | nil => trivial
  | cons field fields ih =>
    obtain ⟨k, v⟩ := field
    exact ⟨(h (k, v) List.mem_cons_self).survives, ih fun f hf => h f (List.mem_cons_of_mem _ hf)⟩

end Json

private theorem Message.legible_of_fields {src dest : String} {fields : Dictionary Json}
    (sorted : Dictionary.Sorted fields) (readable : ∀ field ∈ fields, field.2.Readable)
    (header : ∃ h, Header.decode fields = .ok h) :
    (⟨src, dest, .object fields⟩ : Message).Legible where
  canonical := ⟨sorted, Json.canonicalFields_iff.mpr fun field hf => (readable field hf).canonical⟩
  survives := Json.survivesFields_of_forall readable
  shallow := by
    have hdepth : Json.depthFields fields ≤ Json.depthLimit - 3 := by
      refine Json.depthFields_le_iff.mpr fun field hf => ?_
      have := (readable field hf).shallow
      omega
    show Json.depthFields fields + 1 < 127
    exact Nat.lt_of_le_of_lt (Nat.succ_le_succ hdepth) (by decide)
  header := by
    obtain ⟨h, hh⟩ := header
    exact ⟨h, by simp only [Message.header, hh]⟩

def stampNames : List String := ["msg_id", "in_reply_to"]

def stamped (msgId inReplyTo : Option UInt64) (fields : Dictionary Json) : Dictionary Json :=
  let stamp (name : String) (id : Option UInt64) (fields : Dictionary Json) : Dictionary Json :=
    match id with
    | some id => Dictionary.insert name (.ofUInt64 id) fields
    | none => fields
  stamp "in_reply_to" inReplyTo (stamp "msg_id" msgId fields)

section Stamped

variable {msgId inReplyTo : Option UInt64} {fields : Dictionary Json}

theorem encodeBody_object : encodeBody (.object fields) msgId inReplyTo =
    .ok (.object (stamped msgId inReplyTo fields)) := rfl

theorem get?_stamped {name : String} (hname : name ∉ stampNames) :
    Dictionary.get? name (stamped msgId inReplyTo fields) = Dictionary.get? name fields := by
  obtain ⟨hid, hreply⟩ : name ≠ "msg_id" ∧ name ≠ "in_reply_to" := by simpa [stampNames] using hname
  cases msgId <;> cases inReplyTo <;>
    simp [stamped, Dictionary.get?_insert_of_ne hid, Dictionary.get?_insert_of_ne hreply]

private theorem get?_msgId_stamped (h : Dictionary.get? "msg_id" fields = none) :
    Dictionary.get? "msg_id" (stamped msgId inReplyTo fields) = msgId.map Json.ofUInt64 := by
  have hne : "msg_id" ≠ "in_reply_to" := by decide
  cases msgId <;> cases inReplyTo <;>
    simp [stamped, Dictionary.get?_insert_of_ne hne, Dictionary.get?_insert_self, h]

theorem get?_inReplyTo_stamped (h : Dictionary.get? "in_reply_to" fields = none) :
    Dictionary.get? "in_reply_to" (stamped msgId inReplyTo fields) =
      inReplyTo.map Json.ofUInt64 := by
  have hne : "in_reply_to" ≠ "msg_id" := by decide
  cases msgId <;> cases inReplyTo <;>
    simp [stamped, Dictionary.get?_insert_of_ne hne, Dictionary.get?_insert_self, h]

private theorem sorted_stamped (h : Dictionary.Sorted fields) :
    Dictionary.Sorted (stamped msgId inReplyTo fields) := by
  cases msgId <;> cases inReplyTo
  · exact h
  · exact h.insert _ _
  · exact h.insert _ _
  · exact (h.insert _ _).insert _ _

private theorem readable_stamped (h : ∀ field ∈ fields, field.2.Readable) :
    ∀ field ∈ stamped msgId inReplyTo fields, field.2.Readable := by
  have hinsert : ∀ {name : String} {id : UInt64} {d : Dictionary Json},
      (∀ field ∈ d, field.2.Readable) →
        ∀ field ∈ Dictionary.insert name (.ofUInt64 id) d, field.2.Readable := by
    intro name id d hd field hfield
    rcases Dictionary.mem_insert hfield with rfl | hfield
    · exact .ofUInt64 id
    · exact hd field hfield
  cases msgId <;> cases inReplyTo
  · exact h
  · exact hinsert h
  · exact hinsert h
  · exact hinsert (hinsert h)

end Stamped

/-- A payload that begins with its tag, and whose other fields leave the header alone. -/
structure Payload.Tagged {α : Type} [Payload α] (a : α) (tag : String) : Prop where
  fields : ∃ rest, Payload.fields a = ("type", .string tag) :: rest ∧
    ∀ field ∈ rest, field.1 ∉ "type" :: stampNames

namespace Payload.Tagged

variable {α : Type} [Payload α] {a : α} {tag : String} {msgId inReplyTo : Option UInt64}

theorem get?_tag (h : Tagged a tag) :
    Dictionary.get? "type" (Dictionary.ofList (Payload.fields a)) = some (.string tag) := by
  obtain ⟨rest, hfields, hrest⟩ := h.fields
  have hnone : rest.reverse.find? (fun field => "type" = field.1) = none := by
    simp only [List.find?_eq_none, List.mem_reverse, decide_eq_true_eq]
    intro field hf heq
    exact hrest field hf (heq ▸ List.mem_cons_self)
  rw [Dictionary.get?_ofList, hfields, List.reverse_cons, List.find?_append, hnone]
  rfl

theorem get?_stamp (h : Tagged a tag) {name : String} (hname : name ∈ stampNames) :
    Dictionary.get? name (Dictionary.ofList (Payload.fields a)) = none := by
  obtain ⟨rest, hfields, hrest⟩ := h.fields
  rw [Dictionary.get?_ofList, hfields]
  have hnone : (("type", Json.string tag) :: rest).reverse.find? (fun field => name = field.1) =
      none := by
    simp only [List.find?_eq_none, List.mem_reverse, decide_eq_true_eq]
    intro field hf heq
    rcases List.mem_cons.mp hf with rfl | hf
    · rw [heq] at hname
      exact absurd hname (by decide : "type" ∉ stampNames)
    · exact hrest field hf (List.mem_cons_of_mem _ (heq ▸ hname))
  rw [hnone]
  rfl

theorem header (h : Tagged a tag) :
    Header.decode (stamped msgId inReplyTo (Dictionary.ofList (Payload.fields a))) =
      .ok ⟨tag, msgId, inReplyTo⟩ := by
  have htag : "type" ∉ stampNames := by decide
  rw [Header.decode, Payload.present?, Payload.present?, Payload.present?,
    get?_msgId_stamped (h.get?_stamp (by decide)),
      get?_inReplyTo_stamped (h.get?_stamp (by decide)),
    get?_stamped htag, h.get?_tag]
  cases msgId <;> cases inReplyTo <;> rfl

theorem tagged_body (h : Tagged a tag) {known : List String} (hknown : tag ∈ known)
    (payload : String) :
    tagged payload known
      (.object (stamped msgId inReplyTo (Dictionary.ofList (Payload.fields a)))) =
      .ok (tag, .named (stamped msgId inReplyTo (Dictionary.ofList (Payload.fields a)))) := by
  have htag : Dictionary.get? "type"
    (stamped msgId inReplyTo (Dictionary.ofList (Payload.fields a))) =
      some (.string tag) := by
    rw [get?_stamped (by decide), h.get?_tag]
  simp only [tagged, htag, variant, hknown, if_true]
  rfl

end Payload.Tagged

/-- A payload whose body is read back: it begins with its tag, and its other fields leave the header
alone and can be read. -/
structure Payload.Plain {α : Type} [Payload α] (a : α) (tag : String) : Prop where
  fields : ∃ rest, Payload.fields a = ("type", .string tag) :: rest ∧
    ∀ field ∈ rest, field.1 ∉ "type" :: stampNames ∧ field.2.Readable

namespace Payload.Plain

variable {α : Type} [Payload α] {a : α} {tag src dest : String} {msgId inReplyTo : Option UInt64}

def message (a : α) (src dest : String) (msgId inReplyTo : Option UInt64) : Message :=
  ⟨src, dest, .object (stamped msgId inReplyTo (Dictionary.ofList (Payload.fields a)))⟩

theorem toTagged (h : Plain a tag) : Tagged a tag where
  fields := h.fields.imp fun _ hrest => ⟨hrest.1, fun field hf => (hrest.2 field hf).1⟩

private theorem header (h : Plain a tag) :
    Header.decode (stamped msgId inReplyTo (Dictionary.ofList (Payload.fields a))) =
      .ok ⟨tag, msgId, inReplyTo⟩ :=
  h.toTagged.header

theorem legible (h : Plain a tag) : (message a src dest msgId inReplyTo).Legible := by
  refine Message.legible_of_fields (sorted_stamped (.ofList _)) (readable_stamped ?_) ⟨_, h.header⟩
  intro field hfield
  obtain ⟨rest, hfields, hrest⟩ := h.fields
  have hmem := Dictionary.mem_ofList hfield
  rw [hfields] at hmem
  rcases List.mem_cons.mp hmem with rfl | hmem
  · exact .string tag
  · exact (hrest field hmem).2

theorem kind (h : Plain a tag) : (message a src dest msgId inReplyTo).kind = tag := by
  show ((Dictionary.get? "type" _).bind Json.toString?).getD "" = tag
  rw [get?_stamped (by decide), h.toTagged.get?_tag]
  rfl

theorem msgId? (h : Plain a tag) : (message a src dest msgId inReplyTo).msgId? = msgId := by
  show (Dictionary.get? "msg_id" _).bind Json.toUInt64? = msgId
  rw [get?_msgId_stamped (h.toTagged.get?_stamp (by decide))]
  cases msgId <;> rfl

theorem inReplyTo? (h : Plain a tag) :
    (message a src dest msgId inReplyTo).inReplyTo? = inReplyTo.filter (· ≠ 0) := by
  show ((Dictionary.get? "in_reply_to" _).bind Json.toUInt64?).filter (· ≠ 0) = _
  rw [get?_inReplyTo_stamped (h.toTagged.get?_stamp (by decide))]
  cases inReplyTo <;> rfl

end Payload.Plain

end ClusterNode
