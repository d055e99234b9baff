import ClusterNode.Payload.KeyValue
import ClusterNode.Proofs.Message.Body

/-!
Typed bodies: every payload is read back from the body that it is written into, however this is
stamped.
-/

set_option autoImplicit false

namespace ClusterNode

private theorem Number.toInt64?_ofInt64 (n : Int64) : (Number.ofInt64 n).toInt64? = some n := by
  unfold Number.ofInt64
  split
  · rfl
  · rename_i hn
    have hle : 0 ≤ n.toInt := by
      have hnlt : ¬ n.toInt < (0 : Int64).toInt := fun h => hn (Int64.lt_iff_toInt_lt.mpr h)
      simpa using hnlt
    have hlt : n.toUInt64.toNat < twoTo 63 := by
      have hnat : n.toUInt64.toNat = n.toBitVec.toNat := rfl
      have hint : n.toInt = n.toBitVec.toInt := rfl
      rw [hint, BitVec.toInt_eq_toNat_cond] at hle
      have hsize := n.toBitVec.isLt
      have hpower : twoTo 63 = 9223372036854775808 := by decide
      split at hle <;> omega
    simp only [Number.toInt64?, hlt, if_true]
    rfl

theorem Json.toInt64?_ofInt64 (n : Int64) : (Json.ofInt64 n).toInt64? = some n :=
  Number.toInt64?_ofInt64 n

namespace ErrorCode

theorem toInt64_ofInt64 (n : Int64) : (ofInt64 n).toInt64 = n := by
  rw [ofInt64]
  cases h : named.find? fun kind => kind.toInt64 = n with
  | none => rfl
  | some kind => simpa using List.find?_some h

theorem ofInt64_toInt64 {code : ErrorCode} (h : code ∈ named) : ofInt64 code.toInt64 = code := by
  revert code
  decide

end ErrorCode

namespace Payload

section Values

variable {β : Type} {decode : Decoder β} {write : β → Json}

private theorem any_ok (v : Json) : any v = .ok v := rfl

private theorem string_ok (s : String) : string (.string s) = .ok s := rfl

private theorem value_ok (v : BroadcastValue) : Broadcast.value v.toJson = .ok v := rfl

private theorem int64_ofInt64 (n : Int64) : int64 (.ofInt64 n) = .ok n := by
  have h := Number.toInt64?_ofInt64 n
  simp only [Json.ofInt64]
  cases hn : Number.ofInt64 n with
  | unsigned u =>
    simp only [hn, Number.toInt64?, Option.ite_none_right_eq_some, Option.some.injEq] at h
    simp only [int64, h.1, if_true, h.2]
  | negative u =>
    simp only [hn, Number.toInt64?, Option.some.injEq] at h
    rw [int64, h]
  | double x => simp [hn, Number.toInt64?] at h

private theorem list_map (hread : ∀ b, decode (write b) = .ok b) (bs : List β) :
    list decode (.array (bs.map write)) = .ok bs := by
  rw [list, List.mapM_map]
  calc bs.mapM (fun b => decode (write b)) = bs.mapM (fun b => (pure b : Except Mismatch β)) := by
        simp only [hread]; rfl
    _ = .ok bs := by rw [List.mapM_pure, List.map_id']; rfl

private theorem dictionary_map (hread : ∀ b, decode (write b) = .ok b) (table : Dictionary β) :
    dictionary decode (.object (table.map fun (key, b) => (key, write b))) = .ok table := by
  rw [dictionary, List.mapM_map]
  calc table.mapM (fun entry => (decode (write entry.2)).map fun b => (entry.1, b))
      = table.mapM (fun entry => (pure entry : Except Mismatch (String × β))) := by
        simp only [hread]; rfl
    _ = .ok table := by rw [List.mapM_pure, List.map_id']; rfl

private theorem list_strings (items : List String) : list string (.ofStrings items) = .ok items :=
  list_map string_ok items

end Values

section Fields

variable {α β γ : Type} [Payload α] {a : α} {b : β} {c : γ} {name name' : String} {v v' : Json}
  {msgId inReplyTo : Option UInt64} {decode : Decoder β} {decode' : Decoder γ}

def written (a : α) (name : String) : Option Json :=
  ((Payload.fields a).reverse.find? fun field => name = field.1).map (·.2)

theorem get?_body (hname : name ∉ stampNames) :
    Dictionary.get? name (stamped msgId inReplyTo (Dictionary.ofList (Payload.fields a))) =
      written a name := by
  rw [get?_stamped hname, Dictionary.get?_ofList, written]

private theorem present?_body (hname : name ∉ stampNames) (hwritten : written a name = some v)
    (hread : decode v = .ok b) :
    present? (stamped msgId inReplyTo (Dictionary.ofList (Payload.fields a))) name decode =
      .ok (some b) := by
  rw [present?, get?_body hname, hwritten]
  simp only [hread]
  rfl

private theorem unary_body (payload variant : String) (hname : name ∉ stampNames)
    (hwritten : written a name = some v)
    (hread : decode v = .ok b) :
    unary payload variant name decode
      (.named (stamped msgId inReplyTo (Dictionary.ofList (Payload.fields a)))) =
      .ok b := by
  rw [unary, present?_body hname hwritten hread]
  rfl

private theorem binary_body (payload variant : String) (hname : name ∉ stampNames)
    (hwritten : written a name = some v)
    (hread : decode v = .ok b) (hname' : name' ∉ stampNames) (hwritten' : written a name' = some v')
    (hread' : decode' v' = .ok c) :
    binary payload variant name name' decode decode'
      (.named (stamped msgId inReplyTo (Dictionary.ofList (Payload.fields a)))) = .ok (b, c) := by
  rw [binary, present?_body hname hwritten hread, present?_body hname' hwritten' hread']
  rfl

end Fields

namespace Init

def variantName : Init → String
  | .init _ _ => "Init"
  | .initOk => "InitOk"

private theorem toTagged (p : Init) : Tagged p p.tag where
  fields := by cases p <;> exact ⟨_, rfl, by simp [stampNames]⟩

private theorem tag_mem_tags (p : Init) : p.tag ∈ tags := by
  cases p <;> simp [tag, tags]

private theorem decode_body (p : Init) (msgId inReplyTo : Option UInt64) :
    decode (.object (stamped msgId inReplyTo (Dictionary.ofList (Payload.fields p)))) = .ok p := by
  rw [decode, p.toTagged.tagged_body p.tag_mem_tags]
  cases p with
  | init nodeId nodeIds =>
    show (binary _ _ _ _ _ _ (.named _) >>= fun v => Except.ok (Init.init v.1 v.2)) = _
    rw [binary_body _ _ (by decide) rfl (string_ok nodeId) (by decide) rfl (list_strings nodeIds)]
    rfl
  | initOk => rfl

end Init

namespace Broadcast

def variantName : Broadcast → String
  | .broadcast _ => "Broadcast"
  | .broadcastOk => "BroadcastOk"
  | .read => "Read"
  | .readOk _ => "ReadOk"
  | .topology _ => "Topology"
  | .topologyOk => "TopologyOk"

private theorem toTagged (p : Broadcast) : Tagged p p.tag where
  fields := by cases p <;> exact ⟨_, rfl, by simp [stampNames]⟩

private theorem tag_mem_tags (p : Broadcast) : p.tag ∈ tags := by
  cases p <;> simp [tag, tags]

theorem decode_body (p : Broadcast) (msgId inReplyTo : Option UInt64) :
    decode (.object (stamped msgId inReplyTo (Dictionary.ofList (Payload.fields p)))) = .ok p := by
  rw [decode, p.toTagged.tagged_body p.tag_mem_tags]
  cases p with
  | broadcast v =>
    show (unary _ _ _ _ (.named _) >>= fun v => Except.ok (Broadcast.broadcast v)) = _
    rw [unary_body _ _ (by decide) rfl (value_ok v)]
    rfl
  | readOk vs =>
    show (unary _ _ _ _ (.named _) >>= fun vs => Except.ok (Broadcast.readOk vs)) = _
    rw [unary_body _ _ (by decide) rfl (list_map value_ok vs)]
    rfl
  | topology table =>
    show (unary _ _ _ _ (.named _) >>= fun table => Except.ok (Broadcast.topology table)) = _
    rw [unary_body _ _ (by decide) rfl (dictionary_map list_strings table)]
    rfl
  | broadcastOk => rfl
  | read => rfl
  | topologyOk => rfl

end Broadcast

namespace Counter

def variantName : Counter → String
  | .add _ => "Add"
  | .addOk => "AddOk"
  | .read => "Read"
  | .readOk _ => "ReadOk"

private theorem toTagged (p : Counter) : Tagged p p.tag where
  fields := by cases p <;> exact ⟨_, rfl, by simp [stampNames]⟩

private theorem tag_mem_tags (p : Counter) : p.tag ∈ tags := by
  cases p <;> simp [tag, tags]

theorem decode_body (p : Counter) (msgId inReplyTo : Option UInt64) :
    decode (.object (stamped msgId inReplyTo (Dictionary.ofList (Payload.fields p)))) = .ok p := by
  rw [decode, p.toTagged.tagged_body p.tag_mem_tags]
  cases p with
  | add delta =>
    show (unary _ _ _ _ (.named _) >>= fun delta => Except.ok (Counter.add delta)) = _
    rw [unary_body _ _ (by decide) rfl (int64_ofInt64 delta)]
    rfl
  | readOk value =>
    show (unary _ _ _ _ (.named _) >>= fun value => Except.ok (Counter.readOk value)) = _
    rw [unary_body _ _ (by decide) rfl (int64_ofInt64 value)]
    rfl
  | addOk => rfl
  | read => rfl

end Counter

namespace KeyValue

def variantName : KeyValue → String
  | .read _ => "Read"
  | .readOk _ => "ReadOk"
  | .write _ _ => "Write"
  | .writeOk => "WriteOk"
  | .cas _ _ _ _ => "Cas"
  | .casOk => "CasOk"

private theorem toTagged (p : KeyValue) : Tagged p p.tag where
  fields := by
    cases p with
    | cas key expected new create => cases create <;> exact ⟨_, rfl, by simp [stampNames]⟩
    | _ => exact ⟨_, rfl, by simp [stampNames]⟩

private theorem tag_mem_tags (p : KeyValue) : p.tag ∈ tags := by
  cases p <;> simp [tag, tags]

theorem decode_body (p : KeyValue) (msgId inReplyTo : Option UInt64) :
    decode (.object (stamped msgId inReplyTo (Dictionary.ofList (Payload.fields p)))) = .ok p := by
  rw [decode, p.toTagged.tagged_body p.tag_mem_tags]
  cases p with
  | read key =>
    show (unary _ _ _ _ (.named _) >>= fun key => Except.ok (KeyValue.read key)) = _
    rw [unary_body _ _ (by decide) rfl (any_ok key)]
    rfl
  | readOk value =>
    show (unary _ _ _ _ (.named _) >>= fun value => Except.ok (KeyValue.readOk value)) = _
    rw [unary_body _ _ (by decide) rfl (any_ok value)]
    rfl
  | write key value =>
    show (binary _ _ _ _ _ _ (.named _) >>= fun v => Except.ok (KeyValue.write v.1 v.2)) = _
    rw [binary_body _ _ (by decide) rfl (any_ok key) (by decide) rfl (any_ok value)]
    rfl
  | cas key expected new create =>
    show decodeCas (.named _) = _
    rw [decodeCas, present?, present?, present?, present?, get?_body (by decide),
      get?_body (by decide),
      get?_body (by decide), get?_body (by decide)]
    cases create <;> rfl
  | writeOk => rfl
  | casOk => rfl

end KeyValue

namespace Generate

def variantName : Generate → String
  | .generate => "Generate"
  | .generateOk _ => "GenerateOk"

private theorem toTagged (p : Generate) : Tagged p p.tag where
  fields := by cases p <;> exact ⟨_, rfl, by simp [stampNames]⟩

private theorem tag_mem_tags (p : Generate) : p.tag ∈ tags := by
  cases p <;> simp [tag, tags]

theorem decode_body (p : Generate) (msgId inReplyTo : Option UInt64) :
    decode (.object (stamped msgId inReplyTo (Dictionary.ofList (Payload.fields p)))) = .ok p := by
  rw [decode, p.toTagged.tagged_body p.tag_mem_tags]
  cases p with
  | generate => rfl
  | generateOk id =>
    show (unary _ _ _ _ (.named _) >>= fun id => Except.ok (Generate.generateOk id)) = _
    rw [unary_body _ _ (by decide) rfl (string_ok id)]
    rfl

end Generate

end Payload

namespace RpcError

private theorem toTagged (e : RpcError) : Payload.Tagged e "error" where
  fields := ⟨_, rfl, by simp [stampNames]⟩

private theorem decode_body (e : RpcError) (msgId inReplyTo : Option UInt64) :
    decode (.object (stamped msgId inReplyTo (Dictionary.ofList (Payload.fields e)))) =
      .ok ⟨.ofInt64 e.code.toInt64, e.text⟩ := by
  rw [decode, Payload.present?_body (by decide) rfl (Payload.int64_ofInt64 e.code.toInt64),
    Payload.present?_body (by decide) rfl (Payload.string_ok e.text),
    Payload.present?_body (by decide) rfl (Payload.string_ok "error")]
  rfl

end RpcError

def snakeCase (name : String) : String :=
  match name.toList with
  | [] => ""
  | c :: rest =>
    String.ofList (c.toLower :: rest.flatMap fun c => if c.isUpper then ['_', c.toLower] else [c])

namespace Payload

private theorem Init.snakeCase_variantName (p : Init) : snakeCase p.variantName = p.tag := by
  cases p <;> simp only [variantName, tag] <;> decide +kernel

private theorem Broadcast.snakeCase_variantName (p : Broadcast) :
    snakeCase p.variantName = p.tag := by
  cases p <;> simp only [variantName, tag] <;> decide +kernel

private theorem Counter.snakeCase_variantName (p : Counter) : snakeCase p.variantName = p.tag := by
  cases p <;> simp only [variantName, tag] <;> decide +kernel

private theorem KeyValue.snakeCase_variantName (p : KeyValue) :
    snakeCase p.variantName = p.tag := by
  cases p <;> simp only [variantName, tag] <;> decide +kernel

private theorem Generate.snakeCase_variantName (p : Generate) :
    snakeCase p.variantName = p.tag := by
  cases p <;> simp only [variantName, tag] <;> decide +kernel

/-- A payload survives in a body, however this is stamped: the body is written and bears the tag and
the stamps, the payload and nothing else is read from it, and what is read is written as this body
again. -/
def Survives {α : Type} [Payload α] (Reads : Message → α → Prop) (tag : String) (a : α) : Prop :=
  ∀ (src dest : String) (msgId inReplyTo : Option UInt64), ∃ body,
    encodeBody (encode a) msgId inReplyTo = .ok body ∧
    (Message.mk src dest body).header = .ok ⟨tag, msgId, inReplyTo⟩ ∧
    Reads ⟨src, dest, body⟩ a ∧
    ∀ b, Reads ⟨src, dest, body⟩ b → b = a ∧ encodeBody (encode b) msgId inReplyTo = .ok body

private theorem Tagged.survives {α : Type} [Payload α] {Reads : Message → α → Prop} {tag : String}
    {a : α} (h : Tagged a tag)
    (reads : ∀ (src dest : String) (msgId inReplyTo : Option UInt64),
      Reads (Plain.message a src dest msgId inReplyTo) a)
    (functional : ∀ m b c, Reads m b → Reads m c → b = c) : Survives Reads tag a := by
  intro src dest msgId inReplyTo
  refine ⟨_, encodeBody_object, ?_, reads src dest msgId inReplyTo, fun b hb => ?_⟩
  · simp only [Message.header, h.header]
  · obtain rfl := functional _ _ _ hb (reads src dest msgId inReplyTo)
    exact ⟨rfl, encodeBody_object⟩

private theorem Tagged.survives_of_decode {α : Type} [Payload α] {tag : String} {a : α}
    (h : Tagged a tag)
    (decodes : ∀ msgId inReplyTo,
      Payload.decode (.object (stamped msgId inReplyTo (Dictionary.ofList (Payload.fields a)))) =
        .ok a) :
    Survives (fun m b => (m.payload : Except RpcError α) = .ok b) tag a :=
  h.survives (fun _ _ msgId inReplyTo => Message.payload_of_decode (decodes msgId inReplyTo))
    fun _ _ _ hb hc => Except.ok.inj (hb.symm.trans hc)

end Payload

theorem RpcError.rpcError?_message (e : RpcError) {src dest : String}
    {msgId inReplyTo : Option UInt64} :
    (Payload.Plain.message e src dest msgId inReplyTo).rpcError? =
      some ⟨.ofInt64 e.code.toInt64, e.text⟩ := by
  have hkind : (Payload.Plain.message e src dest msgId inReplyTo).kind = "error" := by
    show ((Dictionary.get? "type" _).bind Json.toString?).getD "" = "error"
    rw [get?_stamped (by decide), e.toTagged.get?_tag]
    rfl
  rw [Message.rpcError?, Message.isError, hkind, Payload.Plain.message, e.decode_body]
  rfl

/-- Every payload of the workloads and of stores, and every error with a code that is read from a
number, survives in a body under the name of its variant in snake case. -/
theorem payloads_survive_encoding :
    (∀ p : Payload.Init,
      Payload.Survives (fun m q => m.payload = .ok q) (snakeCase p.variantName) p) ∧
    (∀ p : Payload.Broadcast,
      Payload.Survives (fun m q => m.payload = .ok q) (snakeCase p.variantName) p) ∧
    (∀ p : Payload.Counter,
      Payload.Survives (fun m q => m.payload = .ok q) (snakeCase p.variantName) p) ∧
    (∀ p : Payload.KeyValue,
      Payload.Survives (fun m q => m.payload = .ok q) (snakeCase p.variantName) p) ∧
    (∀ p : Payload.Generate,
      Payload.Survives (fun m q => m.payload = .ok q) (snakeCase p.variantName) p) ∧
    ∀ (code : Int64) (text : String),
      Payload.Survives (fun m e => m.rpcError? = some e) "error"
        (⟨.ofInt64 code, text⟩ : RpcError) := by
  refine ⟨fun p => ?_, fun p => ?_, fun p => ?_, fun p => ?_, fun p => ?_, fun code text => ?_⟩
  · exact p.snakeCase_variantName ▸ p.toTagged.survives_of_decode p.decode_body
  · exact p.snakeCase_variantName ▸ p.toTagged.survives_of_decode p.decode_body
  · exact p.snakeCase_variantName ▸ p.toTagged.survives_of_decode p.decode_body
  · exact p.snakeCase_variantName ▸ p.toTagged.survives_of_decode p.decode_body
  · exact p.snakeCase_variantName ▸ p.toTagged.survives_of_decode p.decode_body
  · refine (RpcError.toTagged _).survives (fun src dest msgId inReplyTo => ?_) fun m b c hb hc => ?_
    · rw [RpcError.rpcError?_message, ErrorCode.toInt64_ofInt64]
    · exact Option.some.inj (hb.symm.trans hc)

end ClusterNode
