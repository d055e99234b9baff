import ClusterNode.Proofs.Node.Answers
import ClusterNode.Workload.Broadcast
import ClusterNode.Workload.Counter
import ClusterNode.Workload.UniqueIds

/-!
The workloads answer each request once: a job either answers and is then done with its request, or
fails without having answered.
-/

set_option autoImplicit false

namespace ClusterNode

private theorem plain_encode {w : Workload} (d : Duty w) {α : Type} [Payload α] (a : α)
    {tag : String}
    {rest : List (String × Json)} (hfields : Payload.fields a = ("type", .string tag) :: rest)
    (htype : ∀ field ∈ rest, field.1 ≠ "type") (hreply : ∀ field ∈ rest, field.1 ≠ "in_reply_to")
    (htag : tag ∈ d.kinds) : d.Plain (Payload.encode a) := by
  refine ⟨_, rfl, ?_, ?_⟩
  · rw [Dictionary.get?_ofList, hfields]
    have hnone : rest.reverse.find? (fun field => "in_reply_to" = field.1) = none := by
      simpa [List.find?_eq_none] using fun field v hf => (hreply (field, v) hf).symm
    rw [List.reverse_cons, List.find?_append, hnone]
    simp
  · have hkind := kindOf_encode a hfields htype
    rw [hkind]
    exact htag

theorem handler_of_kinds {α : Type} {kinds : List String} {kind : String} {handler a : α}
    (h : Registry.get? ⟨Dictionary.ofList (kinds.map fun kind => (kind, handler))⟩ kind = some a) :
    a = handler := by
  rw [Registry.get?, Dictionary.get?_ofList] at h
  obtain ⟨entry, hentry, rfl⟩ := Option.map_eq_some_iff.mp h
  have hmem := List.mem_of_find?_eq_some hentry
  obtain ⟨k, -, rfl⟩ := List.mem_map.mp (List.mem_reverse.mp hmem)
  rfl

namespace Workload

namespace Broadcast

def duty : Duty broadcast where
  owes
    | .forwarding _ _ | .ending (.ok ()) => false
    | _ => true
  Fits
    | m, .received request => request = m
    | m, .recorded _ _ | m, .offered _ _ => m.kind = "broadcast"
    | m, .answering payload => kindOf (Payload.encode payload) = m.kind ++ "_ok"
    | _, .forwarding _ _ | _, .ending _ => True
  kinds := ["broadcast"]

private theorem begin_allowed (view : View) (values : Values) {m : Message}
    {fields : Dictionary Json}
    (hbody : m.body = .object fields) : duty.Allows m true (begin view values m).1 := by
  have hkind : ∀ {p : Payload.Broadcast}, (m.payload : Except RpcError _) = .ok p →
      m.kind = p.tag :=
    fun hp => Message.kind_of_payload Payload.Broadcast.tag_of_decode hp hbody
  rw [begin]
  split
  · rfl
  · rename_i value hp
    exact ⟨hkind hp, rfl⟩
  · rename_i hp
    have htag : m.kind = "read" := hkind hp
    refine ⟨?_, rfl⟩
    show kindOf (Payload.encode _) = m.kind ++ "_ok"
    rw [kindOf_encode (Payload.Broadcast.readOk values.snapshot) rfl (by simp), htag]
    decide
  · rename_i topology hp
    have htag : m.kind = "topology" := hkind hp
    split
    · rfl
    · split
      · rfl
      · refine ⟨?_, rfl⟩
        show kindOf (Payload.encode _) = m.kind ++ "_ok"
        rw [kindOf_encode Payload.Broadcast.topologyOk rfl (by simp), htag]
        decide
  · rfl

theorem duty_kept : duty.Kept where
  handler := by
    intro m fields handler _ hhandler
    rw [handler_of_kinds hhandler]
    exact ⟨rfl, rfl⟩
  init := by decide
  step := by
    intro m fields job view shared hbody hfits
    cases job with
    | received request =>
      obtain rfl : request = m := hfits
      exact begin_allowed view shared hbody
    | recorded value fresh => exact ⟨hfits, rfl⟩
    | offered value acceptance =>
      refine ⟨rfl, ⟨_, rfl, ?_⟩, ?_, ?_⟩
      · have hkind : m.kind = "broadcast" := hfits
        have htag := kindOf_encode Payload.Broadcast.broadcastOk rfl (by simp)
        rw [htag, hkind]
        decide
      · cases acceptance <;> trivial
      · cases acceptance <;> rfl
    | forwarding value neighbors =>
      cases neighbors with
      | nil => rfl
      | cons neighbor rest =>
        refine ⟨plain_encode duty (Payload.Broadcast.broadcast value) rfl (by simp) (by simp)
          (by simp [duty]), fun r => ⟨trivial, rfl⟩⟩
    | answering payload =>
      refine ⟨rfl, ⟨_, rfl, hfits⟩, trivial, rfl⟩
    | ending result =>
      cases result <;> rfl

end Broadcast

namespace UniqueIds

def duty : Duty uniqueIds where
  owes
    | .ending (.ok ()) => false
    | _ => true
  Fits
    | m, .received request => request = m
    | m, .numbered _ _ | m, .answering _ => m.kind = "generate"
    | _, .ending _ => True
  kinds := []

theorem duty_kept : duty.Kept where
  handler := by
    intro m fields handler _ hhandler
    rw [handler_of_kinds hhandler]
    exact ⟨rfl, rfl⟩
  init := by decide
  step := by
    intro m fields job view shared hbody hfits
    cases job with
    | received request =>
      obtain rfl : request = m := hfits
      show duty.Allows request true (begin view shared request).1
      simp only [begin]
      split
      · rfl
      · rename_i hp
        split
        · rfl
        · have hkind : request.kind = "generate" :=
            Message.kind_of_payload Payload.Generate.tag_of_decode hp hbody
          exact ⟨hkind, rfl⟩
      · rfl
    | numbered node sequence => exact fun s => ⟨hfits, rfl⟩
    | answering id =>
      refine ⟨rfl, ⟨_, rfl, ?_⟩, trivial, rfl⟩
      have hkind : m.kind = "generate" := hfits
      have htag := kindOf_encode (Payload.Generate.generateOk id) rfl (by simp)
      rw [htag, hkind]
      decide
    | ending result => cases result <;> rfl

end UniqueIds

namespace Counter

variable {settings : Settings}

/-- A job owes an answer until its routine is done and the result is told. -/
def duty (settings : Settings) : Duty (counter settings) where
  owes
    | .ending (.ok ()) => false
    | _ => true
  Fits
    | m, .received request => request = m
    | m, .adding _ _ => m.kind = "add"
    | m, .summing _ => m.kind = "read"
    | _, .ending _ => True
  kinds := ["read", "cas"]

private theorem plain_request {c : StoreCall} (hc : ∀ key value, c ≠ .write key value) :
    (duty settings).Plain (Payload.encode (KvClient.request c)) := by
  cases c with
  | read key =>
    exact plain_encode (duty settings) (KvClient.request (.read key)) rfl (by simp) (by simp)
      (by simp [duty])
  | write key value => exact absurd rfl (hc key value)
  | cas key expected new create =>
    exact plain_encode (duty settings) (KvClient.request (.cas key expected new create)) rfl
      (by cases create <;> simp) (by cases create <;> simp) (by simp [duty])

private theorem begin_allowed (view : View) {m : Message} {fields : Dictionary Json}
    (hbody : m.body = .object fields) : (duty settings).Allows m true (begin settings view m) := by
  have hkind : ∀ {p : Payload.Counter}, (m.payload : Except RpcError _) = .ok p → m.kind = p.tag :=
    fun hp => Message.kind_of_payload Payload.Counter.tag_of_decode hp hbody
  cases hp : (m.payload : Except RpcError Payload.Counter) with
  | error e =>
    rw [begin, hp]
    rfl
  | ok p =>
    have htag := hkind hp
    rw [begin, hp]
    cases p with
    | add delta =>
      cases view.identify with
      | error e => rfl
      | ok identity => exact ⟨htag, rfl⟩
    | read =>
      cases view.identify with
      | error e => rfl
      | ok identity => exact ⟨htag, rfl⟩
    | _ => rfl

private theorem carryOut_done_allowed {σ : Type} (view : View) (resume : σ → Job)
    {answer : Int64 → Payload.Counter} {m : Message}
    (hanswer : ∀ n, kindOf (Payload.encode (answer n)) = m.kind ++ "_ok")
    (result : Except StoreError Int64) :
    (duty settings).Allows m true (carryOut settings view resume answer (.done result)) := by
  cases result with
  | error e => rfl
  | ok n => exact ⟨rfl, ⟨_, rfl, hanswer n⟩, trivial, rfl⟩

theorem duty_kept (settings : Settings) : (duty settings).Kept where
  handler := by
    intro m fields handler _ hhandler
    rw [handler_of_kinds hhandler]
    exact ⟨rfl, rfl⟩
  init := by
    rw [Registry.get?]
    show Dictionary.get? "init" (Dictionary.ofList (kinds.map fun kind => (kind, Job.received))) =
      none
    rw [Dictionary.get?_ofList]
    simp [kinds]
  step := by
    intro m fields job view shared hbody hfits
    cases job with
    | received request =>
      obtain rfl : request = m := hfits
      exact begin_allowed view hbody
    | adding add state =>
      have hkind : m.kind = "add" := hfits
      have hanswer : ∀ _ : Int64,
          kindOf (Payload.encode Payload.Counter.addOk) = m.kind ++ "_ok" := by
        intro _
        rw [kindOf_encode Payload.Counter.addOk rfl (by simp), hkind]
        decide
      cases state with
      | reading attempt => exact ⟨rfl, plain_request (by simp), fun r => ⟨hfits, rfl⟩⟩
      | swapping attempt current next => exact ⟨rfl, plain_request (by simp), fun r => ⟨hfits, rfl⟩⟩
      | pausing attempt => exact ⟨hfits, rfl⟩
      | done result => exact carryOut_done_allowed view (.adding add) hanswer result
    | summing state =>
      have hkind : m.kind = "read" := hfits
      have hanswer : ∀ n, kindOf (Payload.encode (Payload.Counter.readOk n)) = m.kind ++ "_ok" := by
        intro n
        rw [kindOf_encode (Payload.Counter.readOk n) rfl (by simp), hkind]
        decide
      cases state with
      | summing total nodes =>
        cases nodes with
        | nil => exact carryOut_done_allowed view Job.summing hanswer (.ok total)
        | cons node rest => exact ⟨rfl, plain_request (by simp), fun r => ⟨hfits, rfl⟩⟩
      | done result => exact carryOut_done_allowed view Job.summing hanswer result
    | ending result => cases result <;> rfl

end Counter

/-- The workloads that serve clients, with the kinds of the messages that they send unasked:
forwards of values, and requests to the service that keeps the store. -/
inductive Serves : Workload → List String → Prop
  | broadcast : Serves broadcast ["broadcast"]
  | counter (settings : Counter.Settings) : Serves (counter settings) ["read", "cas"]
  | uniqueIds : Serves uniqueIds []

/-- In every run of a node over its input that ends well, each request that bears a number is
answered once, whatever the order of the steps and whatever replies come or do not come. -/
theorem answers_each_request_once {w : Workload} {kinds : List String} (hw : Serves w kinds)
    (rpcTimeout : Duration) (events : List (Node.Event w)) (input : ∀ e ∈ events, e.FromInput)
    (ok : ((Node.start w rpcTimeout).run events).verdict = some (.ok ())) :
    Node.AnsweredOnce kinds ((Node.start w rpcTimeout).run events).written
      ((Node.start w rpcTimeout).requests events) := by
  cases hw with
  | broadcast => exact Node.answeredOnce_of_kept Broadcast.duty_kept rpcTimeout input ok
  | counter settings =>
    exact Node.answeredOnce_of_kept (Counter.duty_kept settings) rpcTimeout input ok
  | uniqueIds => exact Node.answeredOnce_of_kept UniqueIds.duty_kept rpcTimeout input ok

/-- A run in which a node is given its identity, gives one id, and its input ends. -/
def givingOneId : List (Node.Event uniqueIds) :=
  let init := "\x7b\"src\":\"c\",\"dest\":\"n\",\"body\":\x7b\"type\":\"init\",\"msg_id\":0,"
    ++ "\"node_id\":\"n\",\"node_ids\":[\"n\"]\x7d\x7d"
  let generate := "\x7b\"src\":\"c\",\"dest\":\"n\",\"body\":"
    ++ "\x7b\"type\":\"generate\",\"msg_id\":1\x7d\x7d"
  .line init.toUTF8.toList :: List.replicate 4 (.step 0 ⟨0, 0⟩ 0)
    ++ .line generate.toUTF8.toList :: List.replicate 6 (.step 0 ⟨0, 0⟩ 1) ++ [.settle]

theorem givingOneId_answers :
    (∀ e ∈ givingOneId, e.FromInput) ∧
      ((Node.start uniqueIds ⟨1000⟩).run givingOneId).verdict = some (.ok ()) ∧
      Node.AnsweredOnce [] ((Node.start uniqueIds ⟨1000⟩).run givingOneId).written
        ((Node.start uniqueIds ⟨1000⟩).requests givingOneId) :=
  have input : ∀ e ∈ givingOneId, e.FromInput := by simp [givingOneId, Node.Event.FromInput]
  have ok : ((Node.start uniqueIds ⟨1000⟩).run givingOneId).verdict = some (.ok ()) := by
    decide +kernel
  ⟨input, ok, answers_each_request_once .uniqueIds ⟨1000⟩ givingOneId input ok⟩

end Workload

end ClusterNode
