import ClusterNode.Bench.Service
import ClusterNode.Proofs.Message.Typed
import ClusterNode.Proofs.Node.History
import ClusterNode.Store.Client

/-!
Clients and services of stores: each request and each answer is read as what it was written from, so
a client hears from a service what its store does.
-/

set_option autoImplicit false

namespace ClusterNode

namespace Payload.KeyValue

def values : KeyValue → List Json
  | .read key => [key]
  | .readOk value => [value]
  | .write key value => [key, value]
  | .cas key expected new _ => [key, expected, new]
  | .writeOk | .casOk => []

private theorem plain {p : KeyValue} (readable : ∀ v ∈ p.values, v.Readable) : Plain p p.tag where
  fields := by
    cases p with
    | cas key expected new create =>
      refine ⟨_, rfl, ?_⟩
      have hflag := Json.Readable.bool true
      cases create <;> simpa [stampNames, values, hflag] using readable
    | writeOk => exact ⟨_, rfl, by simp⟩
    | casOk => exact ⟨_, rfl, by simp⟩
    | _ => exact ⟨_, rfl, by simpa [stampNames, values] using readable⟩

end Payload.KeyValue

namespace RpcError

theorem plain (e : RpcError) : Payload.Plain e "error" where
  fields := ⟨_, rfl, by simp [stampNames, Json.Readable.ofInt64, Json.Readable.string]⟩

end RpcError

def KvStore.takes (store : KvStore) : StoreCall → Bool
  | .cas key expected new create => (store.swap key expected new create).isOk
  | _ => false

/-- What is left of an error when a client hears of it: the value that was found is not reported. -/
def StoreError.heard : StoreError → StoreError
  | .preconditionFailed key expected _ => .preconditionFailed key expected none
  | e => e

namespace KvClient

def message (c : StoreCall) (src dest : String) (id : UInt64) : Message :=
  Payload.Plain.message (request c) src dest (some id) none

section Message

variable {c : StoreCall} {src dest : String} {id : UInt64}

theorem plain_request (c : StoreCall) : Payload.Plain (request c) (request c).tag := by
  refine Payload.KeyValue.plain fun v hv => ?_
  cases c <;>
    simp only [request, readRequest, writeRequest, casRequest, Payload.KeyValue.values,
      List.mem_cons,
      List.not_mem_nil, or_false] at hv
  · exact hv ▸ .string _
  · rcases hv with rfl | rfl
    · exact .string _
    · exact .ofInt64 _
  · rcases hv with rfl | rfl | rfl
    · exact .string _
    · exact .ofInt64 _
    · exact .ofInt64 _

@[simp] theorem message_src : (message c src dest id).src = src := rfl

@[simp] theorem message_dest : (message c src dest id).dest = dest := rfl

private theorem payload_message (c : StoreCall) (src dest : String) (id : UInt64) :
    ((message c src dest id).payload : Except RpcError Payload.KeyValue) = .ok (request c) :=
  Message.payload_of_decode ((request c).decode_body _ _)

theorem kind_message : (message c src dest id).kind = (request c).tag :=
  (plain_request c).kind

private theorem msgId?_message : (message c src dest id).msgId? = some id :=
  (plain_request c).msgId?

private theorem request_injective : Function.Injective request := by
  have hinj : ∀ m n, Json.ofInt64 m = Json.ofInt64 n → m = n := by
    intro m n h
    have h' := congrArg Json.toInt64? h
    simpa only [Json.toInt64?_ofInt64, Option.some.injEq] using h'
  intro c c' h
  cases c <;> cases c' <;>
    simp only [request, readRequest, writeRequest, casRequest, Payload.KeyValue.read.injEq,
      Payload.KeyValue.write.injEq, Payload.KeyValue.cas.injEq, Json.string.injEq,
        reduceCtorEq] at h
  · rw [h]
  · rw [h.1, hinj _ _ h.2]
  · rw [h.1, hinj _ _ h.2.1, hinj _ _ h.2.2.1, h.2.2.2]

theorem call_of_message {c' : StoreCall} {src' dest' : String} {id' : UInt64}
    (h : message c src dest id = message c' src' dest' id') : c = c' := by
  have hpayload := payload_message c src dest id
  rw [h, payload_message] at hpayload
  exact request_injective (Except.ok.inj hpayload).symm

end Message

theorem answer_timeout (dest : String) (after : Duration) (c : StoreCall) :
    answer (.error (.timeout dest after)) c =
      .error (.rpc ⟨.timeout, (NodeError.timeout dest after).message⟩) := by
  cases c <;> rfl

/-- A reply that answers a request, and by which a client hears what a store has answered to its
call. -/
structure Tells (reply : Message) (id : UInt64) (c : StoreCall) (answer : StoreAnswer) : Prop where
  legible : reply.Legible
  number : reply.inReplyTo? = (some id).filter (· ≠ 0)
  heard : KvClient.answer (History.outcome reply) c = answer.mapError StoreError.heard

section Tells

variable {c : StoreCall} {src dest : String} {id : UInt64}

private theorem tells_of_payload {p : Payload.KeyValue} {answer : StoreAnswer}
    (readable : ∀ v ∈ p.values, v.Readable)
    (heard : ∀ reply : Message, (reply.payload : Except RpcError Payload.KeyValue) = .ok p →
      KvClient.answer (.ok reply) c = answer.mapError StoreError.heard) :
    Tells (Payload.Plain.message p src dest none (some id)) id c answer := by
  have hplain := Payload.KeyValue.plain readable
  refine ⟨hplain.legible, hplain.inReplyTo?, ?_⟩
  have hkind : (Payload.Plain.message p src dest none (some id)).kind = p.tag := hplain.kind
  have hgood : (Payload.Plain.message p src dest none (some id)).rpcError? = none := by
    have hne : p.tag ≠ "error" := by cases p <;> simp [Payload.KeyValue.tag]
    simp only [Message.rpcError?, Message.isError, hkind, hne, decide_false, if_false,
      Bool.false_eq_true]
  rw [History.outcome, hgood]
  exact heard _ (Message.payload_of_decode (p.decode_body _ _))

private theorem tells_of_error {e : RpcError} {answer : StoreAnswer}
    (hcode : e.code ∈ ErrorCode.named)
    (heard : KvClient.answer (.error (.rpc e)) c = answer.mapError StoreError.heard) :
    Tells (Payload.Plain.message e src dest none (some id)) id c answer := by
  refine ⟨e.plain.legible, e.plain.inReplyTo?, ?_⟩
  rw [History.outcome, e.rpcError?_message, ErrorCode.ofInt64_toInt64 hcode]
  exact heard

end Tells

end KvClient

namespace Bench.Service

open KvClient (message Tells tells_of_payload tells_of_error)

/-- Whether a request asks for a swap whose new value the store of a service takes. -/
def takes (s : Service) (request : Message) : Bool :=
  match (request.payload : Except RpcError Payload.KeyValue) with
  | .ok (.cas key expected new create) =>
    s.store.takes (.cas (keyOf key) (expected.toInt64?.getD 0) (new.toInt64?.getD 0) create)
  | _ => false

theorem takes_message (s : Service) (c : StoreCall) (src dest : String) (id : UInt64) :
    s.takes (message c src dest id) = s.store.takes c := by
  have hkey : ∀ key : String, keyOf (.string key) = key := fun _ => rfl
  rw [takes, KvClient.payload_message]
  cases c with
  | read key => rfl
  | write key value => rfl
  | cas key expected new create =>
    simp only [KvClient.request, KvClient.casRequest, hkey, Json.toInt64?_ofInt64, Option.getD_some]

private theorem serve_message (store : KvStore) (c : StoreCall) (name src dest : String)
    (id : UInt64) :
    ∃ fields, serve store (message c src dest id) =
        (.object fields, (store.perform c).2) ∧
      Tells ⟨name, src, .object (stamped none (some id) fields)⟩ id c (store.perform c).1 := by
  have hpayload := KvClient.payload_message c src dest id
  have hkey : ∀ key : String, keyOf (.string key) = key := fun _ => rfl
  cases c with
  | read key =>
    simp only [serve, hpayload, KvClient.request, KvClient.readRequest, hkey, KvStore.perform]
    cases Dictionary.get? key store with
    | some value =>
      refine ⟨_, rfl, tells_of_payload (p := .readOk (.ofInt64 value)) ?_ fun reply hreply => ?_⟩
      · simpa [Payload.KeyValue.values] using Json.Readable.ofInt64 value
      · simp only [KvClient.answer, KvClient.integerOf, KvClient.valueOf, KvClient.payloadOf,
          hreply, bind,
          Except.bind, pure, Except.pure, Json.toInt64?_ofInt64]
        rfl
    | none =>
      exact ⟨_, rfl, tells_of_error (e := ⟨.keyDoesNotExist, _⟩) (by simp [ErrorCode.named]) rfl⟩
  | write key value =>
    simp only [serve, hpayload, KvClient.request, KvClient.writeRequest, hkey, KvStore.perform,
      Json.toInt64?_ofInt64, Option.getD_some]
    refine ⟨_, rfl, tells_of_payload (p := .writeOk) (by simp [Payload.KeyValue.values])
      fun reply hreply => ?_⟩
    simp only [KvClient.answer, KvClient.writeResult, KvClient.payloadOf, hreply]
    rfl
  | cas key expected new create =>
    simp only [serve, hpayload, KvClient.request, KvClient.casRequest, hkey, KvStore.perform,
      Json.toInt64?_ofInt64, Option.getD_some]
    cases hswap : store.swap key expected new create with
    | ok store' =>
      refine ⟨_, rfl, tells_of_payload (p := .casOk) (by simp [Payload.KeyValue.values])
        fun reply hreply => ?_⟩
      simp only [KvClient.answer, KvClient.casResult, KvClient.payloadOf, hreply]
      rfl
    | error e =>
      simp only [KvStore.swap] at hswap
      split at hswap
      · split at hswap
        · cases hswap
        · cases hswap
          exact ⟨_, rfl, tells_of_error (e := ⟨.preconditionFailed, _⟩)
            (by simp [ErrorCode.named]) rfl⟩
      · split at hswap
        · cases hswap
        · cases hswap
          exact ⟨_, rfl, tells_of_error (e := ⟨.keyDoesNotExist, _⟩)
            (by simp [ErrorCode.named]) rfl⟩

theorem respond_message {s : Service} (hmode : s.mode = .serve) (c : StoreCall) (src dest : String)
    (id : UInt64) :
    ∃ reply, s.respond (message c src dest id) =
        (some reply, { s with store := (s.store.perform c).2 }) ∧
      reply.dest = src ∧ Tells reply id c (s.store.perform c).1 := by
  obtain ⟨fields, hserve, htells⟩ := serve_message s.store c s.name src dest id
  refine ⟨_, ?_, rfl, htells⟩
  have hinterfere : s.interfere (message c src dest id) = s := by simp only [interfere, hmode]
  simp only [respond, answer, hmode, hinterfere, hserve, KvClient.msgId?_message, Option.bind_some,
    encodeBody_object, Except.toOption, Option.map_some, KvClient.message_src]

end Bench.Service

end ClusterNode
