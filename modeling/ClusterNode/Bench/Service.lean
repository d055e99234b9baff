import ClusterNode.Payload.KeyValue
import ClusterNode.Store.Basic
import ClusterNode.Message.Envelope

/-!
A key-value service in the same program, which answers from a store in memory or misbehaves on
demand.
-/

set_option autoImplicit false

namespace ClusterNode.Bench

inductive ServiceMode where
  | serve
  | race (times : Nat) (amount : Int64)
  | fail (e : RpcError)
  | reply (body : Json)
  | silent

structure Service where
  name : String
  store : KvStore
  mode : ServiceMode

namespace Service

def keyOf (key : Json) : String :=
  key.toString?.getD ""

def serve (store : KvStore) (request : Message) : Json × KvStore :=
  let reported (e : RpcError) := Payload.encode e
  match (request.payload : Except RpcError Payload.KeyValue) with
  | .ok (.read key) =>
    match Dictionary.get? (keyOf key) store with
    | some value => (Payload.encode (Payload.KeyValue.readOk (.ofInt64 value)), store)
    | none => (reported ⟨.keyDoesNotExist, "key does not exist"⟩, store)
  | .ok (.write key value) =>
    -- What is no integer is stored as zero.
    (Payload.encode Payload.KeyValue.writeOk,
      Dictionary.insert (keyOf key) (value.toInt64?.getD 0) store)
  | .ok (.cas key expected new create) =>
    match store.swap (keyOf key) (expected.toInt64?.getD 0) (new.toInt64?.getD 0) create with
    | .ok store => (Payload.encode Payload.KeyValue.casOk, store)
    | .error e => (reported e.toRpcError, store)
  | _ => (reported ⟨.notSupported, "unsupported KV request"⟩, store)

def interfere (s : Service) (request : Message) : Service :=
  match s.mode, (request.payload : Except RpcError Payload.KeyValue) with
  | .race (times + 1) amount, .ok (.cas key _ _ _) =>
    { s with store := s.store.bump (keyOf key) amount, mode := .race times amount }
  | _, _ => s

def answer (s : Service) (request : Message) : Option Json × Service :=
  match s.mode with
  | .silent => (none, s)
  | .fail e => (some (Payload.encode e), s)
  | .reply body => (some body, s)
  | .serve | .race _ _ =>
    let s := s.interfere request
    let (body, store) := serve s.store request
    (some body, { s with store })

def respond (s : Service) (request : Message) : Option Message × Service :=
  let (body, s) := s.answer request
  let reply := body.bind fun body => (encodeBody body none request.msgId?).toOption
  (reply.map fun body => ⟨s.name, request.src, body⟩, s)

end Service

end ClusterNode.Bench
