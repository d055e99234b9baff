import ClusterNode.RpcError

/-!
Messages: a sender, a receiver and a body. A body is an object with a tag and, where it is a request
or an answer, the number of the request.
-/

set_option autoImplicit false

namespace ClusterNode

structure Message where
  src : String
  dest : String
  body : Json

structure Header where
  kind : String
  msgId : Option UInt64
  inReplyTo : Option UInt64
deriving DecidableEq

def Json.kindName : Json → String
  | .null => "null"
  | .bool _ => "bool"
  | .number _ => "number"
  | .string _ => "string"
  | .array _ => "array"
  | .object _ => "object"

namespace Header

/-- Reads the shared fields of an object. A missing tag is empty; numbers may be missing or null. -/
def decode (fields : Dictionary Json) : Except Mismatch Header := do
  let inReplyTo? ← Payload.present? fields "in_reply_to" (Payload.nullable Payload.uint64)
  let msgId? ← Payload.present? fields "msg_id" (Payload.nullable Payload.uint64)
  let kind? ← Payload.present? fields "type" Payload.string
  return ⟨kind?.getD "", msgId?.join, inReplyTo?.join⟩

def fields (h : Header) : List (String × Json) :=
  ("type", .string h.kind)
    :: ((h.msgId.map fun id => ("msg_id", Json.ofUInt64 id)).toList
      ++ (h.inReplyTo.map fun id => ("in_reply_to", Json.ofUInt64 id)).toList)

end Header

namespace Message

def kind (m : Message) : String :=
  ((m.body.field? "type").bind Json.toString?).getD ""

def msgId? (m : Message) : Option UInt64 :=
  (m.body.field? "msg_id").bind Json.toUInt64?

def inReplyTo? (m : Message) : Option UInt64 :=
  ((m.body.field? "in_reply_to").bind Json.toUInt64?).filter (· ≠ 0)

def isError (m : Message) : Bool :=
  m.kind = "error"

def payload {α : Type} [Payload α] (m : Message) : Except RpcError α :=
  match Payload.decode m.body with
  | .ok a => .ok a
  | .error e => .error ⟨.malformedRequest, "invalid " ++ m.kind ++ " body: " ++ e.message⟩

def rpcError? (m : Message) : Option RpcError :=
  if m.isError then
    match RpcError.decode m.body with
    | .ok e => some e
    | .error e => some ⟨.crash, "unreadable error body: " ++ e.message⟩
  else none

end Message

end ClusterNode
