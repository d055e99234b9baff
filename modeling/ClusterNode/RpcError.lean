import ClusterNode.Payload.Fields

/-!
Errors that one participant of the cluster reports to another, and the body they are sent as.
-/

set_option autoImplicit false

namespace ClusterNode

/-- The kinds of reported errors; a code without a name is kept as it is. -/
inductive ErrorCode where
  | timeout
  | notSupported
  | temporarilyUnavailable
  | malformedRequest
  | crash
  | abort
  | keyDoesNotExist
  | keyAlreadyExists
  | preconditionFailed
  | txnConflict
  | other (code : Int64)
deriving DecidableEq, Repr

namespace ErrorCode

def toInt64 : ErrorCode → Int64
  | .timeout => 0
  | .notSupported => 10
  | .temporarilyUnavailable => 11
  | .malformedRequest => 12
  | .crash => 13
  | .abort => 14
  | .keyDoesNotExist => 20
  | .keyAlreadyExists => 21
  | .preconditionFailed => 22
  | .txnConflict => 30
  | .other code => code

def named : List ErrorCode :=
  [.timeout, .notSupported, .temporarilyUnavailable, .malformedRequest, .crash, .abort,
    .keyDoesNotExist, .keyAlreadyExists, .preconditionFailed, .txnConflict]

def ofInt64 (code : Int64) : ErrorCode :=
  (named.find? fun kind => kind.toInt64 = code).getD (.other code)

def isDefinite : ErrorCode → Bool
  | .timeout | .crash | .other _ => false
  | _ => true

def text : ErrorCode → String
  | .timeout => "Timeout"
  | .notSupported => "NotSupported"
  | .temporarilyUnavailable => "TemporarilyUnavailable"
  | .malformedRequest => "MalformedRequest"
  | .crash => "Crash"
  | .abort => "Abort"
  | .keyDoesNotExist => "KeyDoesNotExist"
  | .keyAlreadyExists => "KeyAlreadyExists"
  | .preconditionFailed => "PreconditionFailed"
  | .txnConflict => "TxnConflict"
  | .other code => "ErrorCode<" ++ String.ofList (Number.intText code.toInt) ++ ">"

end ErrorCode

structure RpcError where
  code : ErrorCode
  text : String
deriving DecidableEq, Repr

namespace RpcError

def message (e : RpcError) : String :=
  "RPCError(" ++ e.code.text ++ ", " ++ Text.quoted e.text ++ ")"

def fields (e : RpcError) : List (String × Json) :=
  [("type", .string "error"), ("code", .ofInt64 e.code.toInt64), ("text", .string e.text)]

/-- Reads an error body. Its tag may be any string and its text may be left out. -/
def decode : Json → Except Mismatch RpcError
  | .object fields => do
    let code? ← Payload.present? fields "code" Payload.int64
    let text? ← Payload.present? fields "text" Payload.string
    let tag? ← Payload.present? fields "type" Payload.string
    let _ ← Payload.required "type" tag?
    let code ← Payload.required "code" code?
    return ⟨.ofInt64 code, text?.getD ""⟩
  | .array items => do
    let (_, rest) ← Payload.next .errorBody 0 Payload.string items
    let (code, rest) ← Payload.next .errorBody 1 Payload.int64 rest
    match rest with
    | [] => return ⟨.ofInt64 code, ""⟩
    | v :: rest =>
      let text ← Payload.string v
      if rest.isEmpty then return ⟨.ofInt64 code, text⟩
      else .error (.wrongLength items.length .fewer)
  | v => Payload.wrongType .errorBody v

instance : Payload RpcError := ⟨fields, decode⟩

end RpcError

end ClusterNode
