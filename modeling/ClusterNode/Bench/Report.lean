import ClusterNode.Error

/-!
Reports: errors as JSON objects, for an observer to read, and errors read back from descriptions.
-/

set_option autoImplicit false

namespace ClusterNode.Bench

def report (kind message : String) : Json :=
  .object [("error", .string kind), ("message", .string message)]

def reportRpc (e : RpcError) : Json :=
  .object [("code", .ofInt64 e.code.toInt64), ("error", .string "Rpc"), ("message", .string e.text)]

def reportStore (e : StoreError) : Json :=
  match e with
  | .keyNotFound _ => report "KeyNotFound" e.message
  | .preconditionFailed _ _ _ => report "PreconditionFailed" e.message
  | .retriesExhausted _ _ => report "RetriesExhausted" e.message
  | .rpc reported => reportRpc reported

/-- A report of an envelope that is not accepted. Where the text is no JSON at all, only that is
told. -/
def reportEnvelope (category : String) (details : List (String × Json)) : Json :=
  .object (("category", .string category) :: ("error", .string "Envelope") :: details)

def reportCodec (e : CodecError) : Json :=
  match e with
  | .envelope (.fault .malformed) => reportEnvelope "syntax" []
  | .envelope (.fault .truncated) => reportEnvelope "eof" []
  | .envelope (.mismatch _) => reportEnvelope "data" [("message", .string e.message)]
  | .body _ => report "Body" e.message
  | .notAnObject _ => report "NotAnObject" e.message

def reportNode (e : NodeError) : Json :=
  match e with
  | .rpc reported => reportRpc reported
  | .store e => reportStore e
  | .codec e => reportCodec e
  | .noHandler _ _ => report "NoHandler" e.message
  | .duplicateHandler _ => report "DuplicateHandler" e.message
  | .notInitialized => report "NotInitialized" e.message
  | .alreadyInitialized _ => report "AlreadyInitialized" e.message
  | .timeout _ _ => report "Timeout" e.message
  | .cancelled _ => report "Cancelled" e.message
  | .io _ => report "Io" e.message
  | .other _ => report "Other" e.message

def stringAt (name : String) (j : Json) : String :=
  ((j.field? name).bind Json.toString?).getD ""

def integerAt (name : String) (j : Json) : Int64 :=
  ((j.field? name).bind Json.toInt64?).getD 0

def naturalAt? (name : String) (j : Json) : Option Nat :=
  ((j.field? name).bind Json.toUInt64?).map UInt64.toNat

def valueAt (name : String) (j : Json) : Json :=
  (j.field? name).getD .null

def durationOf : Json → Duration
  | .array [secs, nanos] =>
    .ofParts (secs.toUInt64?.getD 0).toNat (nanos.toUInt64?.getD 0).toNat
  | _ => .zero

def describedRpc (j : Json) : RpcError :=
  ⟨.ofInt64 (integerAt "code" j), stringAt "text" j⟩

def describedStore (j : Json) : StoreError :=
  match stringAt "variant" j with
  | "KeyNotFound" => .keyNotFound (stringAt "key" j)
  | "PreconditionFailed" =>
    .preconditionFailed (stringAt "key" j) (integerAt "expected" j)
      ((j.field? "actual").bind Json.toInt64?)
  | "RetriesExhausted" =>
    .retriesExhausted (stringAt "key" j) ((naturalAt? "attempts" j).getD 0)
  | _ => .rpc (describedRpc j)

def refusalOf (line : String) : CodecError :=
  match Message.decode line with
  | .error e => e
  | .ok m => .notAnObject m.body.kindName

def describedNode (j : Json) : NodeError :=
  match stringAt "variant" j with
  | "Rpc" => .rpc (describedRpc j)
  | "Store" => .store (describedStore (valueAt "store" j))
  | "NotAnObject" =>
    .codec (.notAnObject ((Json.ofText? (stringAt "payload" j)).getD .null).kindName)
  | "Body" => .codec (refusalOf (stringAt "line" j))
  | "NoHandler" => .noHandler (stringAt "kind" j) (stringAt "line" j)
  | "DuplicateHandler" => .duplicateHandler (stringAt "kind" j)
  | "NotInitialized" => .notInitialized
  | "AlreadyInitialized" => .alreadyInitialized (stringAt "id" j)
  | "Timeout" => .timeout (stringAt "dest" j) (durationOf (valueAt "after" j))
  | "Cancelled" => .cancelled (stringAt "dest" j)
  | "Io" => .io (stringAt "text" j)
  | _ => .other (((j.field? "context").bind Json.toString?).getD (stringAt "text" j))

end ClusterNode.Bench
