import ClusterNode.Error
import ClusterNode.Payload.KeyValue
import ClusterNode.Store.Basic

/-!
Clients of key-value services: the request for each operation, and what the reply to it says. A key
that the service does not have and a precondition that it found false are outcomes of the store; any
other failure is kept as the error that it would be reported as.
-/

set_option autoImplicit false

namespace ClusterNode.KvClient

def defaultService : String := "lin-kv"

/-- The failure of a request for a key; a swap also tells which value it expected. -/
def classify (key : String) (expected : Int64) : NodeError → StoreError
  | .rpc e =>
    match e.code with
    | .keyDoesNotExist => .keyNotFound key
    | .preconditionFailed => .preconditionFailed key expected none
    | _ => .rpc e
  | .store e => e
  | e => .rpc e.toRpcError

def unexpectedReply (reply : Message) : StoreError :=
  .rpc ⟨.malformedRequest, "unexpected KV reply " ++ reply.kind⟩

def payloadOf (reply : Message) : Except StoreError Payload.KeyValue :=
  match (reply.payload : Except RpcError Payload.KeyValue) with
  | .ok payload => .ok payload
  | .error e => .error (.rpc e)

def readRequest (key : String) : Payload.KeyValue :=
  .read (.string key)

/-- The value that a reply brings, none for a key that is absent. -/
def valueOf (key : String) : Except NodeError Message → Except StoreError (Option Json)
  | .ok reply => do
    match ← payloadOf reply with
    | .readOk value => return some value
    | _ => throw (unexpectedReply reply)
  | .error e =>
    match classify key 0 e with
    -- Only a read takes an absent key for an answer.
    | .keyNotFound _ => .ok none
    | e => .error e

def integerOf (key : String) (result : Except NodeError Message) : StoreAnswer := do
  match ← valueOf key result with
  | none => return none
  | some value =>
    match value.toInt64? with
    | some n => return some n
    | none =>
      throw (.rpc ⟨.malformedRequest, key ++ " holds a non-integer value " ++ value.text⟩)

def writeRequest (key : String) (value : Json) : Payload.KeyValue :=
  .write (.string key) value

def writeResult (key : String) : Except NodeError Message → Except StoreError Unit
  | .ok reply => do
    match ← payloadOf reply with
    | .writeOk => return ()
    | _ => throw (unexpectedReply reply)
  | .error e => .error (classify key 0 e)

def casRequest (key : String) (expected new : Int64) (create : Bool) : Payload.KeyValue :=
  .cas (.string key) (.ofInt64 expected) (.ofInt64 new) create

def casResult (key : String) (expected : Int64) : Except NodeError Message → Except StoreError Unit
  | .ok reply => do
    match ← payloadOf reply with
    | .casOk => return ()
    | _ => throw (unexpectedReply reply)
  | .error e => .error (classify key expected e)

def request : StoreCall → Payload.KeyValue
  | .read key => readRequest key
  | .write key value => writeRequest key (.ofInt64 value)
  | .cas key expected new create => casRequest key expected new create

def answer (result : Except NodeError Message) : StoreCall → StoreAnswer
  | .read key => integerOf key result
  | .write key _ => (writeResult key result).map fun _ => none
  | .cas key expected _ _ => (casResult key expected result).map fun _ => none

end ClusterNode.KvClient
