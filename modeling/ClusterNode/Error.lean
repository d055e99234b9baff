import ClusterNode.Duration
import ClusterNode.Message.Envelope
import ClusterNode.Store.Error

/-!
Errors of a node: those that end its reading of input, those that are reported to whoever made the
request, and any others, which are reported as a crash.
-/

set_option autoImplicit false

namespace ClusterNode

inductive NodeError where
  | rpc (e : RpcError)
  | store (e : StoreError)
  | codec (e : CodecError)
  | noHandler (kind line : String)
  | duplicateHandler (kind : String)
  | notInitialized
  | alreadyInitialized (id : String)
  | timeout (dest : String) (after : Duration)
  | cancelled (dest : String)
  | io (text : String)
  | other (text : String)
deriving DecidableEq

namespace NodeError

def message : NodeError → String
  | .rpc e => e.message
  | .store e => e.message
  | .codec e => e.message
  | .noHandler kind line => "No handler for message type " ++ Text.quoted kind ++ ": " ++ line
  | .duplicateHandler kind => "Duplicate message handler for " ++ Text.quoted kind
  | .notInitialized => "Node has not received init yet"
  | .alreadyInitialized id => "Node " ++ id ++ " is already initialized"
  | .timeout dest after => "RPC to " ++ dest ++ " timed out after " ++ after.text
  | .cancelled dest => "RPC to " ++ dest ++ " was cancelled before a reply arrived"
  | .io text => text
  | .other text => text

/-- The error as it is reported to whoever made the request, if it is of a kind that is. -/
def rpcError? (e : NodeError) : Option RpcError :=
  match e with
  | .rpc reported => some reported
  | .store e => some e.toRpcError
  | .timeout _ _ => some ⟨.timeout, e.message⟩
  | .cancelled _ => some ⟨.abort, e.message⟩
  | .alreadyInitialized _ | .notInitialized => some ⟨.malformedRequest, e.message⟩
  | _ => none

def toRpcError (e : NodeError) : RpcError :=
  e.rpcError?.getD ⟨.crash, e.message⟩

def isFatal : NodeError → Bool
  | .codec _ | .noHandler _ _ | .io _ => true
  | _ => false

end NodeError

end ClusterNode
