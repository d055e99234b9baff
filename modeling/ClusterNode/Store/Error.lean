import ClusterNode.RpcError

/-!
Errors of a key-value store.
-/

set_option autoImplicit false

namespace ClusterNode

inductive StoreError where
  | keyNotFound (key : String)
  | preconditionFailed (key : String) (expected : Int64) (actual : Option Int64)
  | retriesExhausted (key : String) (attempts : Nat)
  | rpc (e : RpcError)
deriving DecidableEq

namespace StoreError

def integerText (n : Int64) : String :=
  String.ofList (Number.intText n.toInt)

def foundText : Option Int64 → String
  | some n => "Some(" ++ integerText n ++ ")"
  | none => "None"

def message : StoreError → String
  | .keyNotFound key => "Key does not exist: " ++ key
  | .preconditionFailed key expected actual =>
    "Precondition failed for " ++ key ++ ": expected " ++ integerText expected ++ ", found "
      ++ foundText actual
  | .retriesExhausted key attempts =>
    "Gave up on " ++ key ++ " after " ++ toString attempts ++ " compare-and-swap attempts"
  | .rpc e => e.message

def toRpcError (e : StoreError) : RpcError :=
  match e with
  | .keyNotFound _ => ⟨.keyDoesNotExist, e.message⟩
  | .preconditionFailed _ _ _ => ⟨.preconditionFailed, e.message⟩
  | .retriesExhausted _ _ => ⟨.temporarilyUnavailable, e.message⟩
  | .rpc reported => reported

end StoreError

end ClusterNode
