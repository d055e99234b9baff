import ClusterNode.Store.Basic

/-!
Scripted stores: a store in memory whose swaps are interfered with in a given order, some of whose
keys cannot be read, and which keeps a record of its calls.
-/

set_option autoImplicit false

namespace ClusterNode.Bench

inductive Interference where
  | race (amount : Int64)
  | refuse (e : StoreError)

/-- A store with interferences still to come, the errors of keys that cannot be read, and the calls
it has received. -/
structure ScriptedStore where
  store : KvStore
  script : List Interference
  unreadable : Dictionary RpcError
  calls : List StoreCall

namespace ScriptedStore

def start (store : KvStore) : ScriptedStore := ⟨store, [], [], []⟩

def forward (s : ScriptedStore) (c : StoreCall) : StoreAnswer × ScriptedStore :=
  let (answer, store) := s.store.perform c
  (answer, { s with store })

def interfered (s : ScriptedStore) (key : String) (c : StoreCall) : StoreAnswer × ScriptedStore :=
  match s.script with
  | [] => s.forward c
  | .race amount :: script =>
    { s with script, store := s.store.bump key amount : ScriptedStore }.forward c
  | .refuse e :: script => (.error e, { s with script })

/-- Carries out a call and records it. -/
def perform (s : ScriptedStore) (c : StoreCall) : StoreAnswer × ScriptedStore :=
  let s := { s with calls := s.calls ++ [c] }
  match c with
  | .read key =>
    match Dictionary.get? key s.unreadable with
    | some e => (.error (.rpc e), s)
    | none => s.forward c
  | .write _ _ => s.forward c
  | .cas key _ _ _ => s.interfered key c

end ScriptedStore

end ClusterNode.Bench
