import ClusterNode.Store.Error

/-!
Stores of integers by key, the operations that a client may ask of one, and a store in memory.
-/

set_option autoImplicit false

namespace ClusterNode

inductive StoreCall where
  | read (key : String)
  | write (key : String) (value : Int64)
  | cas (key : String) (expected new : Int64) (create : Bool)
deriving DecidableEq, Repr

/-- The outcome of an operation. A read brings the value, none for an absent key; the others have
nothing to bring. -/
abbrev StoreAnswer := Except StoreError (Option Int64)

abbrev KvStore := Dictionary Int64

namespace KvStore

/-- Replaces an expected value. An absent key counts as a match if it may be created. -/
def swap (store : KvStore) (key : String) (expected new : Int64) (create : Bool) :
    Except StoreError KvStore :=
  match Dictionary.get? key store with
  | some actual =>
    if actual = expected then .ok (Dictionary.insert key new store)
    else .error (.preconditionFailed key expected (some actual))
  | none =>
    if create then .ok (Dictionary.insert key new store) else .error (.keyNotFound key)

def perform (store : KvStore) : StoreCall → StoreAnswer × KvStore
  | .read key => (.ok (Dictionary.get? key store), store)
  | .write key value => (.ok none, Dictionary.insert key value store)
  | .cas key expected new create =>
    match store.swap key expected new create with
    | .ok store => (.ok none, store)
    | .error e => (.error e, store)

def bump (store : KvStore) (key : String) (amount : Int64) : KvStore :=
  Dictionary.insert key ((Dictionary.get? key store).getD 0 + amount) store

end KvStore

end ClusterNode
