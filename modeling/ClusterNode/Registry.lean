import ClusterNode.Dictionary
import ClusterNode.Error

/-!
Registries: which handler serves which kind of request.
-/

set_option autoImplicit false

namespace ClusterNode

structure Registry (α : Type) where
  handlers : Dictionary α

namespace Registry

variable {α : Type}

def empty : Registry α := ⟨[]⟩

def get? (r : Registry α) (kind : String) : Option α :=
  Dictionary.get? kind r.handlers

def contains (r : Registry α) (kind : String) : Bool :=
  (r.get? kind).isSome

def register (r : Registry α) (kind : String) (handler : α) : Except NodeError (Registry α) :=
  if r.contains kind then .error (.duplicateHandler kind)
  else .ok ⟨Dictionary.insert kind handler r.handlers⟩

def registerAll (r : Registry α) (kinds : List String) (handler : α) :
    Except NodeError (Registry α) :=
  kinds.foldlM (fun r kind => r.register kind handler) r

def kinds (r : Registry α) : List String :=
  Dictionary.keys r.handlers

def text (r : Registry α) : String :=
  "HandlerRegistry \x7b kinds: " ++ Text.quotedList r.kinds ++ " \x7d"

end Registry

end ClusterNode
