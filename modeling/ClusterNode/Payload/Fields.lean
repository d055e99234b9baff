import ClusterNode.Payload.Mismatch

/-!
Reading typed values from JSON. A payload is an object with a tag under `type` and further fields,
or a list of the tag and the fields in their declared order. Fields of an object that are present
are read in the order of their keys; then the first absent one in declared order is reported.
-/

set_option autoImplicit false

namespace ClusterNode

/-- Types that are written as the body of a message: their fields in declared order, and the
reading of a body. -/
class Payload (α : Type) where
  fields : α → List (String × Json)
  decode : Json → Except Mismatch α

namespace Payload

abbrev Decoder (α : Type) := Json → Except Mismatch α

def wrongType {α : Type} (expected : Expected) (v : Json) : Except Mismatch α :=
  .error (.wrongType (.ofJson v) expected)

def string : Decoder String
  | .string s => .ok s
  | v => wrongType .string v

def bool : Decoder Bool
  | .bool b => .ok b
  | v => wrongType .boolean v

def number : Decoder Number
  | .number n => .ok n
  | v => wrongType .number v

def int64 : Decoder Int64
  | .number (.unsigned n) =>
    if n.toNat < twoTo 63 then .ok n.toInt64 else .error (.outOfRange n.toNat .signed)
  | .number (.negative n) => .ok n.val
  | v => wrongType .signed v

def uint64 : Decoder UInt64
  | .number (.unsigned n) => .ok n
  | .number (.negative n) => .error (.outOfRange n.val.toInt .unsigned)
  | v => wrongType .unsigned v

def nullable {α : Type} (decode : Decoder α) : Decoder (Option α)
  | .null => .ok none
  | v => (decode v).map some

def any : Decoder Json := .ok

def list {α : Type} (decode : Decoder α) : Decoder (List α)
  | .array items => items.mapM decode
  | v => wrongType .sequence v

def dictionary {α : Type} (decode : Decoder α) : Decoder (Dictionary α)
  | .object fields => fields.mapM fun (key, v) => (decode v).map fun a => (key, a)
  | v => wrongType .map v

def present? {α : Type} (fields : Dictionary Json) (name : String) (decode : Decoder α) :
    Except Mismatch (Option α) :=
  match Dictionary.get? name fields with
  | none => .ok none
  | some v => (decode v).map some

def required {α : Type} (name : String) : Option α → Except Mismatch α
  | some a => .ok a
  | none => .error (.missingField name)

inductive Rest where
  | named (fields : Dictionary Json)
  | listed (items : List Json)

def next {α : Type} (expected : ExpectedLength) (position : Nat) (decode : Decoder α) :
    List Json → Except Mismatch (α × List Json)
  | [] => .error (.wrongLength position expected)
  | v :: rest => (decode v).map fun a => (a, rest)

def exhausted (count : Nat) (items : List Json) : Except Mismatch Unit :=
  if items.isEmpty then .ok () else .error (.wrongLength (count + items.length) (.exactly count))

def nullary : Rest → Except Mismatch Unit
  | .named _ => .ok ()
  | .listed items => exhausted 0 items

def unary {α : Type} (payload variant name : String) (decode : Decoder α) :
    Rest → Except Mismatch α
  | .named fields => do required name (← present? fields name decode)
  | .listed items => do
    let (a, items) ← next (.variant payload variant 1) 0 decode items
    exhausted 1 items
    return a

/-- Reads a variant with two fields, whose declared order is that of their names. -/
def binary {α β : Type} (payload variant name₁ name₂ : String) (decode₁ : Decoder α)
    (decode₂ : Decoder β) : Rest → Except Mismatch (α × β)
  | .named fields => do
    let a? ← present? fields name₁ decode₁
    let b? ← present? fields name₂ decode₂
    return (← required name₁ a?, ← required name₂ b?)
  | .listed items => do
    let (a, items) ← next (.variant payload variant 2) 0 decode₁ items
    let (b, items) ← next (.variant payload variant 2) 1 decode₂ items
    exhausted 2 items
    return (a, b)

def variant (known : List String) : Decoder String
  | .string name => if name ∈ known then .ok name else .error (.unknownVariant name known)
  | v => wrongType .variantName v

def tagged (payload : String) (known : List String) : Decoder (String × Rest)
  | .object fields =>
    match Dictionary.get? "type" fields with
    | some tag => (variant known tag).map fun name => (name, .named fields)
    | .none => .error (.missingField "type")
  | .array (tag :: items) => (variant known tag).map fun name => (name, .listed items)
  | .array [] => .error (.missingField "type")
  | v => wrongType (.tagged payload) v

def encode {α : Type} [Payload α] (a : α) : Json :=
  .object (Dictionary.ofList (Payload.fields a))

end Payload

end ClusterNode
