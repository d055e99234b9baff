import ClusterNode.Payload.Fields

/-!
Payloads that key-value services understand.
-/

set_option autoImplicit false

namespace ClusterNode.Payload

/-- Requests to a key-value service and its answers. Keys and values are any JSON. -/
inductive KeyValue where
  | read (key : Json)
  | readOk (value : Json)
  | write (key value : Json)
  | writeOk
  | cas (key expected new : Json) (create : Bool)
  | casOk

namespace KeyValue

def tags : List String := ["read", "read_ok", "write", "write_ok", "cas", "cas_ok"]

/-- Fields in declared order. The permission to create a key is written only if it is given. -/
def fields : KeyValue → List (String × Json)
  | .read key => [("type", .string "read"), ("key", key)]
  | .readOk value => [("type", .string "read_ok"), ("value", value)]
  | .write key value => [("type", .string "write"), ("key", key), ("value", value)]
  | .writeOk => [("type", .string "write_ok")]
  | .cas key expected new create =>
    [("type", .string "cas"), ("key", key), ("from", expected), ("to", new)]
      ++ if create then [("create_if_not_exists", .bool true)] else []
  | .casOk => [("type", .string "cas_ok")]

def decodeCas : Rest → Except Mismatch KeyValue
  | .named fields => do
    let create? ← present? fields "create_if_not_exists" bool
    let expected? ← present? fields "from" any
    let key? ← present? fields "key" any
    let new? ← present? fields "to" any
    return .cas (← required "key" key?) (← required "from" expected?) (← required "to" new?)
      (create?.getD false)
  | .listed items => do
    let length := ExpectedLength.variant "KvPayload" "Cas" 4
    let (key, items) ← next length 0 any items
    let (expected, items) ← next length 1 any items
    let (new, items) ← next length 2 any items
    match items with
    -- The last field may be left out by position too.
    | [] => return .cas key expected new false
    | v :: items =>
      let create ← bool v
      exhausted 4 items
      return .cas key expected new create

def decode (body : Json) : Except Mismatch KeyValue := do
  let (tag, rest) ← tagged "KvPayload" tags body
  if tag = "read" then
    return .read (← unary "KvPayload" "Read" "key" any rest)
  else if tag = "read_ok" then
    return .readOk (← unary "KvPayload" "ReadOk" "value" any rest)
  else if tag = "write" then
    let (key, value) ← binary "KvPayload" "Write" "key" "value" any any rest
    return .write key value
  else if tag = "write_ok" then
    nullary rest
    return .writeOk
  else if tag = "cas" then
    decodeCas rest
  else
    nullary rest
    return .casOk

instance : Payload KeyValue := ⟨fields, decode⟩

end KeyValue

end ClusterNode.Payload
