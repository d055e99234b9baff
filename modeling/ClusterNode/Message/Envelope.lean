import ClusterNode.Json.Printer
import ClusterNode.Json.Reader
import ClusterNode.Message.Basic

/-!
Lines: the text of a message. A line is checked while it is read, so the first problem in reading
order decides, be it one of form or one of content. Unknown fields are skipped.
-/

set_option autoImplicit false

namespace ClusterNode

inductive EnvelopeError where
  | fault (f : Json.Fault)
  | mismatch (m : Mismatch)
deriving DecidableEq

inductive CodecError where
  | envelope (e : EnvelopeError)
  | body (m : Mismatch)
  | notAnObject (kind : String)
deriving DecidableEq

def EnvelopeError.message : EnvelopeError → String
  | .fault .malformed => "ill-formed JSON"
  | .fault .truncated => "unexpected end of text"
  | .mismatch m => m.message

def CodecError.message : CodecError → String
  | .envelope e => "malformed envelope: " ++ e.message
  | .body m => "malformed message body: " ++ m.message
  | .notAnObject kind => "message body must be a JSON object, got " ++ kind

namespace Envelope

def lift {α : Type} : Except Json.Fault α → Except EnvelopeError α
  | .ok a => .ok a
  | .error f => .error (.fault f)

/-- The problem with a value of another type, which is read as far as it takes to tell what it
is. -/
def unexpected (expected : Expected) (first : Char) (rest : List Char) : EnvelopeError :=
  let named {α : Type} (read : Except Json.Fault α) (found : α → Found) : EnvelopeError :=
    match read with
    | .ok a => .mismatch (.wrongType (found a) expected)
    | .error f => .fault f
  if first = 'n' then named (Json.expect "ull".toList rest) fun _ => .null
  else if first = 't' then named (Json.expect "rue".toList rest) fun _ => .boolean true
  else if first = 'f' then named (Json.expect "alse".toList rest) fun _ => .boolean false
  else if first = '-' ∨ first.isDigit then
    named (Json.numberFrom first rest) fun (n, _) => .ofNumber n
  else if first = '"' then named (Json.stringTail rest) fun (s, _) => .string (String.ofList s)
  -- Lists and objects are told by their first character, whatever is in them.
  else if first = '[' then .mismatch (.wrongType .sequence expected)
  else if first = '\x7b' then .mismatch (.wrongType .map expected)
  else .fault .malformed

def readString (s : List Char) : Except EnvelopeError (String × List Char) :=
  match Json.skipBlanks s with
  | [] => .error (.fault .truncated)
  | c :: rest =>
    if c = '"' then lift ((Json.stringTail rest).map fun (text, rest) => (String.ofList text, rest))
    else .error (unexpected .string c rest)

def readBody (s : List Char) : Except EnvelopeError (Json × List Char) :=
  lift (Json.readValue (Json.fuelFor s) (Json.depthLimit - 1) s)

structure Slots where
  src : Option String
  dest : Option String
  body : Option Json

def Slots.message (slots : Slots) : Except EnvelopeError Message :=
  let required {α : Type} (name : String) : Option α → Except EnvelopeError α
    | some a => .ok a
    | none => .error (.mismatch (.missingField name))
  do return ⟨← required "src" slots.src, ← required "dest" slots.dest, ← required "body" slots.body⟩

def readField (slots : Slots) (name : String) (s : List Char) :
    Except EnvelopeError (Slots × List Char) :=
  -- A repeated field is refused at its name, before its value is looked at.
  let duplicate := .error (.mismatch (.duplicateField name))
  if name = "src" then
    if slots.src.isSome then duplicate
    else do
      let (src, s) ← readString (← lift (Json.expectMark ':' s))
      return ({ slots with src := some src }, s)
  else if name = "dest" then
    if slots.dest.isSome then duplicate
    else do
      let (dest, s) ← readString (← lift (Json.expectMark ':' s))
      return ({ slots with dest := some dest }, s)
  else if name = "body" then
    if slots.body.isSome then duplicate
    else do
      let (body, s) ← readBody (← lift (Json.expectMark ':' s))
      return ({ slots with body := some body }, s)
  else do
    let s ← lift (Json.expectMark ':' s)
    let s ← lift (Json.skipValue (Json.fuelFor s) s)
    return (slots, s)

def readNamed (slots : Slots) (s : List Char) : Except EnvelopeError (Slots × List Char) := do
  let s ← lift (Json.expectMark '"' s)
  let (name, s) ← lift (Json.stringTail s)
  readField slots (String.ofList name) s

def readFields (fuel : Nat) (slots : Slots) (s : List Char) :
    Except EnvelopeError (Message × List Char) :=
  match fuel with
  | 0 => .error (.fault .truncated)
  | fuel + 1 => do
    match Json.skipBlanks s with
    | [] => .error (.fault .truncated)
    | c :: rest =>
      if c = '\x7d' then return (← slots.message, rest)
      else if c = ',' then
        let (slots, s) ← readNamed slots rest
        readFields fuel slots s
      else .error (.fault .malformed)

def readObject (s : List Char) : Except EnvelopeError (Message × List Char) := do
  let empty : Slots := ⟨none, none, none⟩
  match Json.skipBlanks s with
  | [] => .error (.fault .truncated)
  | c :: rest =>
    if c = '\x7d' then return (← empty.message, rest)
    else
      let (slots, s) ← readNamed empty s
      readFields s.length slots s

/-- Goes on to an element of a list, of which `count` were read; there must be one. -/
def nextElement (count : Nat) (s : List Char) : Except EnvelopeError (List Char) :=
  match Json.skipBlanks s with
  | [] => .error (.fault .truncated)
  | c :: rest =>
    if c = ']' then .error (.mismatch (.wrongLength count .envelope))
    else if count = 0 then .ok (c :: rest)
    else if c = ',' then
      match Json.skipBlanks rest with
      | [] => .error (.fault .truncated)
      -- The list goes on after a comma, so its end is no missing element here.
      | d :: rest => if d = ']' then .error (.fault .malformed) else .ok (d :: rest)
    else .error (.fault .malformed)

def readList (s : List Char) : Except EnvelopeError (Message × List Char) := do
  let (src, s) ← readString (← nextElement 0 s)
  let (dest, s) ← readString (← nextElement 1 s)
  let (body, s) ← readBody (← nextElement 2 s)
  let s ← lift (Json.expectMark ']' s)
  return (⟨src, dest, body⟩, s)

def read (s : List Char) : Except EnvelopeError Message :=
  match Json.skipBlanks s with
  | [] => .error (.fault .truncated)
  | c :: rest => do
    let (m, rest) ←
      if c = '\x7b' then readObject rest
      else if c = '[' then readList rest
      else .error (unexpected .envelope c rest)
    lift (Json.finish rest)
    return m

end Envelope

namespace Message

def chars (m : Message) : List Char :=
  Json.chars (.object [("src", .string m.src), ("dest", .string m.dest), ("body", m.body)])

def encode (m : Message) : String :=
  String.ofList m.chars

def display (m : Message) : String :=
  m.src ++ " -> " ++ m.dest ++ ": " ++ m.body.text

def header (m : Message) : Except CodecError Header :=
  match m.body with
  | .object fields =>
    match Header.decode fields with
    | .ok h => .ok h
    | .error e => .error (.body e)
  | body => .error (.notAnObject body.kindName)

/-- Reads a line: an envelope whose body is an object with a well-typed header. -/
def decode (line : String) : Except CodecError Message :=
  match Envelope.read line.toList with
  | .error e => .error (.envelope e)
  | .ok m =>
    match m.header with
    | .error e => .error e
    | .ok _ => .ok m

end Message

/-- A body from a payload, stamped with the number of the request that it is or answers. -/
def encodeBody (payload : Json) (msgId inReplyTo : Option UInt64) : Except CodecError Json :=
  match payload with
  | .object fields =>
    let stamp (name : String) (id : Option UInt64) (fields : Dictionary Json) : Dictionary Json :=
      match id with
      | some id => Dictionary.insert name (.ofUInt64 id) fields
      | none => fields
    .ok (.object (stamp "in_reply_to" inReplyTo (stamp "msg_id" msgId fields)))
  | v => .error (.notAnObject v.kindName)

end ClusterNode
