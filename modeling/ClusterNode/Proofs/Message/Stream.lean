import ClusterNode.Proofs.Json.Reading
import ClusterNode.Proofs.Message.OneLine
import ClusterNode.Proofs.Node.Answers

/-!
The written stream is read back exactly: a message per line, each as it was written, in whichever
pieces the bytes arrive. Of the messages that can be read, those whose doubles are read back from
their own text are the ones that can be written so.
-/

set_option autoImplicit false

namespace ClusterNode

namespace Json

mutual

/-- The doubles in a value. -/
def doubles : Json → List Double
  | .number (.double x) => [x]
  | .array items => doublesItems items
  | .object fields => doublesFields fields
  | _ => []

def doublesItems : List Json → List Double
  | [] => []
  | v :: rest => doubles v ++ doublesItems rest

def doublesFields : List (String × Json) → List Double
  | [] => []
  | (_, v) :: rest => doubles v ++ doublesFields rest

end

mutual

private theorem survives_of_doubles : ∀ v : Json, (∀ x ∈ v.doubles, (Number.double x).Survives) →
    v.Survives
  | .null, _ => trivial
  | .bool _, _ => trivial
  | .number (.unsigned n), _ => survives_unsigned n
  | .number (.negative n), _ => survives_negative n
  | .number (.double x), h => h x List.mem_cons_self
  | .string _, _ => trivial
  | .array items, h => survives_of_doublesItems items h
  | .object fields, h => survives_of_doublesFields fields h

theorem survives_of_doublesItems : ∀ items : List Json,
    (∀ x ∈ doublesItems items, (Number.double x).Survives) → SurvivesItems items
  | [], _ => trivial
  | v :: rest, h => by
    obtain ⟨hv, hrest⟩ := List.forall_mem_append.mp h
    exact ⟨survives_of_doubles v hv, survives_of_doublesItems rest hrest⟩

theorem survives_of_doublesFields : ∀ fields : List (String × Json),
    (∀ x ∈ doublesFields fields, (Number.double x).Survives) → SurvivesFields fields
  | [], _ => trivial
  | (_, v) :: rest, h => by
    obtain ⟨hv, hrest⟩ := List.forall_mem_append.mp h
    exact ⟨survives_of_doubles v hv, survives_of_doublesFields rest hrest⟩

end

end Json

namespace Envelope

/-- The body among the fields read so far, if there is one, leaves room for the envelope around
it. -/
def Slots.Fit (slots : Slots) : Prop :=
  ∀ body, slots.body = some body → body.Fits (Json.depthLimit - 1)

variable {slots slots' : Slots} {m : Message} {s rest : List Char}

private theorem ok_of_lift {α : Type} {x : Except Json.Fault α} {a : α} (h : lift x = .ok a) :
    x = .ok a := by
  cases x with
  | error fault => cases h
  | ok b =>
    cases h
    rfl

private theorem fits_of_readBody {body : Json} (h : readBody s = .ok (body, rest)) :
    body.Fits (Json.depthLimit - 1) :=
  Json.fits_of_readValue (ok_of_lift h)

private theorem Slots.Fit.message (hfit : slots.Fit) (h : slots.message = .ok m) :
    m.body.Fits (Json.depthLimit - 1) := by
  obtain ⟨src, -, h⟩ := exists_of_bind_eq_ok h
  obtain ⟨dest, -, h⟩ := exists_of_bind_eq_ok h
  obtain ⟨body, hbody, h⟩ := exists_of_bind_eq_ok h
  cases h
  refine hfit body ?_
  cases hslot : slots.body with
  | none =>
    rw [hslot] at hbody
    cases hbody
  | some found =>
    rw [hslot] at hbody
    cases hbody
    rfl

private theorem Slots.Fit.field {name : String} (hfit : slots.Fit)
    (h : readField slots name s = .ok (slots', rest)) : slots'.Fit := by
  simp only [readField] at h
  split at h
  · split at h
    · cases h
    · obtain ⟨s₁, -, h⟩ := exists_of_bind_eq_ok h
      obtain ⟨⟨src, s₂⟩, -, h⟩ := exists_of_bind_eq_ok h
      cases h
      exact hfit
  split at h
  · split at h
    · cases h
    · obtain ⟨s₁, -, h⟩ := exists_of_bind_eq_ok h
      obtain ⟨⟨dest, s₂⟩, -, h⟩ := exists_of_bind_eq_ok h
      cases h
      exact hfit
  split at h
  · split at h
    · cases h
    · obtain ⟨s₁, -, h⟩ := exists_of_bind_eq_ok h
      obtain ⟨⟨body, s₂⟩, hbody, h⟩ := exists_of_bind_eq_ok h
      cases h
      intro found hfound
      obtain rfl : body = found := Option.some.inj hfound
      exact fits_of_readBody hbody
  · obtain ⟨s₁, -, h⟩ := exists_of_bind_eq_ok h
    obtain ⟨s₂, -, h⟩ := exists_of_bind_eq_ok h
    cases h
    exact hfit

private theorem Slots.Fit.named (hfit : slots.Fit) (h : readNamed slots s = .ok (slots', rest)) :
    slots'.Fit := by
  obtain ⟨s₁, -, h⟩ := exists_of_bind_eq_ok h
  obtain ⟨⟨name, s₂⟩, -, h⟩ := exists_of_bind_eq_ok h
  exact hfit.field h

private theorem Slots.Fit.fields {fuel : Nat} (hfit : slots.Fit)
    (h : readFields fuel slots s = .ok (m, rest)) : m.body.Fits (Json.depthLimit - 1) := by
  induction fuel generalizing slots s with
  | zero => cases h
  | succ fuel ih =>
    rw [readFields] at h
    split at h
    · cases h
    split at h
    · obtain ⟨message, hmessage, h⟩ := exists_of_bind_eq_ok h
      cases h
      exact hfit.message hmessage
    split at h
    · obtain ⟨⟨slots', s'⟩, hnamed, h⟩ := exists_of_bind_eq_ok h
      exact ih (hfit.named hnamed) h
    · cases h

private theorem fits_of_readObject (h : readObject s = .ok (m, rest)) :
    m.body.Fits (Json.depthLimit - 1) := by
  have hempty : (⟨none, none, none⟩ : Slots).Fit := fun body hbody => by cases hbody
  simp only [readObject] at h
  split at h
  · cases h
  split at h
  · obtain ⟨message, hmessage, h⟩ := exists_of_bind_eq_ok h
    cases h
    exact hempty.message hmessage
  · obtain ⟨⟨slots, s'⟩, hnamed, h⟩ := exists_of_bind_eq_ok h
    exact (hempty.named hnamed).fields h

private theorem fits_of_readList (h : readList s = .ok (m, rest)) :
    m.body.Fits (Json.depthLimit - 1) := by
  obtain ⟨s₁, -, h⟩ := exists_of_bind_eq_ok h
  obtain ⟨⟨src, s₂⟩, -, h⟩ := exists_of_bind_eq_ok h
  obtain ⟨s₃, -, h⟩ := exists_of_bind_eq_ok h
  obtain ⟨⟨dest, s₄⟩, -, h⟩ := exists_of_bind_eq_ok h
  obtain ⟨s₅, -, h⟩ := exists_of_bind_eq_ok h
  obtain ⟨⟨body, s₆⟩, hbody, h⟩ := exists_of_bind_eq_ok h
  obtain ⟨s₇, -, h⟩ := exists_of_bind_eq_ok h
  cases h
  exact fits_of_readBody hbody

private theorem fits_of_read (h : read s = .ok m) : m.body.Fits (Json.depthLimit - 1) := by
  rw [read] at h
  split at h
  · cases h
  dsimp only at h
  split at h
  · obtain ⟨⟨message, s₁⟩, hmessage, h⟩ := exists_of_bind_eq_ok h
    obtain ⟨_, -, h⟩ := exists_of_bind_eq_ok h
    cases h
    exact fits_of_readObject hmessage
  split at h
  · obtain ⟨⟨message, s₁⟩, hmessage, h⟩ := exists_of_bind_eq_ok h
    obtain ⟨_, -, h⟩ := exists_of_bind_eq_ok h
    cases h
    exact fits_of_readList hmessage
  · cases h

end Envelope

namespace Message

variable {m : Message}

/-- How many arrays and objects lie inside each other in the line of a message, the envelope
counted. -/
def nesting (m : Message) : Nat := m.body.depth + 1

/-- A message whose line can be read. The objects in a body are dictionaries, as in every value;
only an object has a header; and of the numbers only doubles can fail to be read back. -/
structure WellFormed (m : Message) : Prop where
  canonical : m.body.Canonical
  header : ∃ h, m.header = .ok h
  nesting : m.nesting ≤ Json.depthLimit
  doubles : ∀ x ∈ m.body.doubles, (Number.double x).Survives

private theorem WellFormed.legible (hm : m.WellFormed) : m.Legible where
  canonical := hm.canonical
  survives := Json.survives_of_doubles m.body hm.doubles
  shallow := hm.nesting
  header := hm.header

private theorem accepted_of_decode {line : String} (h : decode line = .ok m) :
    m.body.Canonical ∧ (∃ h, m.header = .ok h) ∧ m.nesting ≤ Json.depthLimit := by
  simp only [decode] at h
  split at h
  · cases h
  rename_i message hread
  split at h
  · cases h
  rename_i header hheader
  cases h
  have hfits := Envelope.fits_of_read hread
  exact ⟨hfits.canonical, ⟨header, hheader⟩, Nat.succ_le_succ hfits.shallow⟩

private theorem ofInput_stream {ms : List Message} {pieces : List (List UInt8)}
    (hms : ∀ m ∈ ms, m.WellFormed) (h : pieces.flatten = stream ms) :
    Reading.ofInput pieces = ms.map fun m => .message m m.encode := by
  have hread : (ms.map fun m => Bench.Session.lineBytes m.encode).map Reading.ofBytes =
      ms.map fun m => .message m m.encode := by
    rw [List.map_map]
    exact List.map_congr_left fun m hm => ofBytes_encode (hms m hm).legible
  rw [Reading.ofInput, lines_stream h, hread, List.filter_eq_self]
  intro r hr
  obtain ⟨m, -, rfl⟩ := List.mem_map.mp hr
  rfl

/-- The messages that are written are read, one from each line and in their order, in whichever
pieces their bytes arrive. Conversely the message of any line that is accepted has an object for its
body, with a header that can be read, nests no deeper than the reader goes, and is well formed
unless a double in it cannot be read back. -/
theorem stream_read_back :
    (∀ (ms : List Message) (pieces : List (List UInt8)), (∀ m ∈ ms, m.WellFormed) →
      pieces.flatten = stream ms →
        Reading.ofInput pieces = (ms.map fun m => .message m m.encode) ∧
          ∀ m ∈ ms, decode m.encode = .ok m) ∧
    ∀ (line : String) (m : Message), decode line = .ok m →
      (∃ fields, m.body = .object fields) ∧ (∃ h, m.header = .ok h) ∧ m.nesting ≤ Json.depthLimit ∧
        ((∀ x ∈ m.body.doubles, (Number.double x).Survives) → m.WellFormed) := by
  constructor
  · intro ms pieces hms h
    exact ⟨ofInput_stream hms h, fun m hm => decode_encode (hms m hm).legible⟩
  · intro line m h
    obtain ⟨canonical, header, shallow⟩ := accepted_of_decode h
    exact ⟨body_of_decode h, header, shallow, fun doubles => ⟨canonical, header, shallow, doubles⟩⟩

/-- A body with the least and the greatest integer, and a zero with a sign. -/
def extremes : Json :=
  .object [("least", .ofInt64 Int64.minValue), ("most", .ofUInt64 18446744073709551615),
    ("zero", .array [.number (.double ⟨true, .zero⟩), .null, .object []])]

/-- Messages with what is hard to write: besides such a body line ends and other control characters,
quotes, backslashes and empty strings. -/
def awkward : List Message :=
  [⟨"a\n\"\\", "", .object [("", .string "\r\n\t\x00\x1f\x7f"), ("type", .string "\\n")]⟩,
    ⟨"é", "\u2028", extremes⟩]

private theorem awkward_wellFormed : ∀ m ∈ awkward, m.WellFormed := by
  have hsorted : Dictionary.Sorted [("", Json.null), ("type", Json.null)] ∧
      Dictionary.Sorted [("least", Json.null), ("most", Json.null), ("zero", Json.null)] := by
    simp only [Dictionary.Sorted, Dictionary.keys, List.map_cons, List.map_nil]
    decide +kernel
  have hzero : (Number.double ⟨true, .zero⟩).Survives := by
    have hread : Json.numberFrom '-' ['0', '.', '0'] = .ok (.double ⟨true, .zero⟩, []) := by
      decide +kernel
    exact Json.survives_of_numberFrom (by decide +kernel) (.inl rfl) hread
  have hdoubles : extremes.doubles = [⟨true, .zero⟩] := by decide +kernel
  simp only [awkward, List.forall_mem_cons]
  refine ⟨⟨⟨?_, ?_⟩, ⟨⟨"\\n", none, none⟩, by decide +kernel⟩, by decide, ?_⟩,
    ⟨⟨?_, ?_⟩, ⟨⟨"", none, none⟩, by decide +kernel⟩, by decide, ?_⟩, by simp⟩
  · exact hsorted.1
  · simp [Json.CanonicalFields, Json.Canonical]
  · simp [Json.doubles, Json.doublesFields]
  · exact hsorted.2
  · simp [Json.CanonicalFields, Json.CanonicalItems, Json.Canonical, Json.ofInt64, Json.ofUInt64,
      Dictionary.Sorted, Dictionary.keys]
  · simpa [hdoubles] using hzero

/-- A line in another form than the one that is written: a list, blanks, a key that is given
twice. -/
def listed : String :=
    "[ \"a\" ,\"b\",\t\x7b\"type\":\"x\",\"u\":[1, \x7b\x7d],\"type\":\"y\"\x7d ]"

theorem awkward_read_back : (∀ m ∈ awkward, m.WellFormed) ∧
    Reading.ofInput [(stream awkward).take 7, (stream awkward).drop 7] =
      (awkward.map fun m => .message m m.encode) ∧
    ∃ m, decode listed = .ok m ∧ (∃ fields, m.body = .object fields) ∧ m.WellFormed := by
  have hpieces : [(stream awkward).take 7, (stream awkward).drop 7].flatten = stream awkward := by
    rw [List.flatten_cons, List.flatten_singleton, List.take_append_drop]
  have haccepted : (decode listed).map (fun m => m.body.doubles) = .ok [] := by decide +kernel
  obtain ⟨hwritten, hread⟩ := stream_read_back
  refine ⟨awkward_wellFormed, (hwritten awkward _ awkward_wellFormed hpieces).1, ?_⟩
  cases hm : decode listed with
  | error e =>
    rw [hm] at haccepted
    cases haccepted
  | ok m =>
    rw [hm] at haccepted
    obtain ⟨hobject, -, -, hwellFormed⟩ := hread listed m hm
    have hnone : m.body.doubles = [] := Except.ok.inj haccepted
    exact ⟨m, rfl, hobject, hwellFormed (by simp [hnone])⟩

end Message

namespace Node

/-- A node to which a stream is written takes in its messages in turn. -/
theorem receiveLines_stream {w : Workload} (n : Node w) {ms : List Message}
    {pieces : List (List UInt8)}
    (hms : ∀ m ∈ ms, m.WellFormed) (h : pieces.flatten = Message.stream ms) :
    n.receiveLines (Input.lines pieces) = ms.foldl (fun n m => n.hear (.message m m.encode)) n := by
  rw [receiveLines_eq, Message.ofInput_stream hms h, List.foldl_map]

end Node

end ClusterNode
