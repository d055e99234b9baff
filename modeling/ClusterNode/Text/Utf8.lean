/-!
Bytes as UTF-8 text: the text, or the first place at which the bytes are no text.
-/

set_option autoImplicit false

namespace ClusterNode.Text

/-- The first place at which bytes are no text: where the character begins, and how many bytes are
wrong, unless it is only that the bytes end too early. -/
structure Utf8Fault where
  index : Nat
  wrong : Option Nat
deriving DecidableEq, Repr

namespace Utf8Fault

def message (f : Utf8Fault) : String :=
  match f.wrong with
  | some wrong =>
    "invalid utf-8 sequence of " ++ toString wrong ++ " bytes from index " ++ toString f.index
  | none => "incomplete utf-8 byte sequence from index " ++ toString f.index

end Utf8Fault

namespace Utf8

structure ByteRange where
  low : UInt8
  high : UInt8

def ByteRange.contains (r : ByteRange) (b : UInt8) : Bool :=
  r.low ≤ b && b ≤ r.high

def continuation : ByteRange := ⟨0x80, 0xBF⟩

/-- The ranges of the bytes that must follow a first byte, if it can be one. -/
def followers? (first : UInt8) : Option (List ByteRange) :=
  -- No character has a longer form than it needs, is a surrogate, or lies above 0x10FFFF.
  if first < 0x80 then some []
  else if first < 0xC2 then none
  else if first < 0xE0 then some [continuation]
  else if first = 0xE0 then some [⟨0xA0, 0xBF⟩, continuation]
  else if first = 0xED then some [⟨0x80, 0x9F⟩, continuation]
  else if first < 0xF0 then some [continuation, continuation]
  else if first = 0xF0 then some [⟨0x90, 0xBF⟩, continuation, continuation]
  else if first < 0xF4 then some [continuation, continuation, continuation]
  else if first = 0xF4 then some [⟨0x80, 0x8F⟩, continuation, continuation]
  else none

/-- The first fault of bytes. The character at `start` has been read up to `here` and must be
followed by bytes in the ranges. Bytes without a fault are taken to end too early. -/
def faultFrom (start here : Nat) : List ByteRange → List UInt8 → Utf8Fault
  | _, [] => ⟨start, none⟩
  | [], b :: rest =>
    match followers? b with
    | none => ⟨here, some 1⟩
    | some [] => faultFrom (here + 1) (here + 1) [] rest
    | some ranges => faultFrom here (here + 1) ranges rest
  | [range], b :: rest =>
    if range.contains b then faultFrom (here + 1) (here + 1) [] rest
    else ⟨start, some (here - start)⟩
  | range :: ranges, b :: rest =>
    if range.contains b then faultFrom start (here + 1) ranges rest
    else ⟨start, some (here - start)⟩

def decode (bytes : List UInt8) : Except Utf8Fault String :=
  match String.fromUTF8? ⟨bytes.toArray⟩ with
  | some text => .ok text
  | none => .error (faultFrom 0 0 [] bytes)

end Utf8

end ClusterNode.Text
