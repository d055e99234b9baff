import ClusterNode.Bench.Session
import ClusterNode.Proofs.Json.RoundTrip
import ClusterNode.Proofs.Node.Run

/-!
Messages are read back: the line of a message, with its end and as bytes, is read as that message.
-/

set_option autoImplicit false

namespace ClusterNode

open Json (EndsNumber IsBlank)

namespace Envelope

variable {slots : Slots}

private theorem readString_quote (s : String) (rest : List Char) :
    readString (Json.quote s ++ rest) = .ok (s, rest) := by
  obtain ⟨t, hquote, hread⟩ := Json.stringTail_quote s rest
  rw [hquote, List.cons_append, readString, Json.skipBlanks_cons (by decide)]
  simp only [if_true, hread]
  show Except.ok (String.ofList s.toList, rest) = _
  rw [String.ofList_toList]

private theorem readBody_chars {body : Json} (canonical : body.Canonical) (survives : body.Survives)
    (shallow : body.depth < Json.depthLimit) {tail : List Char} (htail : EndsNumber tail) :
    readBody (Json.chars body ++ tail) = .ok (body, tail) := by
  have hread := Json.readValue_chars body canonical survives
    (Json.fuelFor (Json.chars body ++ tail)) (Json.depthLimit - 1) tail
    (by simp only [Json.fuelFor, List.length_append]; omega) (by omega) htail
  rw [readBody, hread]
  rfl

private theorem readNamed_quote (name : String) (rest : List Char) :
    readNamed slots (Json.quote name ++ rest) = readField slots name rest := by
  obtain ⟨t, hquote, hread⟩ := Json.stringTail_quote name rest
  rw [hquote, List.cons_append, readNamed, Json.expectMark_cons (by decide)]
  simp only [lift, bind, Except.bind, hread, String.ofList_toList]

private theorem readField_src (hsrc : slots.src = none) (src : String) (rest : List Char) :
    readField slots "src" (':' :: (Json.quote src ++ rest)) =
      .ok ({ slots with src := some src }, rest) := by
  rw [readField, Json.expectMark_cons (by decide)]
  simp only [if_true, hsrc, lift, bind, Except.bind, readString_quote]
  rfl

private theorem readField_dest (hdest : slots.dest = none) (dest : String) (rest : List Char) :
    readField slots "dest" (':' :: (Json.quote dest ++ rest)) =
      .ok ({ slots with dest := some dest }, rest) := by
  rw [readField, Json.expectMark_cons (by decide), if_neg (by decide)]
  simp only [if_true, hdest, lift, bind, Except.bind, readString_quote]
  rfl

private theorem readField_body (hbody : slots.body = none) {body : Json} {rest : List Char}
    (hread : readBody (Json.chars body ++ rest) = .ok (body, rest)) :
    readField slots "body" (':' :: (Json.chars body ++ rest)) =
      .ok ({ slots with body := some body }, rest) := by
  rw [readField, Json.expectMark_cons (by decide), if_neg (by decide),
    if_neg (by decide)]
  simp only [if_true, hbody, lift, bind, Except.bind, hread]
  rfl

private theorem readFields_more {fuel : Nat} {slots' : Slots} {name : String} {s rest : List Char}
    (hfield : readField slots name s = .ok (slots', rest)) :
    readFields (fuel + 1) slots (',' :: (Json.quote name ++ s)) = readFields fuel slots' rest := by
  rw [readFields, Json.skipBlanks_cons (by decide)]
  simp only [readNamed_quote, hfield, bind, Except.bind]
  rfl

private theorem readFields_close {fuel : Nat} {m : Message} (hm : slots.message = .ok m)
    (rest : List Char) :
    readFields (fuel + 1) slots ('\x7d' :: rest) = .ok (m, rest) := by
  rw [readFields, Json.skipBlanks_cons (by decide)]
  simp only [if_true, hm]
  rfl

end Envelope

namespace Message

/-- A message that can be read: its body has a well-typed header, lies no deeper than is read, and
its numbers are read back. -/
structure Legible (m : Message) : Prop where
  canonical : m.body.Canonical
  survives : m.body.Survives
  shallow : m.body.depth < Json.depthLimit
  header : ∃ h, m.header = .ok h

variable {m : Message}

private theorem chars_eq (m : Message) : m.chars = '\x7b' :: (Json.quote "src" ++ ':' ::
    (Json.quote m.src ++ ',' :: (Json.quote "dest" ++ ':' ::
      (Json.quote m.dest ++ ',' ::
        (Json.quote "body" ++ ':' :: (m.body.chars ++ ['\x7d'])))))) := by
  simp [chars, Json.chars, Json.tailFields]

private theorem read_chars (hm : m.Legible) : Envelope.read m.chars = .ok m := by
  have hbody := Envelope.readBody_chars hm.canonical hm.survives hm.shallow
    (Json.endsNumber_cons (c := '\x7d') (.inr (.inr rfl)) [])
  obtain ⟨t, hquote, -⟩ := Json.stringTail_quote "src" []
  have hobject : ∀ rest : List Char, 3 ≤ rest.length →
      rest = ',' :: (Json.quote "dest" ++ ':' :: (Json.quote m.dest ++
        ',' :: (Json.quote "body" ++ ':' :: (m.body.chars ++ ['\x7d'])))) →
      Envelope.readFields rest.length ⟨some m.src, none, none⟩ rest = .ok (m, []) := by
    intro rest hlength hrest
    obtain ⟨fuel, hfuel⟩ : ∃ fuel, rest.length = fuel + 3 := ⟨rest.length - 3, by omega⟩
    rw [hfuel, hrest, Envelope.readFields_more (Envelope.readField_dest rfl m.dest _),
      Envelope.readFields_more (Envelope.readField_body rfl hbody)]
    exact Envelope.readFields_close rfl []
  have hempty : (⟨none, none, none⟩ : Envelope.Slots).src = none := rfl
  have hsrc := Envelope.readField_src hempty m.src
    (',' :: (Json.quote "dest" ++ ':' :: (Json.quote m.dest ++
      ',' :: (Json.quote "body" ++ ':' :: (m.body.chars ++ ['\x7d'])))))
  rw [chars_eq, Envelope.read, Json.skipBlanks_cons (by decide)]
  simp only [if_true, Envelope.readObject]
  rw [hquote, List.cons_append, Json.skipBlanks_cons (by decide)]
  simp only [if_neg (show ¬ ('"' = '\x7d') by decide)]
  rw [← List.cons_append, ← hquote, Envelope.readNamed_quote, hsrc]
  simp only [bind, Except.bind]
  rw [hobject _ (by simp [Json.quote]; omega) rfl]
  rfl

/-- A line is read as the message that was written. -/
theorem decode_encode (hm : m.Legible) : decode m.encode = .ok m := by
  obtain ⟨h, hheader⟩ := hm.header
  rw [decode, encode, String.toList_ofList, read_chars hm]
  simp only [hheader]

end Message

section Wire

private theorem Message.chars_braced (m : Message) :
    ∃ inner, m.chars = '\x7b' :: (inner ++ ['\x7d']) := by
  rw [Message.chars_eq]
  refine ⟨Json.quote "src" ++ ':' :: (Json.quote m.src ++ ',' :: (Json.quote "dest" ++ ':' ::
    (Json.quote m.dest ++ ',' :: (Json.quote "body" ++ ':' :: m.body.chars)))), ?_⟩
  simp

private theorem trim_encode (m : Message) : Text.trim m.encode = m.encode := by
  obtain ⟨inner, h⟩ := m.chars_braced
  have hopen : Text.isBlank '\x7b' = false := by decide
  have hclose : Text.isBlank '\x7d' = false := by decide
  have hreverse : m.chars.reverse = '\x7d' :: (inner.reverse ++ ['\x7b']) := by simp [h]
  have hfront : m.chars.dropWhile Text.isBlank = m.chars := by
    rw [h, List.dropWhile_cons, hopen, if_neg Bool.false_ne_true]
  rw [Text.trim, Message.encode, String.toList_ofList, Text.trimBlanks, hfront, hreverse,
    List.dropWhile_cons, hclose, if_neg Bool.false_ne_true, ← hreverse, List.reverse_reverse]

private theorem ofText_encode {m : Message} (hm : m.Legible) :
    Reading.ofText m.encode = .message m m.encode := by
  obtain ⟨inner, h⟩ := m.chars_braced
  have hempty : m.encode.isEmpty = false := by
    rw [Message.encode, h]
    simp
  simp only [Reading.ofText, trim_encode, hempty, Message.decode_encode hm, Bool.false_eq_true,
    if_false]

private theorem toList_loop (bytes : ByteArray) (i : Nat) (front : List UInt8) :
    ByteArray.toList.loop bytes i front = front.reverse ++ bytes.data.toList.drop i := by
  by_cases hi : i < bytes.size
  · have hget : bytes.get! i = bytes.data.toList[i] := by
      show bytes.data[i]! = _
      rw [getElem!_pos bytes.data i hi, Array.getElem_toList]
    rw [ByteArray.toList.loop, if_pos hi, toList_loop bytes (i + 1), hget, List.reverse_cons,
      List.append_assoc, List.singleton_append, ← List.drop_eq_getElem_cons]
  · rw [ByteArray.toList.loop, if_neg hi, List.drop_eq_nil_of_le (by simpa using hi),
      List.append_nil]
termination_by bytes.size - i

private theorem toList_eq (bytes : ByteArray) : bytes.toList = bytes.data.toList := by
  rw [ByteArray.toList, toList_loop]
  simp

theorem toUTF8_toList (s : String) : s.toUTF8.toList = s.toList.flatMap String.utf8EncodeChar := by
  rw [toList_eq, String.toUTF8_eq_toByteArray, ← String.utf8Encode_toList, List.utf8Encode,
    List.toList_data_toByteArray]

private theorem decode_toUTF8 (s : String) : Text.Utf8.decode s.toUTF8.toList = .ok s := by
  have hbytes : (⟨s.toUTF8.toList.toArray⟩ : ByteArray) = s.toByteArray := by
    rw [toList_eq, String.toUTF8_eq_toByteArray]
  have hread : String.fromUTF8? s.toByteArray = some s := by
    rw [String.fromUTF8?, dif_pos s.isValidUTF8]
    rfl
  rw [Text.Utf8.decode, hbytes, hread]

private theorem toUTF8_append (s t : String) :
    (s ++ t).toUTF8.toList = s.toUTF8.toList ++ t.toUTF8.toList := by
  simp only [toList_eq, String.toUTF8_eq_toByteArray, String.toByteArray_append,
    ByteArray.toList_data_append]

private theorem withoutEnd_encode (m : Message) :
    Input.withoutEnd (Bench.Session.lineBytes m.encode) = m.encode.toUTF8.toList := by
  obtain ⟨inner, h⟩ := m.chars_braced
  have hencode : m.encode = String.ofList ('\x7b' :: inner) ++ "\x7d" := by
    rw [Message.encode, h, ← List.cons_append, String.ofList_append]
  have hclose : "\x7d".toUTF8.toList = [125] := by decide +kernel
  have hend : "\n".toUTF8.toList = [Input.newline] := by decide +kernel
  have hlast : m.encode.toUTF8.toList.getLast? = some 125 := by
    rw [hencode, toUTF8_append, hclose, List.getLast?_concat]
  rw [Bench.Session.lineBytes, toUTF8_append, hend, Input.withoutEnd, List.getLast?_concat,
    if_pos rfl, List.dropLast_concat]
  simp only [hlast]
  rfl

/-- A message that is written is received as itself. -/
theorem ofBytes_encode {m : Message} (hm : m.Legible) :
    Reading.ofBytes (Bench.Session.lineBytes m.encode) = .message m m.encode := by
  rw [Reading.ofBytes, withoutEnd_encode, decode_toUTF8]
  exact ofText_encode hm

end Wire

end ClusterNode
