import ClusterNode.Proofs.Message.RoundTrip
import ClusterNode.Proofs.Node.Input

/-!
A message stands on one line: its text has no line end in it, because strings escape theirs and
numbers have none, and so its bytes have none either.
-/

set_option autoImplicit false

namespace ClusterNode

namespace Json

private theorem hexDigit_ne_newline : ∀ n < 16, hexDigit n ≠ '\n' := by
  decide

private theorem newline_not_mem_escape (c : Char) : '\n' ∉ escape c := by
  rcases escape_cases c with ⟨hescape, -, -, hc⟩ | ⟨e, hescape, -, he⟩ | ⟨hescape, hc⟩
  · have hplain : '\n' ≠ c := by
      rintro rfl
      exact hc (by decide)
    simp [hescape, hplain]
  · have hletter : '\n' ≠ e := by
      rintro rfl
      cases he
    simp [hescape, hletter]
  · have hhigh := hexDigit_ne_newline (c.toNat / 16) (by omega)
    have hlow := hexDigit_ne_newline (c.toNat % 16) (by omega)
    simp [hescape, hhigh.symm, hlow.symm]

private theorem newline_not_mem_quote (s : String) : '\n' ∉ quote s := by
  intro hmem
  have hinside : '\n' ∈ s.toList.flatMap escape := by simpa [quote] using hmem
  obtain ⟨c, -, hc⟩ := List.mem_flatMap.mp hinside
  exact newline_not_mem_escape c hc

private theorem newline_not_mem_number (n : Number) : '\n' ∉ n.chars := fun hmem =>
  (numberChar_chars hmem).not_isBlank (.inr (.inl rfl))

mutual

private theorem newline_not_mem_chars : ∀ v : Json, '\n' ∉ chars v
  | .null => by decide
  | .bool true => by decide
  | .bool false => by decide
  | .number n => newline_not_mem_number n
  | .string s => newline_not_mem_quote s
  | .array [] => by decide
  | .array (v :: rest) => by
    simp [chars, newline_not_mem_chars v, newline_not_mem_tailItems rest]
  | .object [] => by decide
  | .object ((k, v) :: rest) => by
    simp [chars, newline_not_mem_quote k, newline_not_mem_chars v, newline_not_mem_tailFields rest]

theorem newline_not_mem_tailItems : ∀ items : List Json, '\n' ∉ tailItems items
  | [] => by decide
  | v :: rest => by
    simp [tailItems, newline_not_mem_chars v, newline_not_mem_tailItems rest]

theorem newline_not_mem_tailFields : ∀ fields : List (String × Json), '\n' ∉ tailFields fields
  | [] => by decide
  | (k, v) :: rest => by
    simp [tailFields, newline_not_mem_quote k, newline_not_mem_chars v,
      newline_not_mem_tailFields rest]

end

end Json

private theorem newline_mem_utf8EncodeChar {c : Char}
    (h : Input.newline ∈ String.utf8EncodeChar c) :
    c = '\n' := by
  have hbyte : ∀ n, Input.newline = UInt8.ofNat n → n % 256 = 10 := by
    intro n hn
    have hnat := congrArg UInt8.toNat hn
    rw [UInt8.toNat_ofNat'] at hnat
    exact hnat.symm
  rw [String.utf8EncodeChar] at h
  split at h
  · have hn := hbyte _ (List.mem_singleton.mp h)
    exact Char.toNat_inj.mp (show c.val.toNat = 10 by omega)
  split at h
  · simp only [List.mem_cons, List.not_mem_nil, or_false] at h
    rcases h with h | h <;> have hn := hbyte _ h <;> omega
  split at h
  · simp only [List.mem_cons, List.not_mem_nil, or_false] at h
    rcases h with h | h | h <;> have hn := hbyte _ h <;> omega
  · simp only [List.mem_cons, List.not_mem_nil, or_false] at h
    rcases h with h | h | h | h <;> have hn := hbyte _ h <;> omega

private theorem newline_not_mem_toUTF8 {s : String} (h : '\n' ∉ s.toList) :
    Input.newline ∉ s.toUTF8.toList := by
  intro hmem
  rw [toUTF8_toList] at hmem
  obtain ⟨c, hc, hbyte⟩ := List.mem_flatMap.mp hmem
  exact h (newline_mem_utf8EncodeChar hbyte ▸ hc)

namespace Message

private theorem newline_not_mem_encode (m : Message) : Input.newline ∉ m.encode.toUTF8.toList := by
  refine newline_not_mem_toUTF8 ?_
  rw [encode, String.toList_ofList]
  exact Json.newline_not_mem_chars _

private theorem lineBytes_encode (m : Message) :
    Bench.Session.lineBytes m.encode = m.encode.toUTF8.toList ++ [Input.newline] := by
  have hend : "\n".toList.flatMap String.utf8EncodeChar = [Input.newline] := by decide +kernel
  rw [Bench.Session.lineBytes, toUTF8_toList, String.toList_append, List.flatMap_append, hend,
    ← toUTF8_toList]

def stream (ms : List Message) : List UInt8 :=
  ms.flatMap fun m => Bench.Session.lineBytes m.encode

/-- The lines of what is written are the lines of the messages, in whichever pieces it arrives. -/
theorem lines_stream {ms : List Message} {pieces : List (List UInt8)}
    (h : pieces.flatten = stream ms) :
    Input.lines pieces = ms.map fun m => Bench.Session.lineBytes m.encode := by
  let texts := ms.map fun m => m.encode.toUTF8.toList
  have hline : (fun m : Message => Bench.Session.lineBytes m.encode) =
      (· ++ [Input.newline]) ∘ fun m => m.encode.toUTF8.toList := funext lineBytes_encode
  have hwhole : ∀ text ∈ texts, Input.newline ∉ text := by
    intro text htext
    obtain ⟨m, -, rfl⟩ := List.mem_map.mp htext
    exact m.newline_not_mem_encode
  have hstream : stream ms = texts.flatMap (· ++ [Input.newline]) := by
    rw [stream, hline, List.flatMap_map]
    rfl
  rw [Input.lines_eq, h, hstream, Input.lines, Input.linesFrom, List.nil_append,
    Input.cut_lines hwhole, hline, ← List.map_map]
  simp [Input.linesFrom, texts]

end Message

end ClusterNode
