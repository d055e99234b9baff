import ClusterNode.Json.Printer
import ClusterNode.Json.Reader

/-!
Strings are read back: each character is written so that it is read as itself.
-/

set_option autoImplicit false

namespace ClusterNode.Json

private theorem hexQuad?_hexDigit :
    ∀ n < 0x20, hexQuad? '0' '0' (hexDigit (n / 16)) (hexDigit (n % 16)) = some n := by
  decide

private theorem stringTail_hex {n : Nat} (hn : n < 0x20) (rest : List Char) :
    stringTail ('\\' :: 'u' :: '0' :: '0' :: hexDigit (n / 16) :: hexDigit (n % 16) :: rest) =
      push (Char.ofNat n) (stringTail rest) := by
  rw [stringTail]
  simp only [hexQuad?_hexDigit n hn]
  rw [if_neg (by decide), if_pos trivial, if_neg (by omega), if_pos (by omega)]

private theorem stringTail_plain {c : Char}
    (hquote : c ≠ '"') (hslash : c ≠ '\\') (hc : ¬ c.toNat < 0x20)
    (rest : List Char) : stringTail (c :: rest) = push c (stringTail rest) := by
  rw [stringTail.eq_def]
  simp only [hquote, hslash, hc, if_false]

theorem escape_cases (c : Char) :
    (escape c = [c] ∧ c ≠ '"' ∧ c ≠ '\\' ∧ ¬ c.toNat < 0x20) ∨
    (∃ e, escape c = ['\\', e] ∧ e ≠ 'u' ∧ unescape? e = some c) ∨
    (escape c = ['\\', 'u', '0', '0', hexDigit (c.toNat / 16), hexDigit (c.toNat % 16)] ∧
      c.toNat < 0x20) := by
  by_cases hletter : c ∈ ['"', '\\', '\n', '\r', '\t', '\x08', '\x0c']
  · simp only [List.mem_cons, List.not_mem_nil, or_false] at hletter
    rcases hletter with rfl | rfl | rfl | rfl | rfl | rfl | rfl <;>
      exact .inr (.inl ⟨_, rfl, by decide, by decide⟩)
  · simp only [List.mem_cons, List.not_mem_nil, or_false, not_or] at hletter
    simp only [escape, hletter, if_false]
    split
    · rename_i hc
      exact .inr (.inr ⟨rfl, hc⟩)
    · rename_i hc
      exact .inl ⟨rfl, hletter.1, hletter.2.1, hc⟩

private theorem stringTail_letter {c e : Char} (he : e ≠ 'u') (hc : unescape? e = some c)
    (rest : List Char) :
    stringTail ('\\' :: e :: rest) = push c (stringTail rest) := by
  rw [stringTail, if_neg (by decide), if_pos rfl, if_neg he, hc]
  exact fun _ _ _ _ _ hu => absurd hu he

private theorem stringTail_escape (c : Char) (rest : List Char) :
    stringTail (escape c ++ rest) = push c (stringTail rest) := by
  rcases escape_cases c with ⟨hescape, hquote, hslash, hc⟩ | ⟨e, hescape, he, hc⟩ | ⟨hescape, hc⟩
  · rw [hescape]
    exact stringTail_plain hquote hslash hc rest
  · rw [hescape]
    exact stringTail_letter he hc rest
  · have hchar : Char.ofNat c.toNat = c := Char.ofNat_toNat c
    have hhex := stringTail_hex hc rest
    rw [hchar] at hhex
    rw [hescape]
    exact hhex

private theorem stringTail_flatMap_escape (s rest : List Char) :
    stringTail (s.flatMap escape ++ '"' :: rest) = .ok (s, rest) := by
  induction s with
  | nil =>
    rw [List.flatMap_nil, List.nil_append, stringTail.eq_def]
    rfl
  | cons c s ih =>
    rw [List.flatMap_cons, List.append_assoc, stringTail_escape, ih]
    rfl

theorem stringTail_quote (s : String) (rest : List Char) :
    ∃ t, quote s = '"' :: t ∧ stringTail (t ++ rest) = .ok (s.toList, rest) := by
  refine ⟨_, rfl, ?_⟩
  rw [List.append_assoc]
  exact stringTail_flatMap_escape s.toList rest

end ClusterNode.Json
