import ClusterNode.Json.Printer
import ClusterNode.Proofs.Dictionary
import ClusterNode.Proofs.Json.Number
import ClusterNode.Proofs.Json.Text

/-!
Values are read back: a value whose objects are sorted and whose numbers are read back is read back
from its text, whatever follows it.
-/

set_option autoImplicit false

namespace ClusterNode.Json

mutual

/-- The numbers of a value are read back. -/
def Survives : Json → Prop
  | .number n => n.Survives
  | .array items => SurvivesItems items
  | .object fields => SurvivesFields fields
  | _ => True

def SurvivesItems : List Json → Prop
  | [] => True
  | v :: rest => Survives v ∧ SurvivesItems rest

def SurvivesFields : List (String × Json) → Prop
  | [] => True
  | (_, v) :: rest => Survives v ∧ SurvivesFields rest

end

private theorem chars_eq_cons {v : Json} (hv : v.Survives) :
    ∃ c rest, chars v = c :: rest ∧ ¬ IsBlank c ∧ c ≠ ']' ∧ c ≠ '\x7d' := by
  have hplain : ∀ c : Char, c = 'n' ∨ c = 't' ∨ c = 'f' ∨ c = '"' ∨ c = '[' ∨ c = '\x7b' →
      ¬ IsBlank c ∧ c ≠ ']' ∧ c ≠ '\x7d' := by
    rintro c (rfl | rfl | rfl | rfl | rfl | rfl) <;> decide
  cases v with
  | null => exact ⟨'n', "ull".toList, rfl, hplain 'n' (by simp)⟩
  | bool b =>
    cases b
    · exact ⟨'f', "alse".toList, rfl, hplain 'f' (by simp)⟩
    · exact ⟨'t', "rue".toList, rfl, hplain 't' (by simp)⟩
  | number n =>
    obtain ⟨c, rest, hchars, hc, -⟩ := numberFrom_of_survives hv
    refine ⟨c, rest, hchars, ?_⟩
    rcases hc with rfl | hc
    · decide
    · refine ⟨not_isBlank_of_isDigit hc, ?_, ?_⟩ <;> rintro rfl <;> cases hc
  | string s => exact ⟨'"', _, rfl, hplain '"' (by simp)⟩
  | array items => cases items <;> exact ⟨'[', _, rfl, hplain '[' (by simp)⟩
  | object fields => cases fields <;> exact ⟨'\x7b', _, rfl, hplain '\x7b' (by simp)⟩

theorem endsNumber_cons {c : Char} (hc : c = ',' ∨ c = ']' ∨ c = '\x7d') (rest : List Char) :
    EndsNumber (c :: rest) := by
  intro d hd
  obtain rfl := Option.some.inj hd
  rcases hc with rfl | rfl | rfl <;> decide

private theorem tailItems_eq_cons (items : List Json) :
    ∃ c rest, tailItems items = c :: rest ∧ (c = ',' ∨ c = ']' ∨ c = '\x7d') := by
  cases items with
  | nil => exact ⟨_, _, rfl, by simp⟩
  | cons v items => exact ⟨_, _, rfl, by simp⟩

private theorem tailFields_eq_cons (fields : List (String × Json)) :
    ∃ c rest, tailFields fields = c :: rest ∧ (c = ',' ∨ c = ']' ∨ c = '\x7d') := by
  cases fields with
  | nil => exact ⟨_, _, rfl, by simp⟩
  | cons field fields => exact ⟨_, _, rfl, by simp⟩

private theorem endsNumber_tailItems (items : List Json) (tail : List Char) :
    EndsNumber (tailItems items ++ tail) := by
  obtain ⟨c, rest, h, hc⟩ := tailItems_eq_cons items
  rw [h]
  exact endsNumber_cons hc _

private theorem endsNumber_tailFields (fields : List (String × Json)) (tail : List Char) :
    EndsNumber (tailFields fields ++ tail) := by
  obtain ⟨c, rest, h, hc⟩ := tailFields_eq_cons fields
  rw [h]
  exact endsNumber_cons hc _

theorem expectMark_cons {c : Char} (hc : ¬ IsBlank c) (rest : List Char) :
    expectMark c (c :: rest) = .ok rest := by
  rw [expectMark, skipBlanks_cons hc, expect, if_pos rfl, expect]

private theorem expect_append (word rest : List Char) : expect word (word ++ rest) = .ok rest := by
  induction word with
  | nil => rfl
  | cons c word ih => rw [List.cons_append, expect, if_pos rfl, ih]

private theorem readKey_quote (key : String) (rest : List Char) :
    readKey (quote key ++ ':' :: rest) = .ok (key, rest) := by
  obtain ⟨t, hquote, htail⟩ := stringTail_quote key (':' :: rest)
  have hcolon : ¬ IsBlank ':' := by decide
  rw [hquote, List.cons_append, readKey, expectMark_cons (by decide)]
  simp only [bind, Except.bind, htail, expectMark_cons hcolon]
  rw [String.ofList_toList]
  rfl

private theorem separator_more {close : Char} (rest : List Char) :
    separator close (',' :: rest) = .ok (true, rest) := by
  rw [separator, skipBlanks_cons (by decide)]
  rfl

private theorem separator_close {close : Char} (hclose : close = ']' ∨ close = '\x7d')
    (rest : List Char) :
    separator close (close :: rest) = .ok (false, rest) := by
  have hne : close ≠ ',' := by
    rcases hclose with rfl | rfl <;> decide
  have hblank : ¬ IsBlank close := by
    rcases hclose with rfl | rfl <;> decide
  rw [separator, skipBlanks_cons hblank]
  simp only [hne, if_false, if_true]

private def itemsChars : List Json → List Char
  | [] => []
  | v :: rest => chars v ++ tailItems rest

private def fieldsChars : List (String × Json) → List Char
  | [] => []
  | (k, v) :: rest => quote k ++ ':' :: (chars v ++ tailFields rest)

section Leaves

variable {fuel depth : Nat} {tail : List Char}

private theorem readValue_number_chars {n : Number} (hn : n.Survives) (htail : EndsNumber tail) :
    readValue (fuel + 1) depth (n.chars ++ tail) = .ok (.number n, tail) := by
  obtain ⟨c, rest, hchars, hc, h⟩ := numberFrom_of_survives hn
  rw [hchars]
  exact readValue_of_numberFrom hc (numberFrom_append h htail)

private theorem readValue_quote (s : String) :
    readValue (fuel + 1) depth (quote s ++ tail) = .ok (.string s, tail) := by
  obtain ⟨t, hquote, hread⟩ := stringTail_quote s tail
  rw [hquote, List.cons_append, readValue, skipBlanks_cons (by decide)]
  simp only [if_true, hread]
  show Except.ok (Json.string (String.ofList s.toList), tail) = _
  rw [String.ofList_toList]

private theorem readValue_word (v : Json) (hv : v = .null ∨ ∃ b, v = .bool b) :
    readValue (fuel + 1) depth (chars v ++ tail) = .ok (v, tail) := by
  have hblank : ∀ c : Char, c = 'n' ∨ c = 't' ∨ c = 'f' → ¬ IsBlank c := by
    rintro c (rfl | rfl | rfl) <;> decide
  rcases hv with rfl | ⟨b, rfl⟩
  · have hread := expect_append "ull".toList tail
    show readValue (fuel + 1) depth ('n' :: ("ull".toList ++ tail)) = _
    rw [readValue, skipBlanks_cons (hblank _ (.inl rfl))]
    dsimp only
    rw [hread]
    rfl
  · cases b with
    | true =>
      have hread := expect_append "rue".toList tail
      show readValue (fuel + 1) depth ('t' :: ("rue".toList ++ tail)) = _
      rw [readValue, skipBlanks_cons (hblank _ (.inr (.inl rfl)))]
      dsimp only
      rw [hread]
      rfl
    | false =>
      have hread := expect_append "alse".toList tail
      show readValue (fuel + 1) depth ('f' :: ("alse".toList ++ tail)) = _
      rw [readValue, skipBlanks_cons (hblank _ (.inr (.inr rfl)))]
      dsimp only
      rw [hread]
      rfl

private theorem readArray_items {c : Char} (hblank : ¬ IsBlank c) (hclose : c ≠ ']')
    (rest : List Char) :
    readArray (fuel + 1) depth (c :: rest) = readItems fuel depth (c :: rest) := by
  rw [readArray, skipBlanks_cons hblank]
  split
  · rename_i heq
    cases heq
  · rename_i heq
    exact absurd (List.cons.inj heq).1 hclose
  · rfl

private theorem readObject_fields {c : Char} (hblank : ¬ IsBlank c) (hclose : c ≠ '\x7d')
    (rest : List Char) :
    readObject (fuel + 1) depth (c :: rest) = readFields fuel depth (c :: rest) := by
  rw [readObject, skipBlanks_cons hblank]
  split
  · rename_i heq
    cases heq
  · rename_i heq
    exact absurd (List.cons.inj heq).1 hclose
  · rfl

end Leaves

mutual

/-- A value is read back, whatever follows it, if that does not go on with a number. -/
theorem readValue_chars : ∀ (v : Json), v.Canonical → v.Survives → ∀ (fuel depth : Nat)
    (tail : List Char), 3 * (chars v).length ≤ fuel → v.depth ≤ depth → EndsNumber tail →
    readValue fuel depth (chars v ++ tail) = .ok (v, tail)
  | .null, _, _, fuel, depth, tail, hfuel, _, _ => by
    obtain ⟨fuel, rfl⟩ : ∃ f, fuel = f + 1 := ⟨fuel - 1, by simp [chars] at hfuel; omega⟩
    exact readValue_word .null (.inl rfl)
  | .bool b, _, _, fuel, depth, tail, hfuel, _, _ => by
    obtain ⟨fuel, rfl⟩ : ∃ f, fuel = f + 1 :=
      ⟨fuel - 1, by cases b <;> simp [chars] at hfuel <;> omega⟩
    exact readValue_word (.bool b) (.inr ⟨b, rfl⟩)
  | .number n, _, hs, fuel, depth, tail, hfuel, _, htail => by
    obtain ⟨c, rest, hchars, -⟩ := numberFrom_of_survives hs
    obtain ⟨fuel, rfl⟩ : ∃ f, fuel = f + 1 := ⟨fuel - 1, by simp [chars, hchars] at hfuel; omega⟩
    exact readValue_number_chars hs htail
  | .string s, _, _, fuel, depth, tail, hfuel, _, _ => by
    obtain ⟨fuel, rfl⟩ : ∃ f, fuel = f + 1 := ⟨fuel - 1, by simp [chars, quote] at hfuel; omega⟩
    exact readValue_quote s
  | .array items, hc, hs, fuel, depth, tail, hfuel, hdepth, _ => by
    obtain ⟨depth, rfl⟩ : ∃ d, depth = d + 1 := ⟨depth - 1, by simp [Json.depth] at hdepth; omega⟩
    have hdepth' : depthItems items ≤ depth := by simpa [Json.depth] using hdepth
    cases items with
    | nil =>
      obtain ⟨fuel, rfl⟩ : ∃ f, fuel = f + 2 := ⟨fuel - 2, by simp [chars] at hfuel; omega⟩
      show readValue (fuel + 2) (depth + 1) ('[' :: ']' :: tail) = _
      rw [readValue, skipBlanks_cons (by decide)]
      dsimp only
      rw [readArray, skipBlanks_cons (by decide)]
      rfl
    | cons v rest =>
      obtain ⟨fuel, rfl⟩ : ∃ f, fuel = f + 2 := ⟨fuel - 2, by simp [chars] at hfuel; omega⟩
      have hread := readItems_chars (v :: rest) (by simp) hc hs fuel depth tail
        (by simp [chars, itemsChars] at hfuel ⊢; omega) hdepth'
      obtain ⟨c, t, hchars, hcblank, hclose, -⟩ := chars_eq_cons hs.1
      have hitems : itemsChars (v :: rest) ++ tail = c :: (t ++ tailItems rest ++ tail) := by
        simp [itemsChars, hchars]
      show readValue (fuel + 2) (depth + 1) ('[' :: (itemsChars (v :: rest) ++ tail)) = _
      rw [readValue, skipBlanks_cons (by decide)]
      dsimp only
      rw [hitems, readArray_items hcblank hclose, ← hitems, hread]
      rfl
  | .object fields, hc, hs, fuel, depth, tail, hfuel, hdepth, _ => by
    obtain ⟨depth, rfl⟩ : ∃ d, depth = d + 1 := ⟨depth - 1, by simp [Json.depth] at hdepth; omega⟩
    have hdepth' : depthFields fields ≤ depth := by simpa [Json.depth] using hdepth
    cases fields with
    | nil =>
      obtain ⟨fuel, rfl⟩ : ∃ f, fuel = f + 2 := ⟨fuel - 2, by simp [chars] at hfuel; omega⟩
      show readValue (fuel + 2) (depth + 1) ('\x7b' :: '\x7d' :: tail) = _
      rw [readValue, skipBlanks_cons (by decide)]
      dsimp only
      rw [readObject, skipBlanks_cons (by decide)]
      rfl
    | cons field rest =>
      obtain ⟨k, v⟩ := field
      obtain ⟨fuel, rfl⟩ : ∃ f, fuel = f + 2 := ⟨fuel - 2, by simp [chars] at hfuel; omega⟩
      have hread := readFields_chars ((k, v) :: rest) (by simp) hc.2 hs fuel depth tail
        (by simp [chars, fieldsChars] at hfuel ⊢; omega) hdepth'
      obtain ⟨t, hquote, -⟩ := stringTail_quote k []
      have hfields : fieldsChars ((k, v) :: rest) ++ tail =
          '"' :: (t ++ ':' :: (chars v ++ tailFields rest) ++ tail) := by
        simp [fieldsChars, hquote]
      show readValue (fuel + 2) (depth + 1) ('\x7b' :: (fieldsChars ((k, v) :: rest) ++ tail)) = _
      rw [readValue, skipBlanks_cons (by decide)]
      dsimp only
      rw [hfields, readObject_fields (by decide) (by decide), ← hfields, hread]
      show Except.ok (Json.object (Dictionary.ofList ((k, v) :: rest)), tail) = _
      rw [Dictionary.ofList_of_sorted hc.1]

theorem readItems_chars : ∀ (items : List Json), items ≠ [] → CanonicalItems items →
    SurvivesItems items → ∀ (fuel depth : Nat) (tail : List Char),
    3 * (itemsChars items).length + 1 ≤ fuel → depthItems items ≤ depth →
    readItems fuel depth (itemsChars items ++ tail) = .ok (items, tail)
  | [], hne, _, _, _, _, _, _, _ => absurd rfl hne
  | v :: rest, _, hc, hs, fuel, depth, tail, hfuel, hdepth => by
    obtain ⟨fuel, rfl⟩ : ∃ f, fuel = f + 1 := ⟨fuel - 1, by omega⟩
    have hfuel' : 3 * (chars v).length + 3 * (tailItems rest).length ≤ fuel := by
      simp [itemsChars] at hfuel
      omega
    have hdepth' : v.depth ≤ depth ∧ depthItems rest ≤ depth := by
      simpa [depthItems, Nat.max_le] using hdepth
    have hvalue := readValue_chars v hc.1 hs.1 fuel depth (tailItems rest ++ tail) (by omega)
      hdepth'.1 (endsNumber_tailItems rest tail)
    rw [itemsChars, List.append_assoc, readItems]
    simp only [hvalue, bind, Except.bind]
    cases rest with
    | nil =>
      show (match separator ']' (']' :: tail) with | _ => _) = _
      rw [separator_close (.inl rfl)]
      rfl
    | cons r rest =>
      have hitems := readItems_chars (r :: rest) (by simp) hc.2 hs.2 fuel depth tail
        (by simp [tailItems, itemsChars] at hfuel' ⊢; omega) hdepth'.2
      have htail : tailItems (r :: rest) ++ tail = ',' :: (itemsChars (r :: rest) ++ tail) := by
        simp [tailItems, itemsChars]
      rw [htail, separator_more]
      simp only [if_true, hitems]
      rfl

theorem readFields_chars : ∀ (fields : List (String × Json)), fields ≠ [] →
    CanonicalFields fields → SurvivesFields fields → ∀ (fuel depth : Nat) (tail : List Char),
    3 * (fieldsChars fields).length + 1 ≤ fuel → depthFields fields ≤ depth →
    readFields fuel depth (fieldsChars fields ++ tail) = .ok (fields, tail)
  | [], hne, _, _, _, _, _, _, _ => absurd rfl hne
  | (k, v) :: rest, _, hc, hs, fuel, depth, tail, hfuel, hdepth => by
    obtain ⟨fuel, rfl⟩ : ∃ f, fuel = f + 1 := ⟨fuel - 1, by omega⟩
    have hfuel' : 3 * (chars v).length + 3 * (tailFields rest).length ≤ fuel := by
      simp [fieldsChars] at hfuel
      omega
    have hdepth' : v.depth ≤ depth ∧ depthFields rest ≤ depth := by
      simpa [depthFields, Nat.max_le] using hdepth
    have hvalue := readValue_chars v hc.1 hs.1 fuel depth (tailFields rest ++ tail) (by omega)
      hdepth'.1 (endsNumber_tailFields rest tail)
    have hkey : fieldsChars ((k, v) :: rest) ++ tail =
        quote k ++ ':' :: (chars v ++ (tailFields rest ++ tail)) := by
      simp [fieldsChars]
    rw [hkey, readFields]
    simp only [readKey_quote, hvalue, bind, Except.bind]
    cases rest with
    | nil =>
      show (match separator '\x7d' ('\x7d' :: tail) with | _ => _) = _
      rw [separator_close (.inr rfl)]
      rfl
    | cons field rest =>
      obtain ⟨k', v'⟩ := field
      have hfields := readFields_chars ((k', v') :: rest) (by simp) hc.2 hs.2 fuel depth tail
        (by simp [tailFields, fieldsChars] at hfuel' ⊢; omega) hdepth'.2
      have htail : tailFields ((k', v') :: rest) ++ tail =
          ',' :: (fieldsChars ((k', v') :: rest) ++ tail) := by
        simp [tailFields, fieldsChars]
      rw [htail, separator_more]
      simp only [if_true, hfields]
      rfl

end

end ClusterNode.Json
