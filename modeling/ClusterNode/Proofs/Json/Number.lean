import ClusterNode.Json.Reader
import ClusterNode.Proofs.Basic
import Mathlib.Data.List.TakeWhile

/-!
Numbers are read back: reading a number literal does not depend on what follows it, and the text of
an integer denotes that integer.
-/

set_option autoImplicit false

namespace ClusterNode

/-- A number is read back from its own text. -/
def Number.Survives (n : Number) : Prop := Json.read n.chars = .ok (.number n)

namespace Json

def EndsNumber (tail : List Char) : Prop :=
  ∀ c ∈ tail.head?, c.isDigit = false ∧ c ≠ '.' ∧ c ≠ 'e' ∧ c ≠ 'E'

section Tail

variable {s rest tail : List Char}

private theorem takeWhile_isDigit_tail (ht : EndsNumber tail) :
    tail.takeWhile Char.isDigit = [] ∧ tail.dropWhile Char.isDigit = tail := by
  cases tail with
  | nil => exact ⟨rfl, rfl⟩
  | cons c tail =>
    have hc := (ht c rfl).1
    simp [hc]

private theorem digits1_append {digits : List Char} (h : digits1 s = .ok (digits, rest))
    (ht : EndsNumber tail) : digits1 (s ++ tail) = .ok (digits, rest ++ tail) := by
  obtain ⟨htake, hdrop⟩ := takeWhile_isDigit_tail ht
  cases s with
  | nil => cases h
  | cons c s =>
    simp only [digits1] at h
    split at h
    · rename_i hc
      obtain ⟨hdigits, hrest⟩ := Prod.mk.inj (Except.ok.inj h)
      simp only [List.cons_append, digits1, hc, if_true]
      rw [← List.cons_append, List.takeWhile_append, List.dropWhile_append, hdigits, hrest, htake,
        hdrop]
      have hsplit : digits ++ rest = c :: s := by
        rw [← hdigits, ← hrest, List.takeWhile_append_dropWhile]
      cases rest with
      | nil =>
        have hall : digits = c :: s := by simpa using hsplit
        simp [hall]
      | cons d rest =>
        have hlen : digits.length ≠ (c :: s).length := by
          rw [← hsplit]
          simp
        rw [if_neg hlen]
        rfl
    · cases h

private theorem readFraction_append {fraction : List Char}
    (h : readFraction s = .ok (fraction, rest))
    (ht : EndsNumber tail) : readFraction (s ++ tail) = .ok (fraction, rest ++ tail) := by
  cases s with
  | nil =>
    obtain ⟨rfl, rfl⟩ := Prod.mk.inj (Except.ok.inj h)
    cases tail with
    | nil => rfl
    | cons c tail =>
      have hc := (ht c rfl).2.1
      simp only [List.nil_append, readFraction]
      split
      · rename_i heq
        exact absurd (List.cons.inj heq).1 hc
      · rfl
  | cons c s =>
    by_cases hc : c = '.'
    · subst hc
      exact digits1_append h ht
    · have hread : ∀ u, readFraction (c :: u) = .ok ([], c :: u) := by
        intro u
        simp only [readFraction]
        split
        · rename_i heq
          exact absurd (List.cons.inj heq).1 hc
        · rfl
      rw [hread] at h
      obtain ⟨rfl, rfl⟩ := Prod.mk.inj (Except.ok.inj h)
      exact hread _

private def signed : List Char → Bool × List Char
  | '+' :: r => (false, r)
  | '-' :: r => (true, r)
  | r => (false, r)

private theorem readExponent_cons (mark : Char) (s : List Char) :
    readExponent (mark :: s) =
      if mark = 'e' ∨ mark = 'E' then
        digits1 (signed s).2 >>= fun p => pure (some ((signed s).1, p.1), p.2)
      else .ok (none, mark :: s) := by
  simp only [readExponent]
  split <;> rfl

private theorem signed_append (hs : s ≠ []) :
    signed (s ++ tail) = ((signed s).1, (signed s).2 ++ tail) := by
  cases s with
  | nil => exact absurd rfl hs
  | cons c s =>
    by_cases hplus : c = '+'
    · subst hplus
      rfl
    · by_cases hminus : c = '-'
      · subst hminus
        rfl
      · have hunsigned : ∀ u : List Char, signed (c :: u) = (false, c :: u) := by
          intro u
          unfold signed
          split
          · rename_i heq
            exact absurd (List.cons.inj heq).1 hplus
          · rename_i heq
            exact absurd (List.cons.inj heq).1 hminus
          · rfl
        rw [List.cons_append, hunsigned, hunsigned, List.cons_append]

private theorem readExponent_append {exponent : Option (Bool × List Char)}
    (h : readExponent s = .ok (exponent, rest)) (ht : EndsNumber tail) :
    readExponent (s ++ tail) = .ok (exponent, rest ++ tail) := by
  cases s with
  | nil =>
    obtain ⟨rfl, rfl⟩ := Prod.mk.inj (Except.ok.inj h)
    cases tail with
    | nil => rfl
    | cons c tail =>
      have hc := (ht c rfl).2.2
      simp [readExponent, hc]
  | cons mark s =>
    rw [List.cons_append, readExponent_cons]
    rw [readExponent_cons] at h
    split at h
    · rename_i hmark
      rw [if_pos hmark]
      have hs : s ≠ [] := by
        rintro rfl
        cases h
      rw [signed_append hs]
      obtain ⟨p, hdigits, h⟩ := exists_of_bind_eq_ok h
      obtain ⟨rfl, rfl⟩ := Prod.mk.inj (Except.ok.inj h)
      rw [digits1_append hdigits ht]
      rfl
    · rename_i hmark
      rw [if_neg hmark]
      obtain ⟨rfl, rfl⟩ := Prod.mk.inj (Except.ok.inj h)
      rfl

theorem readLiteral_eq_ok_iff {isNegative : Bool} {literal : Literal} :
    readLiteral isNegative s = .ok (literal, rest) ↔
      ∃ whole s₁ fraction s₂ exponent, digits1 s = .ok (whole, s₁) ∧
        ¬ (whole.head? = some '0' ∧ 1 < whole.length) ∧ readFraction s₁ = .ok (fraction, s₂) ∧
        readExponent s₂ = .ok (exponent, rest) ∧
          literal = ⟨isNegative, whole, fraction, exponent⟩ := by
  constructor
  · intro h
    obtain ⟨⟨whole, s₁⟩, hwhole, h⟩ := exists_of_bind_eq_ok h
    dsimp only at h
    split at h
    · cases h
    · rename_i hlead
      obtain ⟨⟨fraction, s₂⟩, hfraction, h⟩ := exists_of_bind_eq_ok h
      obtain ⟨⟨exponent, s₃⟩, hexponent, h⟩ := exists_of_bind_eq_ok h
      obtain ⟨rfl, rfl⟩ := Prod.mk.inj (Except.ok.inj h)
      exact ⟨whole, s₁, fraction, s₂, exponent, hwhole, hlead, hfraction, hexponent, rfl⟩
  · rintro ⟨whole, s₁, fraction, s₂, exponent, hwhole, hlead, hfraction, hexponent, rfl⟩
    simp only [readLiteral, hwhole, bind, Except.bind, if_neg hlead, hfraction, hexponent]
    rfl

theorem numberFrom_eq_ok_iff {first : Char} {n : Number} : numberFrom first s = .ok (n, rest) ↔
    ∃ literal, literalFrom first s = .ok (literal, rest) ∧ literal.value? = some n := by
  constructor
  · intro h
    obtain ⟨⟨literal, r⟩, hliteral, h⟩ := exists_of_bind_eq_ok h
    dsimp only at h
    split at h
    · rename_i n' hvalue
      obtain ⟨rfl, rfl⟩ := Prod.mk.inj (Except.ok.inj h)
      exact ⟨literal, hliteral, hvalue⟩
    · cases h
  · rintro ⟨literal, hliteral, hvalue⟩
    simp only [numberFrom, hliteral, bind, Except.bind, hvalue]
    rfl

private theorem readLiteral_append {isNegative : Bool} {literal : Literal}
    (h : readLiteral isNegative s = .ok (literal, rest)) (ht : EndsNumber tail) :
    readLiteral isNegative (s ++ tail) = .ok (literal, rest ++ tail) := by
  obtain ⟨whole, s₁, fraction, s₂, exponent, hwhole, hlead, hfraction, hexponent, rfl⟩ :=
    readLiteral_eq_ok_iff.mp h
  exact readLiteral_eq_ok_iff.mpr ⟨whole, _, fraction, _, exponent, digits1_append hwhole ht, hlead,
    readFraction_append hfraction ht, readExponent_append hexponent ht, rfl⟩

private theorem literalFrom_append {first : Char} {literal : Literal}
    (h : literalFrom first s = .ok (literal, rest))
    (ht : EndsNumber tail) : literalFrom first (s ++ tail) = .ok (literal, rest ++ tail) := by
  simp only [literalFrom] at h ⊢
  split at h
  · rename_i hminus
    rw [if_pos hminus]
    exact readLiteral_append h ht
  · rename_i hminus
    rw [if_neg hminus]
    exact readLiteral_append h ht

theorem numberFrom_append {first : Char} {n : Number} (h : numberFrom first s = .ok (n, rest))
    (ht : EndsNumber tail) : numberFrom first (s ++ tail) = .ok (n, rest ++ tail) := by
  obtain ⟨literal, hliteral, hvalue⟩ := numberFrom_eq_ok_iff.mp h
  exact numberFrom_eq_ok_iff.mpr ⟨literal, literalFrom_append hliteral ht, hvalue⟩

end Tail

section Integers

open Number (digitsOf)

theorem isDigit_of_mem_digitsOf {n : Nat} {c : Char} (hc : c ∈ digitsOf n) : c.isDigit = true :=
  Nat.isDigit_of_mem_toDigits (by decide) (by decide) hc

private theorem digits1_digitsOf (n : Nat) : digits1 (digitsOf n) = .ok (digitsOf n, []) := by
  have htake : (digitsOf n).takeWhile Char.isDigit = digitsOf n :=
    List.takeWhile_eq_self_iff.mpr fun c hc => isDigit_of_mem_digitsOf hc
  have hdrop : (digitsOf n).dropWhile Char.isDigit = [] :=
    List.dropWhile_eq_nil_iff.mpr fun c hc => isDigit_of_mem_digitsOf hc
  cases hdigits : digitsOf n with
  | nil => exact absurd hdigits Nat.toDigits_ne_nil
  | cons c rest =>
    have hc : c.isDigit = true :=
      isDigit_of_mem_digitsOf (by rw [hdigits]; exact List.mem_cons_self)
    rw [hdigits] at htake hdrop
    simp only [digits1, hc, if_true, htake, hdrop]

private theorem head?_digitsOf {n : Nat} (hn : 0 < n) : (digitsOf n).head? ≠ some '0' := by
  induction n using Nat.strongRecOn with
  | _ n ih =>
    by_cases hlt : n < 10
    · rw [digitsOf, Nat.toDigits_of_lt_base hlt]
      simp
      omega
    · rw [digitsOf, Nat.toDigits_of_base_le (by decide) (by omega)]
      have hdiv : 0 < n / 10 := by omega
      have hhead := ih (n / 10) (by omega) hdiv
      rw [List.head?_append]
      cases hdigits : digitsOf (n / 10) with
      | nil => exact absurd hdigits Nat.toDigits_ne_nil
      | cons c rest =>
        rw [hdigits] at hhead
        rw [digitsOf] at hdigits
        rw [hdigits]
        exact hhead

private theorem readLiteral_digitsOf (isNegative : Bool) (n : Nat) :
    readLiteral isNegative (digitsOf n) = .ok (⟨isNegative, digitsOf n, [], none⟩, []) := by
  have hlead : ¬ ((digitsOf n).head? = some '0' ∧ 1 < (digitsOf n).length) := by
    rintro ⟨hhead, hlength⟩
    rcases Nat.eq_zero_or_pos n with rfl | hn
    · simp [digitsOf] at hlength
    · exact head?_digitsOf hn hhead
  simp only [readLiteral, digits1_digitsOf, bind, Except.bind, if_neg hlead]
  rfl

private theorem accumulate_append {limit n m : Nat} {first second : List Char}
    (h : Literal.accumulate limit n first = (m, [])) :
    Literal.accumulate limit n (first ++ second) = Literal.accumulate limit m second := by
  induction first generalizing n with
  | nil =>
    obtain ⟨rfl, -⟩ := Prod.mk.inj h
    rfl
  | cons c first ih =>
    simp only [List.cons_append, Literal.accumulate] at h ⊢
    split at h
    · rename_i hle
      rw [if_pos hle]
      exact ih h
    · cases (Prod.mk.inj h).2

private theorem accumulate_digitsOf {limit n : Nat} (hn : n ≤ limit) :
    Literal.accumulate limit 0 (digitsOf n) = (n, []) := by
  have hdigit : ∀ {d : Nat}, d < 10 → Literal.digitValue d.digitChar = d := fun hd =>
    Nat.toNat_digitChar_sub_48_of_lt_ten hd
  induction n using Nat.strongRecOn with
  | _ n ih =>
    by_cases hlt : n < 10
    · rw [digitsOf, Nat.toDigits_of_lt_base hlt]
      simp [Literal.accumulate, hdigit hlt, hn]
    · rw [digitsOf, Nat.toDigits_of_base_le (by decide) (by omega)]
      have hfirst := ih (n / 10) (by omega) (by omega)
      have hmod : n % 10 < 10 := Nat.mod_lt _ (by decide)
      have hsum : n / 10 * 10 + n % 10 = n := by omega
      rw [digitsOf] at hfirst
      rw [accumulate_append hfirst]
      simp [Literal.accumulate, hdigit hmod, hsum, hn]

theorem numberFrom_unsigned (n : UInt64) :
    ∃ c rest, (Number.unsigned n).chars = c :: rest ∧ c.isDigit = true ∧
      numberFrom c rest = .ok (.unsigned n, []) := by
  cases hdigits : digitsOf n.toNat with
  | nil => exact absurd hdigits Nat.toDigits_ne_nil
  | cons c rest =>
    have hc : c.isDigit = true :=
      isDigit_of_mem_digitsOf (by rw [hdigits]; exact List.mem_cons_self)
    have hminus : c ≠ '-' := by
      rintro rfl
      cases hc
    have hvalue : Literal.value? ⟨false, digitsOf n.toNat, [], none⟩ = some (.unsigned n) := by
      have hle : n.toNat ≤ Literal.significandLimit := Nat.le_pred_of_lt n.toNat_lt
      simp [Literal.value?, accumulate_digitsOf hle]
    refine ⟨c, rest, hdigits, hc, ?_⟩
    have hread := readLiteral_digitsOf false n.toNat
    rw [hdigits] at hread hvalue
    simp only [numberFrom, literalFrom, if_neg hminus, hread, bind, Except.bind, hvalue]
    rfl

private theorem numberFrom_negative (n : { n : Int64 // n < 0 }) :
    ∃ rest, (Number.negative n).chars = '-' :: rest ∧
      numberFrom '-' rest = .ok (.negative n, []) := by
  have hneg : n.val.toInt < 0 := by
    have := n.property
    rwa [Int64.lt_iff_toInt_lt] at this
  have hmin : -(2 : Int) ^ 63 ≤ n.val.toInt := Int64.le_toInt n.val
  have habs : (-(n.val.toInt.natAbs : Int)) = n.val.toInt := by omega
  have hvalue : Literal.value? ⟨true, digitsOf n.val.toInt.natAbs, [], none⟩ =
      some (.negative n) := by
    have hle : n.val.toInt.natAbs ≤ Literal.significandLimit := by
      have : Literal.significandLimit = 18446744073709551615 := by decide
      omega
    have hfits : n.val.toInt.natAbs ≤ twoTo 63 := by
      have : twoTo 63 = 9223372036854775808 := by decide
      omega
    have hof : Int64.ofInt (-(n.val.toInt.natAbs : Int)) = n.val := by
      rw [habs]
      exact Int64.ofInt_toInt n.val
    simp only [Literal.value?, accumulate_digitsOf hle, List.isEmpty_nil, Option.isNone_none,
      and_self, if_true, Bool.not_true, Bool.false_eq_true, if_false]
    rw [dif_pos ⟨by rw [hof]; exact n.property, hfits⟩]
    congr 2
    exact Subtype.ext hof
  refine ⟨digitsOf n.val.toInt.natAbs, by simp [Number.chars, Number.intText, hneg], ?_⟩
  simp only [numberFrom, literalFrom, if_true, readLiteral_digitsOf, bind, Except.bind, hvalue]
  rfl

end Integers

section Blanks

def IsBlank (c : Char) : Prop := c = ' ' ∨ c = '\n' ∨ c = '\t' ∨ c = '\r'

instance : DecidablePred IsBlank := fun c =>
  inferInstanceAs (Decidable (c = ' ' ∨ c = '\n' ∨ c = '\t' ∨ c = '\r'))

theorem skipBlanks_cons {c : Char} (hc : ¬ IsBlank c) (rest : List Char) :
    skipBlanks (c :: rest) = c :: rest := by
  simp only [skipBlanks]
  exact if_neg hc

theorem not_isBlank_of_isDigit {c : Char} (hc : c.isDigit = true) : ¬ IsBlank c := by
  rintro (rfl | rfl | rfl | rfl) <;> cases hc

private theorem skipBlanks_eq_nil {s : List Char} (h : skipBlanks s = [])
    (hs : ∀ c ∈ s, ¬ IsBlank c) :
    s = [] := by
  cases s with
  | nil => rfl
  | cons c s =>
    rw [skipBlanks_cons (hs c List.mem_cons_self)] at h
    cases h

end Blanks

section Survival

def NumberChar (c : Char) : Prop := c.isDigit = true ∨ c = '-' ∨ c = '+' ∨ c = '.' ∨ c = 'e'

theorem NumberChar.not_isBlank {c : Char} (hc : NumberChar c) : ¬ IsBlank c := by
  rcases hc with hc | rfl | rfl | rfl | rfl
  · exact not_isBlank_of_isDigit hc
  all_goals decide

private theorem numberChar_digitsOf {n : Nat} {c : Char} (hc : c ∈ Number.digitsOf n) :
    NumberChar c :=
  .inl (isDigit_of_mem_digitsOf hc)

private theorem numberChar_decimalText {d : Decimal} {c : Char} (hc : c ∈ Number.decimalText d) :
    NumberChar c := by
  have hzero : NumberChar '0' := .inl rfl
  have hmark : NumberChar '-' ∧ NumberChar '+' ∧ NumberChar '.' ∧ NumberChar 'e' := by
    refine ⟨?_, ?_, ?_, ?_⟩ <;> simp [NumberChar]
  simp only [Number.decimalText] at hc
  split at hc
  · split at hc
    · rcases List.mem_append.mp hc with hc | hc
      · rcases List.mem_append.mp hc with hc | hc
        · exact numberChar_digitsOf hc
        · rw [List.eq_of_mem_replicate hc]
          exact hzero
      · simp only [List.mem_cons, List.not_mem_nil, or_false] at hc
        rcases hc with rfl | rfl
        · exact hmark.2.2.1
        · exact hzero
    · split at hc
      · rcases List.mem_append.mp hc with hc | hc
        · exact numberChar_digitsOf (List.mem_of_mem_take hc)
        · rcases List.mem_cons.mp hc with rfl | hc
          · exact hmark.2.2.1
          · exact numberChar_digitsOf (List.mem_of_mem_drop hc)
      · simp only [List.mem_cons, List.mem_append] at hc
        rcases hc with rfl | rfl | hc | hc
        · exact hzero
        · exact hmark.2.2.1
        · rw [List.eq_of_mem_replicate hc]
          exact hzero
        · exact numberChar_digitsOf hc
  · simp only [List.mem_append, List.mem_cons] at hc
    rcases hc with (hc | hc) | rfl | rfl | hc
    · exact numberChar_digitsOf (List.mem_of_mem_take hc)
    · split at hc
      · cases hc
      · rcases List.mem_cons.mp hc with rfl | hc
        · exact hmark.2.2.1
        · exact numberChar_digitsOf (List.mem_of_mem_drop hc)
    · exact hmark.2.2.2
    · split
      · exact hmark.1
      · exact hmark.2.1
    · exact numberChar_digitsOf hc

theorem numberChar_chars {n : Number} {c : Char} (hc : c ∈ n.chars) : NumberChar c := by
  have hminus : NumberChar '-' := .inr (.inl rfl)
  cases n with
  | unsigned n => exact numberChar_digitsOf hc
  | negative n =>
    simp only [Number.chars, Number.intText] at hc
    split at hc
    · rcases List.mem_cons.mp hc with rfl | hc
      · exact hminus
      · exact numberChar_digitsOf hc
    · exact numberChar_digitsOf hc
  | double x =>
    have hmagnitude : ∀ c ∈ (if x.magnitude.val = 0 then ['0', '.', '0']
        else Number.decimalText (Decimal.ofMagnitude x.magnitude)), NumberChar c := by
      intro c hc
      split at hc
      · simp only [List.mem_cons, List.not_mem_nil, or_false] at hc
        rcases hc with rfl | rfl | rfl <;> simp [NumberChar]
      · exact numberChar_decimalText hc
    simp only [Number.chars, Number.doubleText] at hc
    split at hc
    · rcases List.mem_cons.mp hc with rfl | hc
      · exact hminus
      · exact hmagnitude c hc
    · exact hmagnitude c hc

private theorem digits1_subset {s digits rest : List Char} (h : digits1 s = .ok (digits, rest)) :
    rest ⊆ s := by
  cases s with
  | nil => cases h
  | cons c s =>
    simp only [digits1] at h
    split at h
    · obtain ⟨-, rfl⟩ := Prod.mk.inj (Except.ok.inj h)
      exact (List.dropWhile_suffix _).subset
    · cases h

private theorem readFraction_subset {s fraction rest : List Char}
    (h : readFraction s = .ok (fraction, rest)) : rest ⊆ s := by
  unfold readFraction at h
  split at h
  · exact fun c hc => List.mem_cons_of_mem _ (digits1_subset h hc)
  · obtain ⟨-, rfl⟩ := Prod.mk.inj (Except.ok.inj h)
    exact fun _ hc => hc

private theorem signed_subset (s : List Char) : (signed s).2 ⊆ s := by
  unfold signed
  split
  · exact List.subset_cons_self _ _
  · exact List.subset_cons_self _ _
  · exact fun _ hc => hc

private theorem readExponent_subset {s rest : List Char} {exponent : Option (Bool × List Char)}
    (h : readExponent s = .ok (exponent, rest)) : rest ⊆ s := by
  cases s with
  | nil =>
    obtain ⟨-, rfl⟩ := Prod.mk.inj (Except.ok.inj h)
    exact fun _ hc => hc
  | cons mark s =>
    rw [readExponent_cons] at h
    split at h
    · obtain ⟨p, hdigits, h⟩ := exists_of_bind_eq_ok h
      obtain ⟨-, rfl⟩ := Prod.mk.inj (Except.ok.inj h)
      exact fun c hc => List.mem_cons_of_mem _ (signed_subset s (digits1_subset hdigits hc))
    · obtain ⟨-, rfl⟩ := Prod.mk.inj (Except.ok.inj h)
      exact fun _ hc => hc

private theorem readLiteral_subset {s rest : List Char} {isNegative : Bool} {literal : Literal}
    (h : readLiteral isNegative s = .ok (literal, rest)) : rest ⊆ s := by
  obtain ⟨whole, s₁, fraction, s₂, exponent, hwhole, -, hfraction, hexponent, -⟩ :=
    readLiteral_eq_ok_iff.mp h
  exact fun c hc => digits1_subset hwhole
    (readFraction_subset hfraction (readExponent_subset hexponent hc))

private theorem numberFrom_subset {first : Char} {s rest : List Char} {n : Number}
    (h : numberFrom first s = .ok (n, rest)) : rest ⊆ first :: s := by
  obtain ⟨literal, hliteral, -⟩ := numberFrom_eq_ok_iff.mp h
  simp only [literalFrom] at hliteral
  split at hliteral
  · exact fun c hc => List.mem_cons_of_mem _ (readLiteral_subset hliteral hc)
  · exact readLiteral_subset hliteral

theorem readValue_number {fuel depth : Nat} {c : Char} {rest r : List Char} {n : Number}
    (hc : ¬ IsBlank c) (h : readValue (fuel + 1) depth (c :: rest) = .ok (.number n, r)) :
    (c = '-' ∨ c.isDigit = true) ∧ numberFrom c rest = .ok (n, r) := by
  have hmap : ∀ {α : Type} {x : Except Fault (α × List Char)} (f : α → Json),
      (∀ a, f a ≠ .number n) → (x >>= fun p => pure (f p.1, p.2)) ≠ .ok (.number n, r) := by
    intro α x f hf hx
    obtain ⟨p, -, hx⟩ := exists_of_bind_eq_ok hx
    exact hf p.1 (Prod.mk.inj (Except.ok.inj hx)).1
  have hword : ∀ {word : List Char} {v : Json}, v ≠ .number n →
      (expect word rest >>= fun rest => pure (v, rest)) ≠ .ok (.number n, r) := by
    intro word v hv hx
    obtain ⟨u, -, hx⟩ := exists_of_bind_eq_ok hx
    exact hv (Prod.mk.inj (Except.ok.inj hx)).1
  rw [readValue, skipBlanks_cons hc] at h
  dsimp only at h
  split at h
  · exact absurd h (hmap (fun text => .string (String.ofList text)) (by simp))
  split at h
  · split at h
    · cases h
    · exact absurd h (hmap .array (by simp))
  split at h
  · split at h
    · cases h
    · exact absurd h (hmap (fun fields => .object (Dictionary.ofList fields)) (by simp))
  split at h
  · rename_i hdigit
    refine ⟨hdigit, ?_⟩
    obtain ⟨p, hread, h⟩ := exists_of_bind_eq_ok h
    obtain ⟨hn, hr⟩ := Prod.mk.inj (Except.ok.inj h)
    rw [hread, ← Json.number.inj hn, ← hr]
  split at h
  · exact absurd h (hword (by simp))
  split at h
  · exact absurd h (hword (by simp))
  split at h
  · exact absurd h (hword (by simp))
  · cases h

theorem numberFrom_of_survives {n : Number} (hn : n.Survives) :
    ∃ c rest, n.chars = c :: rest ∧ (c = '-' ∨ c.isDigit = true) ∧
      numberFrom c rest = .ok (n, []) := by
  have hblank : ∀ c ∈ n.chars, ¬ IsBlank c := fun c hc => (numberChar_chars hc).not_isBlank
  obtain ⟨⟨v, r⟩, hread, hn⟩ := exists_of_bind_eq_ok hn
  obtain ⟨u, hfinish, hn⟩ := exists_of_bind_eq_ok hn
  obtain rfl := Except.ok.inj hn
  cases hchars : n.chars with
  | nil =>
    rw [hchars] at hread
    simp [fuelFor, readValue, skipBlanks] at hread
  | cons c rest =>
    rw [hchars] at hread hblank
    have hfuel : fuelFor (c :: rest) = 3 * (c :: rest).length + 2 + 1 := rfl
    rw [hfuel] at hread
    obtain ⟨hc, hnumber⟩ := readValue_number (hblank c List.mem_cons_self) hread
    have hsubset := numberFrom_subset hnumber
    have hnil : r = [] := by
      refine skipBlanks_eq_nil ?_ fun d hd => hblank d (hsubset hd)
      simp only [finish] at hfinish
      split at hfinish
      · assumption
      · cases hfinish
    exact ⟨c, rest, rfl, hc, hnil ▸ hnumber⟩

theorem readValue_of_numberFrom {fuel depth : Nat} {n : Number} {c : Char} {rest r : List Char}
    (hc : c = '-' ∨ c.isDigit = true) (h : numberFrom c rest = .ok (n, r)) :
    readValue (fuel + 1) depth (c :: rest) = .ok (.number n, r) := by
  have hblank : ¬ IsBlank c := by
    rcases hc with rfl | hc
    · decide
    · exact not_isBlank_of_isDigit hc
  have hplain : c ≠ '"' ∧ c ≠ '[' ∧ c ≠ '\x7b' := by
    rcases hc with rfl | hc
    · decide
    · refine ⟨?_, ?_, ?_⟩ <;> rintro rfl <;> cases hc
  rw [readValue, skipBlanks_cons hblank]
  simp only [hplain, hc, if_true, if_false, h]
  rfl

theorem survives_of_numberFrom {n : Number} {c : Char} {rest : List Char}
    (hchars : n.chars = c :: rest) (hc : c = '-' ∨ c.isDigit = true)
    (h : numberFrom c rest = .ok (n, [])) : n.Survives := by
  have hfuel : fuelFor (c :: rest) = 3 * (c :: rest).length + 2 + 1 := rfl
  rw [Number.Survives, hchars, read, hfuel, readValue_of_numberFrom hc h]
  rfl

theorem survives_unsigned (n : UInt64) : (Number.unsigned n).Survives := by
  obtain ⟨c, rest, hchars, hc, h⟩ := numberFrom_unsigned n
  exact survives_of_numberFrom hchars (.inr hc) h

theorem survives_negative (n : { n : Int64 // n < 0 }) : (Number.negative n).Survives := by
  obtain ⟨rest, hchars, h⟩ := numberFrom_negative n
  exact survives_of_numberFrom hchars (.inl rfl) h

theorem survives_ofInt64 (n : Int64) : (Number.ofInt64 n).Survives := by
  unfold Number.ofInt64
  split
  · exact survives_negative _
  · exact survives_unsigned _

end Survival

end Json

end ClusterNode
