import ClusterNode.Message.Envelope
import ClusterNode.Proofs.Dictionary
import ClusterNode.Proofs.Json.Number

/-!
The header of a message, read twice: strictly, when a line is checked, and leniently, when the
message is routed and answered. Of a message that is accepted both say the same, but that an answer
to the request zero counts as no answer. What is accepted is told by the spelling of the numbers:
digits alone, of a number that fits 64 bits. A sign, a point or an exponent is refused whatever the
value, and `-0` with them.
-/

set_option autoImplicit false

namespace ClusterNode

namespace Literal

def natural (l : Literal) : Nat :=
  l.whole.foldl (fun n c => n * 10 + digitValue c) 0

def integer (l : Literal) : Int :=
  if l.negative then -(l.natural : Int) else l.natural

/-- An integer in plain digits, be it signed or not, that fits an unsigned word of 64 bits. -/
structure IsWord (l : Literal) : Prop where
  fraction : l.fraction = []
  exponent : l.exponent = none
  nonneg : 0 ≤ l.integer
  fits : l.integer < UInt64.size

structure IsPlainWord (l : Literal) : Prop extends l.IsWord where
  unsigned : l.negative = false

private theorem le_foldl_digits (n : Nat) (digits : List Char) :
    n ≤ digits.foldl (fun n c => n * 10 + digitValue c) n := by
  induction digits generalizing n with
  | nil => exact le_rfl
  | cons c digits ih =>
    calc
      n ≤ n * 10 + digitValue c := by omega
      _ ≤ (c :: digits).foldl (fun n c => n * 10 + digitValue c) n := ih _

private theorem accumulate_eq_iff {limit n m : Nat} {digits : List Char} (hn : n ≤ limit) :
    accumulate limit n digits = (m, []) ↔
      digits.foldl (fun n c => n * 10 + digitValue c) n = m ∧ m ≤ limit := by
  induction digits generalizing n with
  | nil =>
    simp only [accumulate, List.foldl_nil, Prod.mk.injEq, and_true]
    exact ⟨fun h => ⟨h, h ▸ hn⟩, And.left⟩
  | cons c digits ih =>
    rw [accumulate, List.foldl_cons]
    split
    · next hfirst => exact ih hfirst
    · next hfirst =>
      have hgrows := le_foldl_digits (n * 10 + digitValue c) digits
      constructor
      · intro h
        cases (Prod.mk.inj h).2
      · rintro ⟨rfl, hfits⟩
        omega

private theorem value?_unsigned_iff {l : Literal} {n : UInt64} :
    l.value? = some (.unsigned n) ↔ l.IsPlainWord ∧ l.natural = n.toNat := by
  have hlimit : significandLimit + 1 = UInt64.size := by decide
  have htaken : ∀ {m},
      accumulate significandLimit 0 l.whole = (m, []) ↔ l.natural = m ∧ m ≤ significandLimit :=
    accumulate_eq_iff (Nat.zero_le _)
  have hdouble : ∀ {negative : Bool} {x? : Option Magnitude},
      x?.map (fun x => Number.double ⟨negative, x⟩) ≠ some (.unsigned n) := by
    intro negative x? h
    obtain ⟨x, -, h⟩ := Option.map_eq_some_iff.mp h
    cases h
  constructor
  · intro h
    unfold value? at h
    split at h
    next whole surplus hwhole =>
    split at h
    · next hdigits =>
      obtain ⟨hsurplus, hfraction, hexponent⟩ := hdigits
      rw [List.isEmpty_iff.mp hsurplus, htaken] at hwhole
      obtain ⟨rfl, hfits⟩ := hwhole
      split at h
      · next hsign =>
        have hn : UInt64.ofNat l.natural = n := Number.unsigned.inj (Option.some.inj h)
        have hunsigned : l.negative = false := by simpa using hsign
        have hinteger : l.integer = l.natural := by simp [integer, hunsigned]
        have hword : l.IsWord :=
          ⟨List.isEmpty_iff.mp hfraction,
            Option.isNone_iff_eq_none.mp hexponent, by omega, by omega⟩
        refine ⟨⟨hword, hunsigned⟩, ?_⟩
        rw [← hn, UInt64.toNat_ofNat_of_lt' (by omega)]
      · split at h
        · cases h
        · exact absurd h hdouble
    · exact absurd h hdouble
  · rintro ⟨hplain, hvalue⟩
    have hfits : l.natural ≤ significandLimit := by
      have hn := n.toNat_lt_size
      omega
    simp [value?, htaken.mpr ⟨rfl, hfits⟩, hplain.fraction, hplain.exponent, hplain.unsigned,
      hvalue]

private theorem IsPlainWord.value? {l : Literal} (h : l.IsPlainWord) :
    l.value? = some (.unsigned (.ofNat l.natural)) := by
  have hinteger : l.integer = l.natural := by simp [integer, h.unsigned]
  have hfits : l.natural < UInt64.size := by
    have hlt := h.fits
    omega
  exact value?_unsigned_iff.mpr ⟨h, (UInt64.toNat_ofNat_of_lt' hfits).symm⟩

end Literal

namespace Json

def Spelled (kind : Literal → Prop) (v : Json) : Prop :=
  ∃ l n, kind l ∧ Literal.value? l = some n ∧ v = .number n

private theorem spelled_plainWord_iff {v : Json} : v.Spelled Literal.IsPlainWord ↔
    ∃ n, v = .ofUInt64 n := by
  constructor
  · rintro ⟨l, m, hplain, hvalue, rfl⟩
    obtain rfl : m = _ := Option.some.inj (hvalue.symm.trans hplain.value?)
    exact ⟨_, rfl⟩
  · rintro ⟨n, rfl⟩
    obtain ⟨c, rest, -, -, hread⟩ := numberFrom_unsigned n
    obtain ⟨l, -, hvalue⟩ := numberFrom_eq_ok_iff.mp hread
    exact ⟨l, _, (Literal.value?_unsigned_iff.mp hvalue).1, hvalue, rfl⟩

section Text

variable {fuel depth : Nat} {s rest : List Char}

private theorem not_isBlank_of_skipBlanks {c : Char} {r : List Char} (h : skipBlanks s = c :: r) :
    ¬ IsBlank c := by
  induction s with
  | nil => cases h
  | cons d s ih =>
    simp only [skipBlanks] at h
    split at h
    · exact ih h
    · next hd =>
      obtain ⟨rfl, -⟩ := List.cons.inj h
      exact hd

private theorem exists_of_readValue {v : Json} (h : readValue fuel depth s = .ok (v, rest)) :
    ∃ fuel' c r, fuel = fuel' + 1 ∧ skipBlanks s = c :: r ∧ ¬ IsBlank c ∧
      readValue fuel depth (c :: r) = .ok (v, rest) := by
  cases fuel with
  | zero =>
    rw [readValue] at h
    cases h
  | succ fuel =>
    cases hs : skipBlanks s with
    | nil =>
      rw [readValue, hs] at h
      cases h
    | cons c r =>
      have hc := not_isBlank_of_skipBlanks hs
      refine ⟨fuel, c, r, rfl, rfl, hc, ?_⟩
      rw [← h, readValue, readValue, hs, skipBlanks_cons hc]

private theorem digit_of_literalFrom {c : Char} {r : List Char} {l : Literal}
    (h : literalFrom c r = .ok (l, rest)) :
    c = '-' ∨ c.isDigit = true := by
  unfold literalFrom at h
  split at h
  · next hminus => exact .inl hminus
  · obtain ⟨whole, s₁, -, -, -, hwhole, -⟩ := readLiteral_eq_ok_iff.mp h
    simp only [digits1] at hwhole
    split at hwhole
    · next hdigit => exact .inr hdigit
    · cases hwhole

private theorem readValue_plainWord_iff {v : Json} (h : readValue fuel depth s = .ok (v, rest)) :
    v.Spelled Literal.IsPlainWord ↔
      ∃ c r l, skipBlanks s = c :: r ∧ literalFrom c r = .ok (l, rest) ∧ l.IsPlainWord := by
  obtain ⟨fuel, c, r, rfl, hs, hc, hread⟩ := exists_of_readValue h
  rw [spelled_plainWord_iff]
  constructor
  · rintro ⟨n, rfl⟩
    obtain ⟨l, hliteral, hvalue⟩ := numberFrom_eq_ok_iff.mp (readValue_number hc hread).2
    exact ⟨c, r, l, hs, hliteral, (Literal.value?_unsigned_iff.mp hvalue).1⟩
  · rintro ⟨c', r', l, hs', hliteral, hplain⟩
    obtain ⟨rfl, rfl⟩ := List.cons.inj (hs.symm.trans hs')
    have hnumber := numberFrom_eq_ok_iff.mpr ⟨l, hliteral, hplain.value?⟩
    rw [readValue_of_numberFrom (digit_of_literalFrom hliteral) hnumber] at hread
    obtain ⟨rfl, -⟩ := Prod.mk.inj (Except.ok.inj hread)
    exact ⟨_, rfl⟩

private theorem exists_entries_of_readValue {fields : Dictionary Json}
    (h : readValue fuel depth s = .ok (.object fields, rest)) :
    ∃ fuel' depth' r entries, skipBlanks s = '\x7b' :: r ∧
      readObject fuel' depth' r = .ok (entries, rest) ∧ fields = Dictionary.ofList entries := by
  obtain ⟨fuel, c, r, rfl, hs, hc, hread⟩ := exists_of_readValue h
  have hother : ∀ {α : Type} {x : Except Fault α} {f : α → Json × List Char},
      (∀ a, (f a).1 ≠ .object fields) →
          (x >>= fun a => pure (f a)) ≠ .ok (.object fields, rest) := by
    intro α x f hf hx
    obtain ⟨a, -, hx⟩ := exists_of_bind_eq_ok hx
    exact hf a (congrArg Prod.fst (Except.ok.inj hx))
  rw [readValue, skipBlanks_cons hc] at hread
  dsimp only at hread
  split at hread
  · exact absurd hread (hother (by simp))
  split at hread
  · split at hread
    · cases hread
    · exact absurd hread (hother (by simp))
  split at hread
  · next hbrace =>
    subst hbrace
    split at hread
    · cases hread
    · next depth =>
      obtain ⟨⟨entries, r'⟩, hobject, hread⟩ := exists_of_bind_eq_ok hread
      obtain ⟨hfields, rfl⟩ := Prod.mk.inj (Except.ok.inj hread)
      exact ⟨fuel, depth, r, entries, hs, hobject, (Json.object.inj hfields).symm⟩
  split at hread
  · exact absurd hread (hother (by simp))
  split at hread
  · exact absurd hread (hother (by simp))
  split at hread
  · exact absurd hread (hother (by simp))
  split at hread
  · exact absurd hread (hother (by simp))
  · cases hread

end Text

/-- A body with a header: an object whose tag is a string, if it has one, and whose two numbers are
each absent, null or read from a literal of some kind. -/
def Headed (kind : Literal → Prop) (body : Json) : Prop :=
  ∃ fields, body = .object fields ∧
    (∀ tag ∈ Dictionary.get? "type" fields, ∃ s, tag = .string s) ∧
    ∀ name ∈ ["msg_id", "in_reply_to"], ∀ v ∈ Dictionary.get? name fields, v = .null ∨
      v.Spelled kind

end Json

namespace Payload

section Present

variable {α : Type} {fields : Dictionary Json} {name : String}

theorem present?_eq_ok_iff {decode : Decoder α} {a? : Option α} :
    present? fields name decode = .ok a? ↔
      (Dictionary.get? name fields = none ∧ a? = none) ∨
        ∃ v a, Dictionary.get? name fields = some v ∧ decode v = .ok a ∧ a? = some a := by
  unfold present?
  cases Dictionary.get? name fields with
  | none => simp [eq_comm]
  | some v => cases hv : decode v <;> simp [hv, Except.map, eq_comm]

private theorem exists_present?_iff {decode : Decoder α} :
    (∃ a?, present? fields name decode = .ok a?) ↔
      ∀ v ∈ Dictionary.get? name fields, ∃ a, decode v = .ok a := by
  simp only [present?_eq_ok_iff]
  cases Dictionary.get? name fields with
  | none => simp
  | some v => simp [exists_comm]

private theorem string_eq_ok_iff {v : Json} {s : String} : string v = .ok s ↔ v = .string s := by
  cases v <;> simp [string, wrongType]

private theorem number_eq_ok_iff {v : Json} {n : Number} : number v = .ok n ↔ v = .number n := by
  cases v <;> simp [number, wrongType]

private theorem nullable_uint64_eq_ok_iff {v : Json} {n? : Option UInt64} :
    nullable uint64 v = .ok n? ↔ (v = .null ∧ n? = none) ∨ ∃ n, v = .ofUInt64 n ∧ n? = some n := by
  cases v with
  | number m => cases m <;> simp [nullable, uint64, wrongType, Except.map, Json.ofUInt64, eq_comm]
  | _ => simp [nullable, uint64, wrongType, Except.map, Json.ofUInt64, eq_comm]

private theorem exists_string_iff {v : Json} : (∃ s, string v = .ok s) ↔ ∃ s, v = .string s := by
  simp only [string_eq_ok_iff]

private theorem exists_nullable_uint64_iff {v : Json} :
    (∃ n?, nullable uint64 v = .ok n?) ↔ v = .null ∨ v.Spelled Literal.IsPlainWord := by
  simp only [nullable_uint64_eq_ok_iff, Json.spelled_plainWord_iff]
  constructor
  · rintro ⟨n?, ⟨hv, -⟩ | ⟨n, hv, -⟩⟩
    · exact .inl hv
    · exact .inr ⟨n, hv⟩
  · rintro (hv | ⟨n, hv⟩)
    · exact ⟨none, .inl ⟨hv, rfl⟩⟩
    · exact ⟨some n, .inr ⟨n, hv, rfl⟩⟩

private theorem toString?_of_present {s? : Option String}
    (h : present? fields name string = .ok s?) :
    (Dictionary.get? name fields).bind Json.toString? = s? := by
  rcases present?_eq_ok_iff.mp h with ⟨hget, rfl⟩ | ⟨v, s, hget, hv, rfl⟩
  · rw [hget]
    rfl
  · rw [hget, string_eq_ok_iff.mp hv]
    rfl

private theorem toUInt64?_of_present {n? : Option (Option UInt64)}
    (h : present? fields name (nullable uint64) = .ok n?) :
    (Dictionary.get? name fields).bind Json.toUInt64? = n?.join := by
  rcases present?_eq_ok_iff.mp h with ⟨hget, rfl⟩ | ⟨v, n?, hget, hv, rfl⟩
  · rw [hget]
    rfl
  · rw [hget]
    rcases nullable_uint64_eq_ok_iff.mp hv with ⟨rfl, rfl⟩ | ⟨n, rfl, rfl⟩
    · rfl
    · rfl

end Present

end Payload

namespace Message

variable {line : String} {m : Message}

private theorem decode_eq_ok_iff :
    decode line = .ok m ↔ Envelope.read line.toList = .ok m ∧ ∃ h, m.header = .ok h := by
  unfold decode
  cases Envelope.read line.toList with
  | error e => simp
  | ok m' =>
    simp only [Except.ok.injEq]
    constructor
    · intro h
      cases hheader : m'.header with
      | error e =>
        rw [hheader] at h
        cases h
      | ok header =>
        rw [hheader] at h
        obtain rfl := Except.ok.inj h
        exact ⟨rfl, header, hheader⟩
    · rintro ⟨rfl, header, hheader⟩
      rw [hheader]

private theorem header_eq_ok_iff {header : Header} :
    m.header = .ok header ↔
      ∃ fields, m.body = .object fields ∧ Header.decode fields = .ok header := by
  unfold Message.header
  cases m.body with
  | object fields => cases hfields : Header.decode fields <;> simp [hfields]
  | _ => simp

end Message

private theorem Header.decode_eq_ok_iff {fields : Dictionary Json} {header : Header} :
    Header.decode fields = .ok header ↔
      ∃ inReplyTo? msgId? kind?,
        Payload.present? fields "in_reply_to" (Payload.nullable Payload.uint64) = .ok inReplyTo? ∧
        Payload.present? fields "msg_id" (Payload.nullable Payload.uint64) = .ok msgId? ∧
        Payload.present? fields "type" Payload.string = .ok kind? ∧
        header = ⟨kind?.getD "", msgId?.join, inReplyTo?.join⟩ := by
  constructor
  · intro h
    obtain ⟨inReplyTo?, hin, h⟩ := exists_of_bind_eq_ok h
    obtain ⟨msgId?, hid, h⟩ := exists_of_bind_eq_ok h
    obtain ⟨kind?, hkind, h⟩ := exists_of_bind_eq_ok h
    exact ⟨inReplyTo?, msgId?, kind?, hin, hid, hkind, (Except.ok.inj h).symm⟩
  · rintro ⟨inReplyTo?, msgId?, kind?, hin, hid, hkind, rfl⟩
    simp only [Header.decode, hin, hid, hkind, bind, Except.bind]
    rfl

namespace Message

variable {line : String} {m : Message}

private theorem exists_header_iff : (∃ header, m.header = .ok header) ↔
    m.body.Headed Literal.IsPlainWord := by
  have htyped : ∀ {fields}, (∃ header, Header.decode fields = .ok header) ↔
      (∀ tag ∈ Dictionary.get? "type" fields, ∃ s, tag = .string s) ∧
        ∀ name ∈ ["msg_id", "in_reply_to"], ∀ v ∈ Dictionary.get? name fields,
          v = .null ∨ v.Spelled Literal.IsPlainWord := by
    intro fields
    simp only [← Payload.exists_string_iff, ← Payload.exists_nullable_uint64_iff,
      ← Payload.exists_present?_iff, List.forall_mem_cons, List.not_mem_nil]
    constructor
    · rintro ⟨header, h⟩
      obtain ⟨inReplyTo?, msgId?, kind?, hin, hid, hkind, -⟩ := Header.decode_eq_ok_iff.mp h
      exact ⟨⟨kind?, hkind⟩, ⟨msgId?, hid⟩, ⟨inReplyTo?, hin⟩, by simp⟩
    · rintro ⟨⟨kind?, hkind⟩, ⟨msgId?, hid⟩, ⟨inReplyTo?, hin⟩, -⟩
      exact ⟨_, Header.decode_eq_ok_iff.mpr ⟨inReplyTo?, msgId?, kind?, hin, hid, hkind, rfl⟩⟩
  simp only [header_eq_ok_iff, Json.Headed, ← htyped]
  exact ⟨fun ⟨header, fields, hbody, h⟩ => ⟨fields, hbody, header, h⟩,
    fun ⟨fields, hbody, header, h⟩ => ⟨header, fields, hbody, h⟩⟩

private theorem lenient_of_header {header : Header} (h : m.header = .ok header) :
    header.kind = m.kind ∧ header.msgId = m.msgId? ∧
      header.inReplyTo.filter (· ≠ 0) = m.inReplyTo? := by
  obtain ⟨fields, hbody, hdecode⟩ := header_eq_ok_iff.mp h
  obtain ⟨replied?, asked?, tag?, hin, hid, hkind, rfl⟩ := Header.decode_eq_ok_iff.mp hdecode
  simp only [kind, msgId?, inReplyTo?, hbody, Json.field?, Payload.toString?_of_present hkind,
    Payload.toUInt64?_of_present hid, Payload.toUInt64?_of_present hin, and_self]

/-- What a line must look like beyond its envelope, and what it then says. A line with an envelope
is accepted exactly if its body is an object whose tag is absent or a string and whose numbers are
each absent, null or written in plain digits that fit 64 bits. Its strict header and its lenient one
agree, but that a number zero of an answered request counts as none. Whether a value is written in
plain digits is told by the text that it is read from, and of several values for one key the last
counts. -/
theorem headers_agree :
    (∀ line m, decode line = .ok m → ∃ header, m.header = .ok header ∧ header.kind = m.kind ∧
      header.msgId = m.msgId? ∧ header.inReplyTo.filter (· ≠ 0) = m.inReplyTo?) ∧
    (∀ line m, Envelope.read line.toList = .ok m →
      (decode line = .ok m ↔ m.body.Headed Literal.IsPlainWord)) ∧
    (∀ fuel depth s v rest, Json.readValue fuel depth s = .ok (v, rest) →
      (v.Spelled Literal.IsPlainWord ↔ ∃ c r l, Json.skipBlanks s = c :: r ∧
        Json.literalFrom c r = .ok (l, rest) ∧ l.IsPlainWord)) ∧
    (∀ fuel depth s fields rest, Json.readValue fuel depth s = .ok (.object fields, rest) →
      ∃ fuel' depth' r entries, Json.skipBlanks s = '\x7b' :: r ∧
        Json.readObject fuel' depth' r = .ok (entries, rest) ∧ ∀ key, Dictionary.get? key fields =
          (entries.reverse.find? fun entry => key = entry.1).map (·.2)) := by
  refine ⟨?agree, ?accept, ?digits, ?last⟩
  case agree =>
    intro line m h
    obtain ⟨-, header, hheader⟩ := decode_eq_ok_iff.mp h
    exact ⟨header, hheader, lenient_of_header hheader⟩
  case accept =>
    intro line m henvelope
    rw [decode_eq_ok_iff, exists_header_iff]
    exact and_iff_right henvelope
  case digits => exact fun fuel depth s v rest => Json.readValue_plainWord_iff
  case last =>
    intro fuel depth s fields rest h
    obtain ⟨fuel', depth', r, entries, hs, hread, rfl⟩ := Json.exists_entries_of_readValue h
    exact ⟨fuel', depth', r, entries, hs, hread, fun key => Dictionary.get?_ofList key entries⟩

/-- A line that gives its tag and its number twice, the first time not as a header may have them. -/
def repeating : String :=
  "\x7b\"src\":\"c1\",\"dest\":\"n1\",\"body\":\x7b\"type\":5,\"msg_id\":1.5,\"type\":\"echo\","
    ++ "\"in_reply_to\":0,\"msg_id\":18446744073709551615\x7d\x7d"

theorem repeating_header :
    ∃ m, decode repeating = .ok m ∧
      m.header = .ok ⟨"echo", some 18446744073709551615, some 0⟩ ∧
      m.msgId? = some 18446744073709551615 ∧ m.inReplyTo? = none ∧
        m.body.Headed Literal.IsPlainWord := by
  have hview : (decode repeating).map (fun m => (m.header, m.kind, m.msgId?, m.inReplyTo?)) =
      .ok (.ok ⟨"echo", some 18446744073709551615, some 0⟩, "echo",
        some 18446744073709551615, none) := by
    decide +kernel
  cases hdecode : decode repeating with
  | error e =>
    rw [hdecode] at hview
    cases hview
  | ok m =>
    rw [hdecode] at hview
    simp only [Except.map, Except.ok.injEq, Prod.mk.injEq] at hview
    obtain ⟨hheader, -, -, -⟩ := hview
    obtain ⟨agree, accept, -, -⟩ := headers_agree
    obtain ⟨header, hheader', -, hid, hin⟩ := agree repeating m hdecode
    obtain rfl : header = _ := Except.ok.inj (hheader'.symm.trans hheader)
    exact ⟨m, rfl, hheader, hid.symm, hin.symm,
      (accept repeating m (decode_eq_ok_iff.mp hdecode).1).mp hdecode⟩

/-- A line whose number is written `-0`: an integer without point and exponent, which is zero. -/
def minusZero : String :=
  "\x7b\"src\":\"c1\",\"dest\":\"n1\",\"body\":\x7b\"type\":\"echo\",\"msg_id\":-0\x7d\x7d"

/-- An integer that fits 64 bits is refused if it is the zero with a sign. -/
theorem minusZero_refused :
    ¬ ∀ line m, Envelope.read line.toList = .ok m →
      (decode line = .ok m ↔ m.body.Headed Literal.IsWord) := by
  intro h
  have hrefused : (decode minusZero).map (·.kind) =
      .error (.body (.wrongType (.ofNumber (.double ⟨true, .zero⟩)) .unsigned)) := by decide +kernel
  have hview : (Envelope.read minusZero.toList).map (fun m =>
      ((m.body.field? "type").map Payload.string, (m.body.field? "msg_id").map Payload.number,
        (m.body.field? "in_reply_to").map Payload.number)) =
      .ok (some (.ok "echo"), some (.ok (.double ⟨true, .zero⟩)), none) := by
    decide +kernel
  have hliteral : Literal.value? ⟨true, ['0'], [], none⟩ = some (.double ⟨true, .zero⟩) := by
    decide +kernel
  have hword : Literal.IsWord ⟨true, ['0'], [], none⟩ := ⟨rfl, rfl, by decide, by decide⟩
  cases henvelope : Envelope.read minusZero.toList with
  | error e =>
    rw [henvelope] at hview
    cases hview
  | ok m =>
    rw [henvelope] at hview
    simp only [Except.map, Except.ok.injEq, Prod.mk.injEq, Option.map_eq_some_iff,
      Option.map_eq_none_iff] at hview
    obtain ⟨⟨tag, htag, hstring⟩, ⟨id, hid, hnumber⟩, hin⟩ := hview
    have hheaded : m.body.Headed Literal.IsWord := by
      cases hbody : m.body with
      | object fields =>
        rw [hbody] at htag hid hin
        refine ⟨fields, rfl, ?_, ?_⟩
        · intro v hv
          obtain rfl : tag = v := Option.some.inj (htag.symm.trans hv)
          exact ⟨_, Payload.string_eq_ok_iff.mp hstring⟩
        · intro name hname v hv
          simp only [List.mem_cons, List.not_mem_nil, or_false] at hname
          rcases hname with rfl | rfl
          · obtain rfl : id = v := Option.some.inj (hid.symm.trans hv)
            exact .inr ⟨_, _, hword, hliteral, Payload.number_eq_ok_iff.mp hnumber⟩
          · cases hin.symm.trans hv
      | _ =>
        rw [hbody] at htag
        cases htag
    rw [(h minusZero m henvelope).mpr hheaded] at hrefused
    cases hrefused

end Message

end ClusterNode
