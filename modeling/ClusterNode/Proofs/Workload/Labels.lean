import ClusterNode.Proofs.Json.Number
import ClusterNode.Proofs.Message.Typed
import ClusterNode.Workload.UniqueIds

/-!
The text of an id tells the node and the sequence number that the id was made from, whatever the
clock and the source of randomness brought. The name of the node may hold separators; the other
parts hold none, so they are found from the end.
-/

set_option autoImplicit false

namespace ClusterNode.Workload.UniqueIds

structure Label where
  node : String
  sequence : UInt64
  stamp : Stamp
deriving DecidableEq, Repr

def Label.text (label : Label) : String := idText label.node label.sequence label.stamp

section Parts

private theorem parts_of_append {α : Type} {separator : α} {before before' after after' : List α}
    (hafter : separator ∉ after) (hafter' : separator ∉ after')
    (h : before ++ separator :: after = before' ++ separator :: after') :
    before = before' ∧ after = after' := by
  rcases List.append_eq_append_iff.mp h with ⟨more, rfl, hmore⟩ | ⟨more, rfl, hmore⟩
  · cases more with
    | nil => exact ⟨(List.append_nil _).symm, (List.cons.inj hmore).2⟩
    | cons c more =>
      obtain ⟨-, rfl⟩ := List.cons.inj hmore
      exact absurd (List.mem_append_right _ List.mem_cons_self) hafter
  · cases more with
    | nil => exact ⟨List.append_nil _, (List.cons.inj hmore).2.symm⟩
    | cons c more =>
      obtain ⟨-, rfl⟩ := List.cons.inj hmore
      exact absurd (List.mem_append_right _ List.mem_cons_self) hafter'

private theorem underscore_not_mem_digitsOf (n : Nat) : '_' ∉ Number.digitsOf n := fun h =>
  absurd (Json.isDigit_of_mem_digitsOf h) (by decide)

private theorem underscore_not_mem_intText (n : Int) : '_' ∉ Number.intText n := by
  rw [Number.intText]
  split
  · simpa using underscore_not_mem_digitsOf _
  · exact underscore_not_mem_digitsOf _

private theorem hexDigit_ne_underscore : ∀ n < 16, Json.hexDigit n ≠ '_' := by decide

private theorem underscore_not_mem_hexWord (n : UInt64) : '_' ∉ hexWord n := by
  intro h
  obtain ⟨i, -, hi⟩ := List.mem_map.mp h
  exact hexDigit_ne_underscore _ (Nat.mod_lt _ (by decide)) hi

private theorem digitsOf_injective : Function.Injective Number.digitsOf := by
  intro n m h
  have hn : Nat.ofDigitChars 10 (Number.digitsOf n) 0 = n := Nat.ofDigitChars_ten_toDigits
  rw [← hn, h]
  exact Nat.ofDigitChars_ten_toDigits

end Parts

/-- The node and the sequence number can be told from an id. -/
theorem Label.of_text {a b : Label} (h : a.text = b.text) :
    a.node = b.node ∧ a.sequence = b.sequence := by
  have hchars : a.text.toList = b.text.toList := congrArg String.toList h
  simp only [text, idText, String.toList_ofList] at hchars
  obtain ⟨hchars, -⟩ :=
    parts_of_append (underscore_not_mem_hexWord _) (underscore_not_mem_hexWord _) hchars
  obtain ⟨hchars, -⟩ :=
    parts_of_append (underscore_not_mem_intText _) (underscore_not_mem_intText _) hchars
  obtain ⟨hnode, hdigits⟩ :=
    parts_of_append (underscore_not_mem_digitsOf _) (underscore_not_mem_digitsOf _) hchars
  exact ⟨String.toList_inj.mp hnode, UInt64.toNat_inj.mp (digitsOf_injective hdigits)⟩

end ClusterNode.Workload.UniqueIds

namespace ClusterNode.Message

open Workload.UniqueIds (Label)

def generated? (m : Message) : Option String :=
  match (m.payload : Except RpcError Payload.Generate) with
  | .ok (.generateOk id) => some id
  | _ => none

theorem kind_of_generated? {m : Message} {id : String} {fields : Dictionary Json}
    (h : m.generated? = some id) (hbody : m.body = .object fields) : m.kind = "generate_ok" := by
  simp only [generated?] at h
  split at h
  · rename_i id' hpayload
    exact Message.kind_of_payload Payload.Generate.tag_of_decode hpayload hbody
  · cases h

theorem generated?_message (src dest : String) (msgId inReplyTo : Option UInt64) (id : String) :
    (Payload.Plain.message (Payload.Generate.generateOk id) src dest msgId inReplyTo).generated? =
      some id := by
  rw [generated?, Payload.Plain.message,
    Message.payload_of_decode (Payload.Generate.decode_body _ _ _)]

end ClusterNode.Message
