import ClusterNode.Counter.Basic

/-!
Additions to a counter, seen from the store: what an addition knows of its key and of its swap, and
what each answer of the store tells it.
-/

set_option autoImplicit false

namespace ClusterNode.Counter

theorem keyOf_injective : Function.Injective keyOf := by
  intro a b h
  have hchars := congrArg String.toList h
  simp only [keyOf, String.toList_append, List.append_cancel_left_eq] at hchars
  exact String.toList_inj.mp hchars

theorem toInt_of_checkedAdd {a b sum : Int64} (h : checkedAdd a b = some sum) :
    sum.toInt = a.toInt + b.toInt := by
  simp only [checkedAdd, Option.ite_none_right_eq_some, Option.some.injEq] at h
  obtain ⟨⟨hmin, hmax⟩, rfl⟩ := h
  exact Int64.toInt_ofInt_of_le hmin (Int.lt_of_le_of_lt hmax (by decide))

/-- An integer that fits 64 bits. -/
def FitsWord (n : Int) : Prop := Int64.minValue.toInt ≤ n ∧ n ≤ Int64.maxValue.toInt

instance (n : Int) : Decidable (FitsWord n) := inferInstanceAs (Decidable (_ ∧ _))

theorem fitsWord_toInt (a : Int64) : FitsWord a.toInt :=
  ⟨Int64.minValue_le_toInt a, Int64.toInt_le a⟩

theorem not_fitsWord_of_checkedAdd {a b : Int64} (h : checkedAdd a b = none) :
    ¬ FitsWord (a.toInt + b.toInt) := by
  simp only [checkedAdd, ite_eq_right_iff, reduceCtorEq, imp_false] at h
  exact h

theorem fitsWord_of_checkedAdd {a b sum : Int64} (h : checkedAdd a b = some sum) :
    FitsWord (a.toInt + b.toInt) := by
  rw [← toInt_of_checkedAdd h]
  exact fitsWord_toInt sum

private theorem RetryPolicy.exhausted_iff {policy : RetryPolicy} {attempt : Nat} :
    policy.exhausted attempt = true ↔ ∃ max ∈ policy.maxAttempts, max ≤ attempt := by
  unfold RetryPolicy.exhausted
  cases policy.maxAttempts with
  | none => simp
  | some max => simp

/-- What the store and the network hold of an addition: whether its key is there, whether a swap of
it is on its way or was applied, and whether one was applied. -/
structure Account where
  present : Prop
  spent : Prop
  landed : Prop

structure Account.Ages (f f' : Account) : Prop where
  present : f.present → f'.present
  spent : f'.spent → f.spent
  landed : f.landed → f'.landed

/-- An error that may be reported for an addition: unless its code is that of a timeout, no swap of
the addition takes place. -/
def Account.Excuses (f : Account) (e : RpcError) : Prop :=
  e.code.toInt64 = 0 ∨ ¬ f.spent

def Account.Admits (f : Account) : StoreCall → StoreAnswer → Prop
  | .read _, answer => ∃ value, answer = .ok value ∧ (value.isSome → f.present)
  | .cas _ _ _ _, answer =>
    (answer = .ok none ∧ f.landed) ∨
      (∃ key expected actual, answer = .error (.preconditionFailed key expected actual)) ∧ ¬ f.spent
  | .write _ _, _ => False

def Account.Awaits (f : Account) : StoreCall → Prop
  | .read _ => ¬ f.spent
  | _ => True

section Ages

variable {f f' : Account}

protected theorem Account.Ages.refl (f : Account) : f.Ages f := ⟨id, id, id⟩

theorem Account.Excuses.ages {e : RpcError} (h : f.Excuses e) (hf : f.Ages f') : f'.Excuses e :=
  h.imp id fun hspent hspent' => hspent (hf.spent hspent')

theorem Account.Awaits.ages {c : StoreCall} (h : f.Awaits c) (hf : f.Ages f') : f'.Awaits c := by
  cases c with
  | read key => exact fun hspent => h (hf.spent hspent)
  | write key value => trivial
  | cas key expected new create => trivial

theorem Account.Admits.ages {c : StoreCall} {answer : StoreAnswer} (h : f.Admits c answer)
    (hf : f.Ages f') : f'.Admits c answer := by
  cases c with
  | read key =>
    obtain ⟨value, hvalue, hpresent⟩ := h
    exact ⟨value, hvalue, fun hsome => hf.present (hpresent hsome)⟩
  | write key value => exact h
  | cas key expected new create =>
    rcases h with ⟨hanswer, hlanded⟩ | ⟨hanswer, hspent⟩
    · exact .inl ⟨hanswer, hf.landed hlanded⟩
    · exact .inr ⟨hanswer, fun hspent' => hspent (hf.spent hspent')⟩

end Ages

namespace Add

theorem eq_done_of_move {a : Add} {s : State} {result : Except StoreError Int64}
    (h : a.move s = .done result) : s = .done result := by
  cases s with
  | done r => exact congrArg State.done (StoreMove.done.inj h)
  | reading attempt => cases h
  | swapping attempt current sum => cases h
  | pausing attempt => cases h

/-- The calls that an addition makes: it reads its key, or it swaps a value that the key may have,
absent counting as zero, for the exact sum. -/
inductive Asks (a : Add) (f : Account) : StoreCall → Prop
  | read : Asks a f (.read a.key)
  | swap {current next : Int64} (exact_sum : next.toInt = current.toInt + a.delta.toInt)
      (found : f.present ∨ current = 0) : Asks a f (.cas a.key current next true)

def Stands (a : Add) (f : Account) : State → Prop
  | .reading _ | .pausing _ => ¬ f.spent
  | .swapping _ current next => ¬ f.spent ∧ a.Asks f (.cas a.key current next true)
  | .done (.ok _) => f.landed
  | .done (.error e) => f.Excuses e.toRpcError

variable {a : Add} {f f' : Account} {s : State} {c : StoreCall} {next : StoreAnswer → State}

theorem Asks.mono (h : a.Asks f c) (present : f.present → f'.present) : a.Asks f' c := by
  cases h with
  | read => exact .read
  | swap hsum hfound => exact .swap hsum (hfound.imp present id)

theorem Stands.ages (h : a.Stands f s) (hf : f.Ages f') : a.Stands f' s := by
  cases s with
  | reading attempt => exact fun hspent => h (hf.spent hspent)
  | pausing attempt => exact fun hspent => h (hf.spent hspent)
  | swapping attempt current next =>
    exact ⟨fun hspent => h.1 (hf.spent hspent), h.2.mono hf.present⟩
  | done result =>
    cases result with
    | ok n => exact hf.landed h
    | error e => exact Account.Excuses.ages h hf

theorem Stands.call (h : a.Stands f s) (hmove : a.move s = .call c next) :
    ¬ f.spent ∧ a.Asks f c := by
  cases s with
  | reading attempt =>
    obtain ⟨rfl, -⟩ := StoreMove.call.inj hmove
    exact ⟨h, .read⟩
  | swapping attempt current sum =>
    obtain ⟨rfl, -⟩ := StoreMove.call.inj hmove
    exact h
  | pausing attempt => cases hmove
  | done result => cases hmove

theorem Stands.pause {d : Duration} {s' : State} (h : a.Stands f s)
    (hmove : a.move s = .pause d s') :
    a.Stands f s' := by
  cases s with
  | pausing attempt =>
    obtain ⟨-, rfl⟩ := StoreMove.pause.inj hmove
    exact h
  | reading attempt => cases hmove
  | swapping attempt current sum => cases hmove
  | done result => cases hmove

theorem Stands.done {result : Except StoreError Int64} (h : a.Stands f s)
    (hmove : a.move s = .done result) : a.Stands f (.done result) := by
  cases s with
  | done r =>
    obtain rfl := StoreMove.done.inj hmove
    exact h
  | reading attempt => cases hmove
  | swapping attempt current sum => cases hmove
  | pausing attempt => cases hmove

private theorem stands_afterRead {value : Option Int64} (unspent : ¬ f.spent)
    (found : value.isSome → f.present)
    (attempt : Nat) : a.Stands f (a.afterRead attempt (.ok value)) := by
  simp only [afterRead]
  split
  · rename_i sum hsum
    refine ⟨unspent, .swap (toInt_of_checkedAdd hsum) ?_⟩
    cases value with
    | none => exact .inr rfl
    | some n => exact .inl (found rfl)
  · exact .inr unspent

theorem afterSwap_preconditionFailed (a : Add) (attempt : Nat) (sum : Int64) (key : String)
    (expected : Int64) (actual : Option Int64) :
    let s := a.afterSwap attempt sum (.error (.preconditionFailed key expected actual))
    (∃ max ∈ a.policy.maxAttempts, max ≤ attempt) ∧
      s = .done (.error (.retriesExhausted a.key attempt)) ∨
      (∀ max ∈ a.policy.maxAttempts, attempt < max) ∧
        (a.policy.delay attempt = .zero ∧ s = .reading (attempt + 1) ∨
          a.policy.delay attempt ≠ .zero ∧ s = .pausing attempt) := by
  simp only [afterSwap]
  by_cases hexhausted : a.policy.exhausted attempt = true
  · rw [if_pos hexhausted]
    exact .inl ⟨RetryPolicy.exhausted_iff.mp hexhausted, rfl⟩
  · rw [if_neg hexhausted]
    refine .inr ⟨fun max hmax => Nat.lt_of_not_le fun hle => ?_, ?_⟩
    · exact hexhausted (RetryPolicy.exhausted_iff.mpr ⟨max, hmax, hle⟩)
    · by_cases hzero : a.policy.delay attempt = .zero
      · exact .inl ⟨hzero, if_pos hzero⟩
      · exact .inr ⟨hzero, if_neg hzero⟩

private theorem stands_afterSwap (unspent : ¬ f.spent) (attempt : Nat) (sum : Int64) (key : String)
    (expected : Int64) (actual : Option Int64) :
    a.Stands f (a.afterSwap attempt sum (.error (.preconditionFailed key expected actual))) := by
  rcases a.afterSwap_preconditionFailed attempt sum key expected actual with
    ⟨-, hnext⟩ | ⟨-, ⟨-, hnext⟩ | ⟨-, hnext⟩⟩ <;> rw [hnext]
  · exact .inr unspent
  · exact unspent
  · exact unspent

theorem stands_next {answer : StoreAnswer} (hmove : a.move s = .call c next) (awaits : f.Awaits c)
    (admits : f.Admits c answer) : a.Stands f (next answer) := by
  cases s with
  | reading attempt =>
    obtain ⟨rfl, rfl⟩ := StoreMove.call.inj hmove
    obtain ⟨value, rfl, hfound⟩ := admits
    exact stands_afterRead awaits hfound attempt
  | swapping attempt current sum =>
    obtain ⟨rfl, rfl⟩ := StoreMove.call.inj hmove
    rcases admits with ⟨rfl, hlanded⟩ | ⟨⟨key, expected, actual, rfl⟩, hunspent⟩
    · exact hlanded
    · exact stands_afterSwap hunspent attempt sum key expected actual
  | pausing attempt => cases hmove
  | done result => cases hmove

theorem stands_timeout (hmove : a.move s = .call c next) (text : String) :
    a.Stands f (next (.error (.rpc ⟨.timeout, text⟩))) := by
  cases s with
  | reading attempt =>
    obtain ⟨-, rfl⟩ := StoreMove.call.inj hmove
    exact .inl rfl
  | swapping attempt current sum =>
    obtain ⟨-, rfl⟩ := StoreMove.call.inj hmove
    exact .inl rfl
  | pausing attempt => cases hmove
  | done result => cases hmove

end Add

/-- How many steps an addition has made at most when it has come to a state. -/
def Paced (steps : Nat) : Add.State → Prop
  | .reading attempt => steps + 3 ≤ 3 * attempt
  | .swapping attempt _ _ => steps + 2 ≤ 3 * attempt
  | .pausing attempt => steps + 1 ≤ 3 * attempt
  | .done _ => True

section Pace

variable {a : Add} {s s' : Add.State} {steps : Nat}

theorem Paced.call {c : StoreCall} {next : StoreAnswer → Add.State} (h : Paced steps s)
    (hmove : a.move s = .call c next) (answer : StoreAnswer) : Paced (steps + 1) (next answer) := by
  cases s with
  | reading attempt =>
    obtain ⟨-, rfl⟩ := StoreMove.call.inj hmove
    simp only [Paced] at h
    unfold Add.afterRead
    split
    · trivial
    · dsimp only
      split
      · simp only [Paced]
        omega
      · trivial
  | swapping attempt current sum =>
    obtain ⟨-, rfl⟩ := StoreMove.call.inj hmove
    simp only [Paced] at h
    rcases answer with e | value
    · cases e with
      | preconditionFailed key expected actual =>
        rcases a.afterSwap_preconditionFailed attempt sum key expected actual with
          ⟨-, hnext⟩ | ⟨-, ⟨-, hnext⟩ | ⟨-, hnext⟩⟩ <;> rw [hnext]
        · trivial
        · simp only [Paced]
          omega
        · simp only [Paced]
          omega
      | keyNotFound key => trivial
      | retriesExhausted key attempts => trivial
      | rpc e => trivial
    · trivial
  | pausing attempt => cases hmove
  | done result => cases hmove

theorem Paced.pause {d : Duration} (h : Paced steps s) (hmove : a.move s = .pause d s') :
    Paced (steps + 1) s' := by
  cases s with
  | pausing attempt =>
    obtain ⟨-, rfl⟩ := StoreMove.pause.inj hmove
    simp only [Paced] at h ⊢
    omega
  | reading attempt => cases hmove
  | swapping attempt current sum => cases hmove
  | done result => cases hmove

end Pace

end ClusterNode.Counter
