import ClusterNode.Proofs.Node.Duty
import ClusterNode.Proofs.Payload

/-!
The ledger of a node with a writer that works: the requests that were answered and those that tasks
still owe an answer are, together, the requests that were received and want one.
-/

set_option autoImplicit false

namespace ClusterNode.Node

variable {w : Workload} {d : Duty w}

/-- What a step of a task pays: what is left of the task, what is written, and which of the requests
that it owed an answer were answered by that. -/
structure Pays (d : Duty w) (n : Node w) (t : Task w.Job) (n' : Node w) (o : Option (Task w.Job))
    (ms paid : List Message) : Prop where
  tasks : ∀ before after, n.Around before t after → n'.tasks = before ++ o.toList ++ after
  fits : ∀ x ∈ o, x.Fits d ∧ x.message = t.message
  deliver : ∀ entry ∈ n'.pending.entries, entry ∈ n.pending.entries ∨ entry.2 = .deliver t.id
  written : n'.written = n.written ++ ms
  owed : t.owed d = paid ++ o.toList.flatMap (Task.owed d)
  answers : List.Forall₂ Message.Answers (ms.filter fun m => m.answers?.isSome) paid
  unasked : ∀ m ∈ ms, m.answers? = none → m.Unasked d.kinds

section Pays

variable {n n₁ : Node w} {t : Task w.Job}

private theorem Task.owed_eq_of_owes {t x : Task w.Job} (howes : x.owes d = t.owes d)
    (hmessage : x.message = t.message) : x.owed d = t.owed d := by
  simp only [Task.owed, howes, hmessage]

private theorem Task.owed_eq_nil {t : Task w.Job} (howes : t.owes d = false) : t.owed d = [] := by
  simp [Task.owed, howes]

private theorem Pays.silent {f : Task w.Job → Task w.Job} (hfits : (f t).Fits d)
    (hmessage : (f t).message = t.message) (howes : (f t).owes d = t.owes d)
    (htasks : n₁.tasks = n.tasks := by rfl) (hwritten : n₁.written = n.written := by rfl)
    (hdeliver : ∀ entry ∈ n₁.pending.entries, entry ∈ n.pending.entries ∨
        entry.2 = .deliver t.id := by
      exact fun _ h => .inl h) :
    Pays d n t (n₁.update t.id f) (some (f t)) [] [] where
  tasks := by
    intro before after ha
    have ha' : n₁.Around before t after := ⟨htasks ▸ ha.tasks, ha.before_ne, ha.after_ne⟩
    simpa using ha'.update f
  fits := by simpa using ⟨hfits, hmessage⟩
  deliver := hdeliver
  written := by simpa [Node.update] using hwritten
  owed := by simpa using (Task.owed_eq_of_owes howes hmessage).symm
  answers := by simp
  unasked := by simp

private theorem Pays.sends {m : Message} {stage : Stage w.Job} (hm : m.Unasked d.kinds)
    (hfits : ({ t with stage } : Task w.Job).Fits d)
    (howes : ({ t with stage } : Task w.Job).owes d = t.owes d)
    (hwritten : n₁.written = n.written ++ [m]) (htasks : n₁.tasks = n.tasks := by rfl)
    (hpending : n₁.pending = n.pending := by rfl) :
    Pays d n t (n₁.goTo t.id stage) (some { t with stage }) [m] [] where
  tasks := by
    intro before after ha
    have ha' : n₁.Around before t after := ⟨htasks ▸ ha.tasks, ha.before_ne, ha.after_ne⟩
    simpa using ha'.goTo stage
  fits := by simpa using hfits
  deliver := fun entry he => .inl (by simpa [goTo, update, hpending] using he)
  written := hwritten
  owed := by simpa using (Task.owed_eq_of_owes (x := { t with stage }) howes rfl).symm
  answers := by simp [Message.answers?, hm.answersNothing]
  unasked := by simpa using fun _ => hm

private theorem reply_pays (hmode : n.mode = .working) (howes : t.owes d = true)
    (fields : Dictionary Json)
    (hkind : kindOf (.object fields) = "error" ∨
      kindOf (.object fields) = t.message.kind ++ "_ok") :
    ∃ ms, (n.reply t.message (.object fields)).1 = .ok () ∧
      (n.reply t.message (.object fields)).2.written = n.written ++ ms ∧
      List.Forall₂ Message.Answers (ms.filter fun m => m.answers?.isSome) (t.owed d) ∧
      ∀ m ∈ ms, m.answers? ≠ none := by
  cases hid : t.message.msgId? with
  | none =>
    refine ⟨[], ?_⟩
    simp [reply_unnumbered hid, Task.owed, hid]
  | some id =>
    refine ⟨_, by rw [reply_working hmode hid], by rw [reply_working hmode hid], ?_, ?_⟩
    · have howed : t.owed d = [t.message] := by simp [Task.owed, howes, hid]
      rw [howed]
      simp only [List.filter_cons, answers?_insert, Option.isSome_some, if_true, List.filter_nil]
      refine .cons ⟨rfl, by rw [answers?_insert, hid], ?_⟩ .nil
      show kindOf _ = "error" ∨ kindOf _ = t.message.kind ++ "_ok"
      rw [kindOf_insert (by decide)]
      exact hkind
    · simp [answers?_insert]

private theorem Pays.replies (hmode : n.mode = .working) (howes : t.owes d = true)
    {payload : Json} (hpayload : ∃ fields, payload = .object fields)
    (hkind : kindOf payload = "error" ∨ kindOf payload = t.message.kind ++ "_ok")
    (stage : Except NodeError Unit → Stage w.Job)
    (hfits : ({ t with stage := stage (.ok ()) } : Task w.Job).Fits d)
    (hpaid : ({ t with stage := stage (.ok ()) } : Task w.Job).owes d = false) :
    ∃ o ms paid, Pays d n t ((n.reply t.message payload).2.goTo t.id
      (stage (n.reply t.message payload).1)) o ms paid := by
  obtain ⟨fields, rfl⟩ := hpayload
  obtain ⟨ms, hok, hwritten, hanswers, hall⟩ := reply_pays (n := n) hmode howes fields hkind
  refine ⟨some { t with stage := stage (.ok ()) }, ms, t.owed d, ?_, ?_, ?_, ?_, ?_, hanswers, ?_⟩
  · intro before after ha
    have ha' : (n.reply t.message (.object fields)).2.Around before t after :=
      ⟨by rw [reply_tasks, ha.tasks], ha.before_ne, ha.after_ne⟩
    simpa [hok] using ha'.goTo (stage (.ok ()))
  · simpa using hfits
  · intro entry he
    exact .inl (by simpa [goTo, update] using he)
  · simpa [goTo, update] using hwritten
  · simp [Task.owed_eq_nil hpaid]
  · exact fun m hm hnone => absurd hnone (hall m hm)

private theorem Pays.repliesLast (hmode : n.mode = .working) (howes : t.owes d = true)
    {payload : Json} (hpayload : ∃ fields, payload = .object fields)
    (hkind : kindOf payload = "error" ∨ kindOf payload = t.message.kind ++ "_ok") :
    ∃ o ms paid, Pays d n t ((n.reply t.message payload).2.remove t.id) o ms paid := by
  obtain ⟨fields, rfl⟩ := hpayload
  obtain ⟨ms, -, hwritten, hanswers, hall⟩ := reply_pays (n := n) hmode howes fields hkind
  refine ⟨none, ms, t.owed d, ?_, by simp, ?_, ?_, by simp, hanswers, ?_⟩
  · intro before after ha
    have ha' : (n.reply t.message (.object fields)).2.Around before t after :=
      ⟨by rw [reply_tasks, ha.tasks], ha.before_ne, ha.after_ne⟩
    simpa using ha'.remove
  · intro entry he
    exact .inl (by simpa [remove] using he)
  · simpa [remove] using hwritten
  · exact fun m hm hnone => absurd hnone (hall m hm)

private theorem Pays.leaves (howes : t.owes d = false) (htasks : n₁.tasks = n.tasks := by rfl)
    (hwritten : n₁.written = n.written := by rfl) (hpending : n₁.pending = n.pending := by rfl) :
    Pays d n t (n₁.remove t.id) none [] [] where
  tasks := by
    intro before after ha
    have ha' : n₁.Around before t after := ⟨htasks ▸ ha.tasks, ha.before_ne, ha.after_ne⟩
    simpa using ha'.remove
  fits := by simp
  deliver := fun entry he => .inl (by simpa [Node.remove, hpending] using he)
  written := by simpa [Node.remove] using hwritten
  owed := by simp [Task.owed_eq_nil howes]
  answers := by simp
  unasked := by simp

private theorem Pays.stays (hfits : t.Fits d) : Pays d n t n (some t) [] [] where
  tasks := by simpa using fun _ _ (ha : n.Around _ t _) => ha.tasks
  fits := by simpa using hfits
  deliver := fun _ he => .inl he
  written := by simp
  owed := by simp
  answers := by simp
  unasked := by simp

end Pays

section Steps

variable {n : Node w} {t : Task w.Job}

private theorem unasked_of_plain {body : Json} (h : d.Plain body) (src dest : String) :
    (⟨src, dest, body⟩ : Message).Unasked d.kinds := by
  obtain ⟨fields, rfl, hnone, hkind⟩ := h
  exact ⟨hnone, hkind⟩

private theorem act_pays (hmode : n.mode = .working) (now : Nat) (stamp : Stamp) {job : w.Job}
    (hs : t.stage = .work job) (hrole : t.role = .handle) {action : Action w.Job}
    (hallows : d.Allows t.message (d.owes job) action) :
    ∃ o ms paid, Pays d n t (n.act now stamp t action) o ms paid := by
  have howes : t.owes d = d.owes job := by simp only [Task.owes, hs]
  have hwork : ∀ {next}, d.Fits t.message next →
      ({ t with stage := .work next } : Task w.Job).Fits d := by
    intro next hnext
    simpa only [Task.Fits, hrole] using hnext
  cases action with
  | proceed next => exact ⟨_, _, _, .silent (hwork hallows.1) rfl (hallows.2.trans howes.symm)⟩
  | sleep span next =>
    refine ⟨_, _, _, .silent ?_ rfl (hallows.2.trans howes.symm)⟩
    simpa only [Task.Fits, hrole] using hallows.1
  | note entry next => exact ⟨_, _, _, .silent (hwork hallows.1) rfl (hallows.2.trans howes.symm)⟩
  | stamp next =>
    exact ⟨_, _, _, .silent (hwork (hallows stamp).1) rfl ((hallows stamp).2.trans howes.symm)⟩
  | finish result =>
    have hgo : n.act now stamp t (.finish result) = n.goTo t.id (.conclude result) := by
      simp only [act, hrole]
    rw [hgo]
    cases result with
    | ok u =>
      refine ⟨_, _, _, .silent ?_ rfl (Eq.trans ?_ howes.symm)⟩
      · simp only [Task.Fits, hrole]
      · exact hallows.symm
    | error e =>
      refine ⟨_, _, _, .silent ?_ rfl (Eq.trans ?_ howes.symm)⟩
      · simp only [Task.Fits, hrole]
      · exact hallows.symm
  | send dest payload next =>
    obtain ⟨hplain, hnext⟩ := hallows
    obtain ⟨fields, rfl, -⟩ := id hplain
    have hgo : n.act now stamp t (.send dest (.object fields) next) =
        ({ n with
          written := n.written ++ [⟨n.name, dest, .object fields⟩]
          metrics := n.metrics.countSent } : Node w).goTo t.id (.work (next (.ok ()))) := by
      simp only [act, send_working hmode]
    rw [hgo]
    exact ⟨_, _, _, .sends (unasked_of_plain hplain n.name dest) (hwork (hnext _).1)
      ((hnext _).2.trans howes.symm) rfl⟩
  | reply payload next =>
    obtain ⟨howing, ⟨fields, rfl, hkind⟩, hfits, hpaid⟩ := hallows
    exact Pays.replies hmode (howes.trans howing) ⟨fields, rfl⟩ (.inr hkind)
      (fun r => .work (next r)) (hwork hfits) hpaid
  | call dest payload patience next =>
    obtain ⟨howing, ⟨fields, rfl, hnone, hkind⟩, hnext⟩ := hallows
    have hgo : n.act now stamp t (.call dest (.object fields) patience next) =
        ({ n with pending := (n.pending.register (.deliver t.id)).2 } : Node w).update t.id fun t =>
          { t with
            stage := .dial dest (n.pending.lastId + 1)
              (.object (Dictionary.insert "msg_id" (.ofUInt64 (n.pending.lastId + 1)) fields))
              (limitOf now patience) next
            mailbox := .empty } := by
      simp only [act, Node.register, Pending.register, encodeBody]
    rw [hgo]
    refine ⟨_, _, _, .silent ?_ rfl (howes.trans howing).symm rfl rfl ?_⟩
    · simp only [Task.Fits, hrole]
      refine ⟨⟨_, rfl, ?_, ?_⟩, hnext⟩
      · rw [Dictionary.get?_insert_of_ne (by decide), hnone]
      · rw [kindOf_insert (by decide)]
        exact hkind
    · intro entry he
      rcases List.mem_append.mp he with he | he
      · exact .inl he
      · exact .inr (by rw [List.mem_singleton.mp he])
  | abandon => exact hallows.elim
  | ask dest payload onReply next => exact hallows.elim

private theorem adopt_pays (hd : d.Kept) (hs : t.stage = .adopt) (hrole : t.role = .initialise)
    (hkind : t.message.kind = "init") : ∃ o ms paid, Pays d n t (n.adopt t) o ms paid := by
  have howes : t.owes d = true := by simp only [Task.owes, hs]
  have hconclude : ∀ e, ({ t with stage := .conclude (.error e) } : Task w.Job).Fits d :=
      fun e => by
    simp only [Task.Fits, hrole]
  have hconfirm : ({ t with stage := .confirm } : Task w.Job).Fits d := by
    simp only [Task.Fits, hrole]
    exact hkind
  simp only [adopt]
  split
  · exact ⟨_, _, _, .silent (hconclude _) rfl howes.symm⟩
  · exact ⟨_, _, _, .silent (hconclude _) rfl howes.symm⟩
  · simp only [init]
    cases n.identity with
    | some identity => exact ⟨_, _, _, .silent (hconclude _) rfl howes.symm⟩
    | none =>
      simp only [hd.init]
      exact ⟨_, _, _, .silent hconfirm rfl howes.symm⟩

private theorem stepTask_pays (hd : d.Kept) (hmode : n.mode = .working) (hfits : t.Fits d)
    (hbody : ∃ fields, t.message.body = .object fields) (hhand : ∀ task id, t.stage ≠ .hand task id)
    (now : Nat) (stamp : Stamp) :
    ∃ o ms paid, Pays d n t (n.stepTask now stamp t) o ms paid := by
  obtain ⟨fields, hbody⟩ := hbody
  cases hs : t.stage with
  | fresh job =>
    have howes : t.owes d = true := by simp only [Task.owes, hs]
    simp only [stepTask, hs]
    cases hrole : t.role <;> cases job <;> simp only [Task.Fits, hrole, hs] at hfits
    · refine ⟨_, _, _, .silent ?_ rfl howes.symm⟩
      simpa only [Task.Fits, hrole] using hfits
    · refine ⟨_, _, _, .silent ?_ rfl (hfits.2.trans howes.symm)⟩
      simpa only [Task.Fits, hrole] using hfits.1
  | adopt =>
    simp only [stepTask, hs]
    cases hrole : t.role <;> simp only [Task.Fits, hrole, hs] at hfits
    exact adopt_pays hd hs hrole hfits
  | work job =>
    cases hrole : t.role <;> simp only [Task.Fits, hrole, hs] at hfits
    have hallows := hd.step t.message fields job n.view n.shared hbody hfits
    obtain ⟨o, ms, paid, hpays⟩ := act_pays (n := { n with
      shared := (w.step n.view n.shared job).2 }) hmode now stamp hs hrole hallows
    simp only [stepTask, hs]
    exact ⟨o, ms, paid, fun before after ha => hpays.tasks before after ⟨ha.1, ha.2, ha.3⟩,
      hpays.fits, hpays.deliver, hpays.written, hpays.owed, hpays.answers, hpays.unasked⟩
  | post dest id body next => cases hrole : t.role <;> simp only [Task.Fits, hrole, hs] at hfits
  | dial dest id body limit next =>
    have howes : t.owes d = true := by simp only [Task.owes, hs]
    cases hrole : t.role <;> simp only [Task.Fits, hrole, hs] at hfits
    simp only [stepTask, hs]
    rcases writeCall_working hmode now dest id body limit with h | ⟨_, after, -, -, h⟩ <;> rw [h]
    · refine ⟨_, _, _, .sends (unasked_of_plain hfits.1 n.name dest) ?_ howes.symm rfl⟩
      simpa only [Task.Fits, hrole] using hfits.2
    · have hnext := hfits.2 (.error (.timeout dest after))
      refine ⟨_, _, _, .silent ?_ rfl (hnext.2.trans howes.symm)⟩
      simpa only [Task.Fits, hrole] using hnext.1
  | flush wait =>
    have howes : t.owes d = true := by simp only [Task.owes, hs]
    cases hrole : t.role <;> simp only [Task.Fits, hrole, hs] at hfits
    simp only [stepTask, hs, flushCall?_working hmode]
    refine ⟨_, _, _, .silent ?_ rfl howes.symm⟩
    simpa only [Task.Fits, hrole] using hfits
  | wait wait =>
    have howes : t.owes d = true := by simp only [Task.owes, hs]
    have hnext : t.role = .handle ∧
        ∀ r, d.Fits t.message (wait.next r) ∧ d.owes (wait.next r) = true := by
      cases hrole : t.role <;> simp only [Task.Fits, hrole, hs] at hfits
      exact ⟨rfl, hfits⟩
    simp only [stepTask, hs]
    split
    · rename_i result _
      refine ⟨_, _, _, .silent ?_ rfl ((hnext.2 result).2.trans howes.symm)⟩
      simpa only [Task.Fits, hnext.1] using (hnext.2 result).1
    · exact ⟨_, _, _, .stays hfits⟩
  | sleep wake next =>
    have hnext : t.role = .handle ∧ d.Fits t.message next := by
      cases hrole : t.role <;> simp only [Task.Fits, hrole, hs] at hfits
      exact ⟨rfl, hfits⟩
    simp only [stepTask, hs]
    split
    · refine ⟨_, _, _, .silent ?_ rfl (by simp only [Task.owes, hs])⟩
      simpa only [Task.Fits, hnext.1] using hnext.2
    · exact ⟨_, _, _, .stays hfits⟩
  | confirm =>
    cases hrole : t.role <;> simp only [Task.Fits, hrole, hs] at hfits
    simp only [stepTask, hs]
    refine Pays.replies hmode (by simp only [Task.owes, hs]) ⟨_, rfl⟩ (.inr ?_) .conclude ?_ rfl
    · rw [hfits]
      decide
    · simp only [Task.Fits, hrole]
  | conclude result =>
    cases result with
    | ok u =>
      simp only [stepTask, hs, conclude]
      exact ⟨_, _, _, .leaves (by simp only [Task.owes, hs])⟩
    | error e =>
      have howes : t.owes d = true := by simp only [Task.owes, hs]
      have hrefuse : ∀ e, ({ t with stage := .refuse e } : Task w.Job).Fits d := by
        intro e
        cases hrole : t.role <;> simp only [Task.Fits, hrole, hs] at hfits ⊢
      simp only [stepTask, hs, conclude]
      split <;> exact ⟨_, _, _, .silent (hrefuse _) rfl howes.symm⟩
  | refuse e =>
    simp only [stepTask, hs]
    exact Pays.repliesLast hmode (by simp only [Task.owes, hs]) ⟨_, rfl⟩
      (.inl (kindOf_encode e rfl (by simp)))
  | hand task id => exact absurd hs (hhand task id)

end Steps

section Ledger

def wantsAnswer (m : Message) : Bool := m.msgId?.isSome

/-- The accounts of a node after some requests, some of which are answered. -/
structure Ledger (d : Duty w) (n : Node w) (requests done : List Message) : Prop where
  numbered : n.Numbered
  working : n.mode = .working
  fits : ∀ t ∈ n.tasks, t.Fits d
  bodies : ∀ t ∈ n.tasks, ∃ fields, t.message.body = .object fields
  deliver : ∀ entry ∈ n.pending.entries, ∃ task, entry.2 = .deliver task
  balance : (done ++ n.tasks.flatMap (Task.owed d)).Perm (requests.filter wantsAnswer)
  answered : List.Forall₂ Message.Answers (n.written.filter fun m => m.answers?.isSome) done
  unasked : ∀ m ∈ n.written, m.answers? = none → m.Unasked d.kinds
  closed : ∀ result, n.verdict = some result → result = .ok () ∧ n.tasks = []

variable {n n' : Node w} {requests done : List Message}

namespace Ledger

theorem start (d : Duty w) (rpcTimeout : Duration) : Ledger d (Node.start w rpcTimeout) [] [] where
  numbered := .start w rpcTimeout
  working := rfl
  fits := by simp [Node.start]
  bodies := by simp [Node.start]
  deliver := by simp [Node.start, Pending.empty]
  balance := by simp [Node.start]
  answered := by simp [Node.start]
  unasked := by simp [Node.start]
  closed := by simp [Node.start]

private theorem fits_receiving {t x : Task w.Job} (h : x.Fits d) : (t.receiving x).Fits d := by
  simpa only [Task.Fits, Task.receiving_role, Task.receiving_stage, Task.receiving_message] using h

private theorem owed_receiving (t x : Task w.Job) : (t.receiving x).owed d = x.owed d := by
  refine Task.owed_eq_of_owes ?_ (Task.receiving_message t x)
  unfold Task.owes
  rw [Task.receiving_stage]

private theorem pay (hl : Ledger d n requests done) {t : Task w.Job} (ht : t ∈ n.tasks) {now : Nat}
    {stamp : Stamp} {o : Option (Task w.Job)} {ms paid : List Message}
    (hp : Pays d n t (n.stepTask now stamp t) o ms paid) :
    Ledger d (n.stepTask now stamp t) requests (done ++ paid) := by
  obtain ⟨before, after, ha⟩ := hl.numbered.around ht
  have hcourse := SameCourse.stepTask n now stamp t
  have htasks := hp.tasks before after ha
  have hmem : ∀ x ∈ (n.stepTask now stamp t).tasks, x ∈ n.tasks ∨ x ∈ o := by
    intro x hx
    rw [htasks] at hx
    rw [ha.tasks]
    simp only [List.mem_append, Option.mem_toList, List.mem_cons] at hx ⊢
    rcases hx with (hx | hx) | hx
    · exact .inl (.inl hx)
    · exact .inr hx
    · exact .inl (.inr (.inr hx))
  refine ⟨hl.numbered.stepTask now stamp ht, hcourse.mode.trans hl.working, ?_, ?_, ?_, ?_, ?_, ?_,
    ?_⟩
  · intro x hx
    rcases hmem x hx with hx | hx
    · exact hl.fits x hx
    · exact (hp.fits x hx).1
  · intro x hx
    rcases hmem x hx with hx | hx
    · exact hl.bodies x hx
    · rw [(hp.fits x hx).2]
      exact hl.bodies t ht
  · intro entry he
    rcases hp.deliver entry he with he | he
    · exact hl.deliver entry he
    · exact ⟨_, he⟩
  · refine List.Perm.trans ?_ hl.balance
    rw [htasks, ha.tasks]
    simp only [List.flatMap_append, List.flatMap_cons, hp.owed, List.append_assoc]
    refine List.Perm.append_left done ?_
    rw [← List.append_assoc, ← List.append_assoc (before.flatMap (Task.owed d)) paid]
    exact List.Perm.append_right _ List.perm_append_comm
  · rw [hp.written, List.filter_append]
    exact List.rel_append hl.answered hp.answers
  · intro m hm hnone
    rw [hp.written] at hm
    rcases List.mem_append.mp hm with hm | hm
    · exact hl.unasked m hm hnone
    · exact hp.unasked m hm hnone
  · intro result hresult
    rw [hcourse.verdict] at hresult
    rw [(hl.closed result hresult).2] at ht
    cases ht

private theorem hand (hl : Ledger d n requests done) {t : Task w.Job} (ht : t ∈ n.tasks)
    {task : Nat}
    {id : UInt64} (hs : t.stage = .hand task id) (now : Nat) (stamp : Stamp) :
    Ledger d (n.stepTask now stamp t) requests done := by
  obtain ⟨before, after, ha⟩ := hl.numbered.around ht
  have hcourse := SameCourse.stepTask n now stamp t
  have hstep : n.stepTask now stamp t = (n.post task id (.full t.message)).remove t.id := by
    simp only [stepTask, hs]
  have htasks : (n.stepTask now stamp t).tasks =
      before.map t.receiving ++ after.map t.receiving := by
    obtain ⟨o, ho, htasks⟩ := ha.stepTask now stamp
    cases o with
    | none => simpa using htasks
    | some x =>
      have hx : x ∈ (n.stepTask now stamp t).tasks := by rw [htasks]; simp
      rw [hstep] at hx
      exact absurd (ho x rfl).1 (mem_remove.mp hx).2
  have hmem : ∀ x ∈ (n.stepTask now stamp t).tasks, ∃ y ∈ n.tasks, x = t.receiving y := by
    intro x hx
    rw [htasks, ← List.map_append] at hx
    obtain ⟨y, hy, rfl⟩ := List.mem_map.mp hx
    refine ⟨y, ?_, rfl⟩
    rw [ha.tasks]
    rcases List.mem_append.mp hy with hy | hy <;> simp [hy]
  refine ⟨hl.numbered.stepTask now stamp ht, hcourse.mode.trans hl.working, ?_, ?_, ?_, ?_, ?_, ?_,
    ?_⟩
  · intro x hx
    obtain ⟨y, hy, rfl⟩ := hmem x hx
    exact fits_receiving (hl.fits y hy)
  · intro x hx
    obtain ⟨y, hy, rfl⟩ := hmem x hx
    rw [Task.receiving_message]
    exact hl.bodies y hy
  · rw [hstep]
    exact hl.deliver
  · have howed : t.owed d = [] := by simp [Task.owed, Task.owes, hs]
    have hsame : ∀ l : List (Task w.Job),
        (l.map t.receiving).flatMap (Task.owed d) = l.flatMap (Task.owed d) := fun l => by
      simp only [List.flatMap_map, owed_receiving]
    have hbalance := hl.balance
    rw [ha.tasks, List.flatMap_append, List.flatMap_cons, howed, List.nil_append] at hbalance
    rw [htasks, List.flatMap_append, hsame, hsame]
    exact hbalance
  · rw [hstep]
    exact hl.answered
  · rw [hstep]
    exact hl.unasked
  · intro result hresult
    rw [hcourse.verdict] at hresult
    rw [(hl.closed result hresult).2] at ht
    cases ht

theorem stepTask (hd : d.Kept) (hl : Ledger d n requests done) {t : Task w.Job} (ht : t ∈ n.tasks)
    (now : Nat) (stamp : Stamp) :
    ∃ paid, Ledger d (n.stepTask now stamp t) requests (done ++ paid) := by
  by_cases hhand : ∃ task id, t.stage = .hand task id
  · obtain ⟨task, id, hs⟩ := hhand
    exact ⟨[], by simpa using hl.hand ht hs now stamp⟩
  · obtain ⟨o, ms, paid, hp⟩ := stepTask_pays hd hl.working (hl.fits t ht) (hl.bodies t ht)
      (fun task id hs => hhand ⟨task, id, hs⟩) now stamp
    exact ⟨paid, hl.pay ht hp⟩

end Ledger

end Ledger

end ClusterNode.Node
