import ClusterNode.Proofs.Message.Header
import ClusterNode.Proofs.Node.Acts
import ClusterNode.Proofs.Node.Notices
import ClusterNode.Proofs.Store.Client

/-!
Failing handlers. A handler whose call is answered with an error that its job ends with follows a
script, whatever else goes on: it counts the error, reports it to whoever made the request, and is
gone.
-/

set_option autoImplicit false

namespace ClusterNode

variable {w : Workload}

/-- A message that reports an error. An empty text may be left out. -/
structure Message.Complains (m : Message) (code : Int64) (text : String) : Prop where
  tagged : m.kind = "error"
  coded : (m.body.field? "code").bind Json.toInt64? = some code
  worded : (m.body.field? "text").bind Json.toString? = some text ∨ m.body.field? "text" = none ∧
    text = ""

section Complains

variable {m : Message} {code : Int64} {text : String}

private theorem Payload.string_of_toString? {v : Json} {s : String} (h : v.toString? = some s) :
    Payload.string v = .ok s := by
  cases v with
  | string s' => exact congrArg Except.ok (Option.some.inj h)
  | _ => cases h

private theorem Payload.int64_of_toInt64? {v : Json} {n : Int64} (h : v.toInt64? = some n) :
    Payload.int64 v = .ok n := by
  cases v with
  | number x =>
    cases x with
    | unsigned u =>
      simp only [Json.toInt64?, Number.toInt64?, Option.ite_none_right_eq_some,
        Option.some.injEq] at h
      rw [Payload.int64, if_pos h.1, h.2]
    | negative u => exact congrArg Except.ok (Option.some.inj h)
    | double x => cases h
  | _ => cases h

private theorem Payload.present?_of_bind {α : Type} {fields : Dictionary Json} {name : String}
    {decode : Decoder α}
    {found : Json → Option α} {a : α} (reads : ∀ {v}, found v = some a → decode v = .ok a)
    (h : (Dictionary.get? name fields).bind found = some a) :
    present? fields name decode = .ok (some a) := by
  obtain ⟨v, hget, hv⟩ := Option.bind_eq_some_iff.mp h
  exact present?_eq_ok_iff.mpr (.inr ⟨v, a, hget, reads hv, rfl⟩)

theorem Message.Complains.rpcError? (h : m.Complains code text) :
    m.rpcError? = some ⟨.ofInt64 code, text⟩ := by
  obtain ⟨hkind, hcode, htext⟩ := h
  rw [Message.rpcError?, Message.isError, if_pos (by simpa using hkind)]
  cases hbody : m.body with
  | object fields =>
    simp only [Message.kind, hbody, Json.field?] at hkind hcode htext
    have htag : Payload.present? fields "type" Payload.string = .ok (some "error") := by
      refine Payload.present?_of_bind Payload.string_of_toString? ?_
      cases hfound : (Dictionary.get? "type" fields).bind Json.toString? with
      | none => simp [hfound] at hkind
      | some kind => rw [← hkind, hfound, Option.getD_some]
    obtain ⟨text?, hread, rfl⟩ : ∃ text?, Payload.present? fields "text" Payload.string =
      .ok text? ∧
        text?.getD "" = text := by
      rcases htext with htext | ⟨htext, rfl⟩
      · exact ⟨some text, Payload.present?_of_bind Payload.string_of_toString? htext, rfl⟩
      · exact ⟨none, Payload.present?_eq_ok_iff.mpr (.inl ⟨htext, rfl⟩), rfl⟩
    rw [RpcError.decode, Payload.present?_of_bind Payload.int64_of_toInt64? hcode, hread, htag]
    rfl
  | _ => simp [hbody, Json.field?] at hcode

private theorem RpcError.complains (e : RpcError) {src dest : String} {id : Option UInt64} :
    (Payload.Plain.message e src dest none id).Complains e.code.toInt64 e.text where
  tagged := e.plain.kind
  coded := by
    have hfield : (Payload.Plain.message e src dest none id).body.field? "code" =
        some (.ofInt64 e.code.toInt64) := Payload.get?_body (by decide)
    rw [hfield]
    exact Json.toInt64?_ofInt64 _
  worded := by
    have hfield : (Payload.Plain.message e src dest none id).body.field? "text" =
        some (.string e.text) :=
      Payload.get?_body (by decide)
    rw [hfield]
    exact .inl rfl

end Complains

/-- The call that a task waits for, with the message that has come in answer. -/
def Task.answered? {Job : Type} (t : Task Job) : Option (Wait Job × Message) :=
  match t.stage, t.mailbox with
  | .wait wait, .full reply => some (wait, reply)
  | _, _ => none

theorem Task.answered?_eq_some_iff {Job : Type} {t : Task Job} {wait : Wait Job} {reply : Message} :
    t.answered? = some (wait, reply) ↔ t.stage = .wait wait ∧ t.mailbox = .full reply := by
  unfold Task.answered?
  split
  · rename_i hs hmail
    simp [hs, hmail]
  · rename_i other
    constructor
    · intro h
      cases h
    · rintro ⟨hs, hmail⟩
      exact (other wait reply hs hmail).elim

/-- A task that nobody inside the program has begun and that waits for no reply: nothing but a step
of its own changes it. -/
structure Task.Settled {Job : Type} (t : Task Job) : Prop where
  role : t.role ≠ .client
  callId : t.callId? = none

namespace Node

section Settled

variable {n : Node w} {t : Task w.Job} {events : List (Event w)}

private theorem Numbered.settled_apply (hn : n.Numbered) (ht : t ∈ n.tasks) (settled : t.Settled)
    {e : Event w}
    (still : e.isStepOf t.id = false) :
    t ∈ (n.apply e).tasks ∨
      (∃ error, (n.apply e).verdict = some (.error error)) ∧ (n.apply e).task? t.id = none := by
  have hstop : ∀ (m : Node w) (error : NodeError), m.tasks = n.tasks →
      (∃ error', (m.stop error).verdict = some (.error error')) ∧
        (m.stop error).task? t.id = none := by
    intro m error htasks
    refine ⟨⟨error, verdict_stop m error⟩, task?_eq_none_iff.mpr ?_⟩
    intro x hx hid
    obtain ⟨y, hy, hclient, hxy⟩ := mem_stop hx
    have hyid : y.id = t.id := by rcases hxy with rfl | rfl <;> exact hid
    rw [hn.eq_of_id (htasks ▸ hy) ht hyid] at hclient
    exact settled.role hclient
  cases e with
  | line bytes =>
    simp only [Node.apply, receiveBytes_eq_take]
    split
    · exact .inl ht
    · cases Reading.ofBytes bytes with
      | blank => exact .inl ht
      | refused e => exact .inr (hstop n e rfl)
      | message m text =>
        cases hfault : (Reading.message m text).fault? w.handlers.contains with
        | some e =>
          rw [take_of_fault hfault]
          exact .inr (hstop { n with metrics := n.metrics.countReceived } e rfl)
        | none =>
          have hrouted := take_routed (n := n) hfault
          generalize n.take (.message m text) = n' at hrouted
          cases hrouted with
          | dropped => exact .inl ht
          | _ => exact .inl (mem_spawn.mpr (.inl ht))
  | step now stamp id =>
    have hid : t.id ≠ id := by
      rintro rfl
      simp [Event.isStepOf] at still
    simp only [Node.apply, Node.step]
    cases hx : n.task? id with
    | none => exact .inl ht
    | some x =>
      obtain ⟨hmem, rfl⟩ := mem_of_task? hx
      refine .inl ((mem_stepTask_iff_of_ne now stamp hn hmem hid).mpr ⟨t, ht, hid, ?_⟩)
      rcases x.receiving_cases t with hsame | ⟨call, -, hcall, -⟩
      · exact hsame.symm
      · rw [settled.callId] at hcall
        cases hcall
  | settle =>
    simp only [Node.apply, Node.settle]
    split <;> exact .inl ht
  | client job => exact .inl (mem_spawn.mpr (.inl ht))
  | _ => exact .inl ht

private theorem Numbered.first_step (hn : n.Numbered) (ht : t ∈ n.tasks) (settled : t.Settled)
    (events : List (Event w)) :
    (n.turns t.id events = [] ∧
      (stepsOf t.id events = 0 ∨ ∃ error, (n.run events).verdict = some (.error error))) ∨
    ∃ before now stamp after, events = before ++ .step now stamp t.id :: after ∧
      stepsOf t.id before = 0 ∧
      t ∈ (n.run before).tasks := by
  induction events generalizing n with
  | nil => exact .inl ⟨rfl, .inl rfl⟩
  | cons e events ih =>
    by_cases hstep : e.isStepOf t.id = true
    · obtain ⟨now, stamp, rfl⟩ := exists_step_of_isStepOf hstep
      exact .inr ⟨[], now, stamp, events, rfl, rfl, ht⟩
    · have still : e.isStepOf t.id = false := by simpa using hstep
      have hturns : n.turns t.id (e :: events) = (n.apply e).turns t.id events := by
        rw [turns, record, turnsAt_of_still still, List.nil_append, turns]
      have hsteps : ∀ rest : List (Event w), stepsOf t.id (e :: rest) = stepsOf t.id rest :=
        fun rest =>
        List.countP_cons_of_neg hstep
      rw [hturns, hsteps, run_cons]
      rcases hn.settled_apply ht settled still with ht' | ⟨⟨error, herror⟩, hgone⟩
      · rcases ih (hn.apply e) ht' with hidle | ⟨before, now, stamp, after, rfl, hbefore, hmem⟩
        · exact .inl hidle
        · exact .inr ⟨e :: before, now, stamp, after, rfl, by rw [hsteps, hbefore], hmem⟩
      · have hi := Nat.lt_of_lt_of_le (hn.below t ht) (nextTask_le_apply n e)
        exact .inl ⟨turns_of_gone (hn.apply e) hi hgone,
          .inr ⟨error, verdict_run_of_verdict herror events⟩⟩

end Settled

/-- What a task does follows a script, each entry of which depends on the node before the step:
it does nothing else, and it comes as far as it is given steps, unless the reading of input is
stopped. -/
structure Scripted (n : Node w) (i : Nat) (events : List (Event w)) (script : List (Node w → Act)) :
    Prop where
  keeps : n.acts i events = List.zipWith (fun entry turn => entry turn.1) script (n.turns i events)
  goesOn : (n.acts i events).length = min script.length (stepsOf i events) ∨
    ∃ error, (n.run events).verdict = some (.error error)

def reportOf (n : Node w) (request : Message) (e : RpcError) : List Message :=
  match request.msgId? with
  | some id =>
    if (n.mode.outcome request.src).1
      then [Payload.Plain.message e n.name request.src none (some id)] else []
  | none => []

section Scripted

variable {n : Node w} {t : Task w.Job} {events : List (Event w)} {i : Nat} {e : RpcError}
  {entry : Node w → Act}
  {script : List (Node w → Act)}

private theorem reply_act (n : Node w) (request : Message) (e : RpcError) :
    n.actTo (n.reply request (Payload.encode e)).2 = ⟨n.reportOf request e, 0, 0⟩ := by
  cases hid : request.msgId? with
  | none =>
    rw [reply_unnumbered hid]
    exact actTo_eq (by simp [reportOf, hid])
  | some id =>
    have hwritten := reply_written n e hid
    have hcounts : (n.reply request (Payload.encode e)).2.metrics.errorReplies =
      n.metrics.errorReplies ∧
        (n.reply request (Payload.encode e)).2.metrics.crashes = n.metrics.crashes := by
      simp only [reply, hid, Payload.encode, encodeBody_object, write_eq]
      split <;> exact ⟨rfl, rfl⟩
    rw [reportOf, hid]
    exact actTo_eq hwritten (by simpa using hcounts.1) (by simpa using hcounts.2)

private theorem Scripted.idle (still : n.turns i events = [])
    (goesOn : min script.length (stepsOf i events) = 0 ∨ ∃ error, (n.run events).verdict =
      some (.error error)) :
    Scripted n i events script := by
  refine ⟨?_, ?_⟩ <;> rw [acts, still]
  · simp
  · exact goesOn.imp_left Eq.symm

private theorem Scripted.gone (hn : n.Numbered) (hi : i < n.nextTask) (gone : n.task? i = none) :
    Scripted n i events [] :=
  .idle (turns_of_gone hn hi gone) (.inl (Nat.zero_min _))

private theorem Scripted.step (hn : n.Numbered) (ht : t ∈ n.tasks) {now : Nat} {stamp : Stamp}
    (act : n.actTo (n.stepTask now stamp t) = entry n)
    (h : Scripted (n.stepTask now stamp t) t.id events script) :
    Scripted n t.id (.step now stamp t.id :: events) (entry :: script) := by
  have hturns := turns_cons_step hn ht now stamp events
  have hacts : n.acts t.id (.step now stamp t.id :: events) =
      entry n :: (n.stepTask now stamp t).acts t.id events := by
    rw [acts, hturns, List.map_cons, act, acts]
  have hsteps : stepsOf t.id (.step now stamp t.id :: events) = stepsOf t.id events + 1 :=
    List.countP_cons_of_pos (by simp [Event.isStepOf])
  refine ⟨?_, ?_⟩
  · rw [hacts, hturns, List.zipWith_cons_cons, h.keeps]
  · rw [hacts, hsteps, run_cons, (turnsAt_step hn ht now stamp).2]
    refine h.goesOn.imp_left fun hlength => ?_
    rw [List.length_cons, hlength, List.length_cons]
    omega

private theorem Scripted.skip {before : List (Event w)} (idle : stepsOf i before = 0)
    (h : Scripted (n.run before) i events script) : Scripted n i (before ++ events) script := by
  have hturns : n.turns i (before ++ events) = (n.run before).turns i events := by
    rw [turns, record_append, ← turns, turns_of_idle idle, List.nil_append, turns]
  have hsteps : stepsOf i (before ++ events) = stepsOf i events := by
    rw [stepsOf, List.countP_append, ← stepsOf, idle, Nat.zero_add, stepsOf]
  refine ⟨?_, ?_⟩
  · rw [acts, hturns]
    exact h.keeps
  · rw [acts, hturns, hsteps, run_append]
    exact h.goesOn

private theorem scripted_of_settled (hn : n.Numbered) (ht : t ∈ n.tasks) (settled : t.Settled)
    (turn : ∀ (m : Node w) now stamp after, m.Numbered → t ∈ m.tasks →
      m.actTo (m.stepTask now stamp t) = entry m ∧
        Scripted (m.stepTask now stamp t) t.id after script) :
    Scripted n t.id events (entry :: script) := by
  rcases hn.first_step ht settled
    events with ⟨still, hidle⟩ | ⟨before, now, stamp, after, rfl, hbefore, hmem⟩
  · exact .idle still (hidle.imp_left fun hsteps => by rw [hsteps, Nat.min_zero])
  · obtain ⟨hact, hrest⟩ := turn (n.run before) now stamp after (hn.run before) hmem
    exact .skip hbefore (.step (hn.run before) hmem hact hrest)

private theorem scripted_of_refuse (hn : n.Numbered) (ht : t ∈ n.tasks) (role : t.role = .handle)
    (hs : t.stage = .refuse e) (events : List (Event w)) :
    Scripted n t.id events [fun m => ⟨m.reportOf t.message e, 0, 0⟩] := by
  refine scripted_of_settled hn ht
    ⟨by simp [role], by simp [Task.callId?, hs]⟩ fun m now stamp after hm hmem => ?_
  have hstep : m.stepTask now stamp t = (m.reply t.message (Payload.encode e)).2.remove t.id := by
    simp only [stepTask, hs]
  have hbelow := (SameCourse.stepTask m now stamp t).nextTask ▸ hm.below t hmem
  refine ⟨?_, .gone (hm.stepTask now stamp hmem) hbelow (by rw [hstep, task?_remove])⟩
  rw [hstep]
  exact reply_act m t.message e

private theorem scripted_of_conclude (hn : n.Numbered) (ht : t ∈ n.tasks) (role : t.role = .handle)
    {error : NodeError} (hs : t.stage = .conclude (.error error))
    (reported : error.rpcError? = some e)
    (events : List (Event w)) :
    Scripted n t.id events [fun _ => ⟨[], 1, 0⟩, fun m => ⟨m.reportOf t.message e, 0, 0⟩] := by
  refine scripted_of_settled hn ht
    ⟨by simp [role], by simp [Task.callId?, hs]⟩ fun m now stamp after hm hmem => ?_
  have hstep : m.stepTask now stamp t = ({ m with
      metrics := m.metrics.countHandlerEnd.countErrorReply } : Node w).goTo t.id (.refuse e) := by
    simp only [stepTask, hs, conclude, reported]
  have hown : (m.stepTask now stamp t).task? t.id = some { t with stage := .refuse e } := by
    rw [hstep, hm.task?_goTo hmem]
  have hrest := scripted_of_refuse (hm.stepTask now stamp hmem) (mem_of_task? hown).1 role rfl after
  refine ⟨?_, hrest⟩
  rw [hstep]
  exact actTo_eq (by simp [goTo, update]) rfl
    (by simp [goTo, update, Metrics.countErrorReply, Metrics.countHandlerEnd])

private theorem scripted_of_finish (hn : n.Numbered) (ht : t ∈ n.tasks) (role : t.role = .handle)
    {job : w.Job} {error : NodeError} (hs : t.stage = .work job)
    (finishes : ∀ view shared, (w.step view shared job).1 = .finish (.error error))
    (reported : error.rpcError? = some e) (events : List (Event w)) : Scripted n t.id events
      [fun _ => .nothing, fun _ => ⟨[], 1, 0⟩, fun m => ⟨m.reportOf t.message e, 0, 0⟩] := by
  refine scripted_of_settled hn ht
    ⟨by simp [role], by simp [Task.callId?, hs]⟩ fun m now stamp after hm hmem => ?_
  have hstep : m.stepTask now stamp t = ({ m with
      shared := (w.step m.view m.shared job).2 } : Node w).goTo t.id
          (.conclude (.error error)) := by
    simp only [stepTask, hs, finishes, act, role]
  have hown : (m.stepTask now stamp t).task? t.id =
      some { t with stage := .conclude (.error error) } := by
    rw [hstep, hm.task?_goTo hmem]
  have hrest := scripted_of_conclude (hm.stepTask now stamp hmem)
    (mem_of_task? hown).1 role rfl reported after
  refine ⟨?_, hrest⟩
  rw [hstep]
  exact actTo_eq_nothing

theorem apply_answered (hn : n.Numbered) (ht : t ∈ n.tasks) {wait : Wait w.Job}
    (hs : t.stage = .wait wait)
    {reply : Message} (mail : t.mailbox = .full reply) (now : Nat) (stamp : Stamp) :
    n.apply (.step now stamp t.id) = n.update t.id fun t =>
      { t with stage := .work (wait.next (History.outcome reply)), mailbox := .empty } := by
  rw [(turnsAt_step hn ht now stamp).2]
  simp only [stepTask, hs, waitResult?, mail, History.outcome]
  cases reply.rpcError? <;> rfl

private theorem scripted_of_answer (hn : n.Numbered) (ht : t ∈ n.tasks) (role : t.role = .handle)
    {wait : Wait w.Job} {reply : Message} {heard : RpcError} {error : NodeError}
    (hs : t.stage = .wait wait)
    (mail : t.mailbox = .full reply) (hears : reply.rpcError? = some heard)
    (finishes : ∀ view shared,
      (w.step view shared (wait.next (.error (.rpc heard)))).1 = .finish (.error error))
    (reported : error.rpcError? = some e) (now : Nat) (stamp : Stamp) (after : List (Event w)) :
    Scripted n t.id (.step now stamp t.id :: after)
      [fun _ => .nothing, fun _ => .nothing, fun _ => ⟨[], 1, 0⟩, fun m =>
        ⟨m.reportOf t.message e, 0, 0⟩] := by
  have houtcome : History.outcome reply = .error (.rpc heard) := by rw [History.outcome, hears]
  have hstep := apply_answered hn ht hs mail now stamp
  rw [(turnsAt_step hn ht now stamp).2, houtcome] at hstep
  have hown : (n.stepTask now stamp t).task? t.id =
      some { t with stage := .work (wait.next (.error (.rpc heard))), mailbox := .empty } := by
    rw [hstep, hn.task?_update ht rfl]
  have hrest := scripted_of_finish (hn.stepTask now stamp ht)
    (mem_of_task? hown).1 role rfl finishes reported
    after
  refine .step hn ht ?_ hrest
  rw [hstep]
  exact actTo_eq_nothing

/-- What a handler does from the step on at which its call has failed: it takes the answer, ends its
job, counts the error, and reports it, unless the output is closed to that at the time. -/
def failing (dest : String) (report : Node w → Message) : List (Node w → Act) :=
  [fun _ => .nothing, fun _ => .nothing, fun _ => ⟨[], 1, 0⟩,
    fun m => ⟨if (m.mode.outcome dest).1 then [report m] else [], 0, 0⟩]

/-- A handler that has an error for the answer to its call fails: from then on it does nothing but
count an error and report it to the client. -/
def Fails (n : Node w) (t : Task w.Job) (events : List (Event w)) (id : UInt64) (code : Int64)
    (text : String) : Prop :=
  ∃ report : Node w → Message,
    (∀ m, (report m).dest = t.message.src ∧ (report m).body.field? "in_reply_to" =
      some (.ofUInt64 id) ∧
      (report m).Complains code text) ∧
    Scripted n t.id events (failing t.message.src report)

theorem fails_of_answer (hn : n.Numbered) (ht : t ∈ n.tasks)
    (role : t.role = .handle) {id : UInt64} (asked : t.message.msgId? = some id) {wait : Wait w.Job}
    (hs : t.stage = .wait wait) {reply : Message} (mail : t.mailbox = .full reply)
    {heard : RpcError} (hears : reply.rpcError? = some heard) {error : NodeError}
    (finishes : ∀ view shared,
      (w.step view shared (wait.next (.error (.rpc heard)))).1 = .finish (.error error))
    (reported : error.rpcError? = some e) (now : Nat) (stamp : Stamp) (after : List (Event w)) :
    n.Fails t (.step now stamp t.id :: after) id e.code.toInt64 e.text := by
  have hscripted := scripted_of_answer hn ht role hs mail hears finishes reported now stamp after
  simp only [reportOf, asked] at hscripted
  refine ⟨fun m => Payload.Plain.message e m.name t.message.src none (some id), fun m =>
    ⟨rfl, ?_, e.complains⟩,
    hscripted⟩
  exact get?_inReplyTo_stamped (e.plain.toTagged.get?_stamp (by decide))

end Scripted

end Node

end ClusterNode
