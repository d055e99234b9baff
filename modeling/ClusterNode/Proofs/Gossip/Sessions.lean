import ClusterNode.Proofs.Gossip.Spreading
import ClusterNode.Proofs.Node.Conduct
import ClusterNode.Proofs.Workload.Identity

/-!
Sessions: what can be seen from outside of a node whose requests are worked on side by side. A value
that has been confirmed is in every list that is asked for afterwards, a list that has been told
begins every list that is asked for afterwards, and each list holds values that were delivered, each
once.
-/

set_option autoImplicit false

namespace ClusterNode

/-- What can be seen of a node: a request that a task begins to work for, or a line that a task
writes while it works for a request. -/
inductive Happening where
  | received (task : Nat) (request : Message)
  | wrote (task : Nat) (request line : Message)

def Happening.line? : Happening → Option Message
  | .received _ _ => none
  | .wrote _ _ line => some line

namespace Node

variable {w : Workload}

/-- What can be seen of an event. -/
def happens (n : Node w) : Event w → List Happening
  | .line bytes => (n.dispatched bytes).map (.received n.nextTask)
  | .step now stamp id => (n.task? id).toList.flatMap fun t =>
      ((n.stepTask now stamp t).written.drop n.written.length).map (.wrote id t.message)
  | _ => []

/-- What can be seen of a run, in order. -/
def session (n : Node w) (events : List (Event w)) : List Happening := n.record happens events

private theorem session_cons (n : Node w) (e : Event w) (events : List (Event w)) :
    n.session (e :: events) = n.happens e ++ (n.apply e).session events := rfl

private theorem written_session (n : Node w) (events : List (Event w)) :
    (n.run events).written = n.written ++ (n.session events).filterMap Happening.line? := by
  induction events generalizing n with
  | nil => exact (List.append_nil _).symm
  | cons e events ih =>
    have hevent : (n.apply e).written = n.written ++ (n.happens e).filterMap Happening.line? := by
      by_cases hstep : ∃ now stamp id, e = .step now stamp id
      · obtain ⟨now, stamp, id, rfl⟩ := hstep
        simp only [apply, step, happens]
        cases n.task? id with
        | none => exact (List.append_nil _).symm
        | some t =>
          obtain ⟨lines, hlines⟩ := (SameCourse.stepTask n now stamp t).written
          simp [← hlines, List.filterMap_map, Function.comp_def, Happening.line?]
      · have hnothing : (n.happens e).filterMap Happening.line? = [] := by
          cases e <;> simp_all [happens, Happening.line?]
        rw [hnothing, List.append_nil]
        exact (still_apply fun now stamp id he => hstep ⟨now, stamp, id, he⟩).written
    rw [run_cons, ih, hevent, session_cons, List.filterMap_append, List.append_assoc]

end Node

section Sublist

variable {α : Type} {l h : List α} {a b : α}

private theorem sublist_concat_iff : (l ++ [a]).Sublist (h ++ [b]) ↔
    (l ++ [a]).Sublist h ∨ a = b ∧ l.Sublist h := by
  have hreversed : ∀ s t : List α, s.Sublist t ↔ s.reverse.Sublist t.reverse := fun _ _ =>
    List.reverse_sublist.symm
  rw [hreversed (l ++ [a]) (h ++ [b]), hreversed (l ++ [a]) h, hreversed l h]
  simp only [List.reverse_append, List.reverse_cons, List.reverse_nil, List.nil_append,
    List.singleton_append]
  exact List.cons_sublist_cons'

end Sublist

namespace Message

/-- The values that a message lists, if it lists values. -/
def listed? (m : Message) : Option (List BroadcastValue) :=
  match (m.payload : Except RpcError Payload.Broadcast) with
  | .ok (.readOk values) => some values
  | _ => none

private theorem kind_of_listed? {m : Message} {vs : List BroadcastValue} {fields : Dictionary Json}
    (h : m.listed? = some vs) (hbody : m.body = .object fields) : m.kind = "read_ok" := by
  simp only [listed?] at h
  split at h
  · rename_i values hpayload
    exact Message.kind_of_payload Payload.Broadcast.tag_of_decode hpayload hbody
  · cases h

end Message

namespace Workload.Broadcast

private theorem listed?_message (src dest : String) (msgId inReplyTo : Option UInt64)
    (vs : List BroadcastValue) :
    (Payload.Plain.message (Payload.Broadcast.readOk vs) src dest msgId inReplyTo).listed? =
      some vs := by
  rw [Message.listed?, Payload.Plain.message,
    Message.payload_of_decode (Payload.Broadcast.decode_body _ _ _)]

/-- A list of values heeds what was seen: it holds a value that was confirmed, and it begins with a
list that was told. -/
structure Heeds (vs : List BroadcastValue) (x : Happening) : Prop where
  confirmed : ∀ task m line v, x = .wrote task m line → line.kind = "broadcast_ok" →
    m.carried? = some v →
    ∃ u ∈ vs, (u == v) = true
  told : ∀ task m line us, x = .wrote task m line → line.listed? = some us → us <+: vs

/-- What a line tells that a task writes, in view of what was seen before. -/
structure Warranted (before : List Happening) (task : Nat) (m line : Message) : Prop where
  /-- A confirmation is one of a value that was asked for. -/
  confirms : line.kind = "broadcast_ok" → ∃ v, m.carried? = some v
  /-- A line that is to list values does so. -/
  lists : line.kind = "read_ok" → ∃ vs, line.listed? = some vs
  /-- A confirmation, and a list of values, answers the request of the task, which was received
  before. -/
  answers : line.kind = "broadcast_ok" ∨ line.listed?.isSome →
    .received task m ∈ before ∧ line.dest = m.src ∧ line.answers? = m.msgId?
  /-- A list of values heeds what was seen before the request for it was received. -/
  heeds : ∀ vs, line.listed? = some vs → ∀ x request, [x, .received task request].Sublist before →
    Heeds vs x
  /-- No two of the values are equal. -/
  distinct : ∀ vs, line.listed? = some vs → vs.Pairwise fun u v => ¬ (u == v) = true
  /-- Each was asked for by a request that was received before. -/
  delivered : ∀ vs, line.listed? = some vs →
    ∀ v ∈ vs, ∃ other request, .received other request ∈ before ∧
    request.carried? = some v

/-- What is known of a job in view of what was seen and of the values that were accepted. -/
def Known (h : List Happening) (g : Values) (id : Nat) (m : Message) : Job → Prop
  | .received request => request = m
  | .recorded v _ | .offered v _ => m.carried? = some v ∧ g.Holds v
  | .answering (.readOk vs) =>
    vs <+: g.log ∧ ∀ x request, [x, .received id request].Sublist h → Heeds vs x
  | .answering payload => payload = .topologyOk
  | .forwarding _ _ | .ending _ => True

/-- What is known of the tasks of a node in view of what was seen and of the values that were
accepted. -/
def conduct (h : List Happening) (g : Values) : Conduct broadcast where
  Seeks _ _ := True
  Fits id m job := .received id m ∈ h ∧ Known h g id m job
  Fails _ _ := True
  refusable _ _ _ _ _ := trivial

structure Agrees (h : List Happening) (g : Values) : Prop where
  consistent : g.Consistent
  distinct : g.log.Pairwise fun u v => ¬ (u == v) = true
  delivered : ∀ v ∈ g.log, ∃ task m, .received task m ∈ h ∧ m.carried? = some v
  heeded : ∀ x ∈ h, Heeds g.log x

section Values

variable {h more : List Happening} {g g' : Values} {id : Nat} {m : Message} {job : Job}
  {u v : BroadcastValue}
  {vs : List BroadcastValue} {x : Happening}

private theorem Heeds.mono (hx : Heeds vs x) {vs' : List BroadcastValue} (hvs : vs <+: vs') :
    Heeds vs' x where
  confirmed task m line v hwrote hkind hv := by
    obtain ⟨u, hu, huv⟩ := hx.confirmed task m line v hwrote hkind hv
    exact ⟨u, hvs.subset hu, huv⟩
  told task m line us hwrote hus := (hx.told task m line us hwrote hus).trans hvs

private theorem heeds_received (vs : List BroadcastValue) (id : Nat) (m : Message) :
    Heeds vs (.received id m) where
  confirmed _ _ _ _ hwrote := by cases hwrote
  told _ _ _ _ hwrote := by cases hwrote

private theorem holds_of_prefix (hlog : g.log <+: g'.log) (hv : g.Holds v) : g'.Holds v := by
  obtain ⟨u, hu, huv⟩ := hv
  exact ⟨u, hlog.subset hu, huv⟩

private theorem Known.mono (hk : Known h g id m job) (hlog : g.log <+: g'.log)
    (seen : ∀ x request, [x, .received id request].Sublist (h ++ more) →
      [x, .received id request].Sublist h) :
    Known (h ++ more) g' id m job := by
  cases job with
  | recorded v fresh => exact ⟨hk.1, holds_of_prefix hlog hk.2⟩
  | offered v acceptance => exact ⟨hk.1, holds_of_prefix hlog hk.2⟩
  | answering payload =>
    cases payload with
    | readOk vs => exact ⟨hk.1.trans hlog, fun x request hx => hk.2 x request (seen x request hx)⟩
    | _ => exact hk
  | _ => exact hk

private theorem Agrees.accept (ha : Agrees h g) (hreceived : .received id m ∈ h)
    (hv : m.carried? = some v) :
    Agrees h (g.accept v).2 ∧ g.log <+: (g.accept v).2.log ∧ (g.accept v).2.Holds v := by
  have hholds : (g.accept v).2.Holds v := (Gossip.holds_accept ha.consistent).mpr (.inr BEq.rfl)
  have hconsistent := ha.consistent.accept v
  by_cases hheld : g.Holds v
  · rw [Gossip.accept_of_holds ha.consistent hheld] at hholds ⊢
    exact ⟨ha, List.prefix_rfl, hholds⟩
  · rw [Gossip.accept_of_not_holds ha.consistent hheld] at hholds hconsistent ⊢
    have hlog : g.log <+: g.log ++ [v] := List.prefix_append _ _
    refine ⟨⟨hconsistent, ?_, ?_, fun x hx => (ha.heeded x hx).mono hlog⟩, hlog, hholds⟩
    · refine List.pairwise_append.mpr
        ⟨ha.distinct, List.pairwise_singleton _ _, fun u hu w hw huw => ?_⟩
      rw [List.mem_singleton.mp hw] at huw
      exact hheld ⟨u, hu, huw⟩
    · refine List.forall_mem_append.mpr ⟨ha.delivered, List.forall_mem_singleton.mpr ?_⟩
      exact ⟨id, m, hreceived, hv⟩

private theorem Agrees.step (ha : Agrees h g) (view : View) (stamp : Stamp)
    (hreceived : .received id m ∈ h)
    (hk : Known h g id m job) :
    Agrees h (Broadcast.step view g job).2 ∧ g.log <+: (Broadcast.step view g job).2.log ∧
      (conduct h (Broadcast.step view g job).2).Allows id m stamp
        (Broadcast.step view g job).1 := by
  have hrefl : g.log <+: g.log := List.prefix_rfl
  cases job with
  | received request =>
    obtain rfl : request = m := hk
    show Agrees h (begin view g request).2 ∧ g.log <+: (begin view g request).2.log ∧
      (conduct h (begin view g request).2).Allows id request stamp (begin view g request).1
    unfold begin
    cases hpayload : (request.payload : Except RpcError Payload.Broadcast) with
    | error e => exact ⟨ha, hrefl, trivial⟩
    | ok p =>
      cases p with
      | broadcast v =>
        have hv : request.carried? = some v := by simp only [Message.carried?, hpayload]
        obtain ⟨ha', hlog, hholds⟩ := ha.accept hreceived hv
        exact ⟨ha', hlog, hreceived, hv, hholds⟩
      | read =>
        exact ⟨ha, hrefl, hreceived, hrefl, fun x _ hx =>
          ha.heeded x (hx.subset List.mem_cons_self)⟩
      | topology table =>
        dsimp only
        split
        · exact ⟨ha, hrefl, trivial⟩
        · split
          · exact ⟨ha, hrefl, trivial⟩
          · exact ⟨⟨ha.consistent, ha.distinct, ha.delivered, ha.heeded⟩, hrefl, hreceived, rfl⟩
      | _ => exact ⟨ha, hrefl, trivial⟩
  | recorded v fresh => exact ⟨ha, hrefl, hreceived, hk⟩
  | offered v acceptance =>
    refine ⟨ha, hrefl, ⟨_, rfl⟩, fun r _ => ?_⟩
    cases r with
    | error e => exact ⟨hreceived, trivial⟩
    | ok u => cases acceptance <;> exact ⟨hreceived, trivial⟩
  | forwarding v neighbors =>
    cases neighbors with
    | nil => exact ⟨ha, hrefl, trivial⟩
    | cons neighbor rest => exact ⟨ha, hrefl, ⟨_, rfl⟩, fun _ _ => ⟨hreceived, trivial⟩⟩
  | answering payload => exact ⟨ha, hrefl, ⟨_, rfl⟩, fun _ _ => ⟨hreceived, trivial⟩⟩
  | ending result => cases result <;> exact ⟨ha, hrefl, trivial⟩

end Values

section Lines

variable {h : List Happening} {g : Values} {task : Nat} {m line : Message}

private theorem answers?_message {α : Type} [Payload α] (a : α)
    (hnone : Dictionary.get? "in_reply_to" (Dictionary.ofList (Payload.fields a)) = none)
    (src dest : String)
    (id : Option UInt64) : (Payload.Plain.message a src dest none id).answers? = id := by
  show (Dictionary.get? "in_reply_to" (stamped none id _)).bind Json.toUInt64? = id
  rw [get?_inReplyTo_stamped hnone]
  cases id <;> rfl

private theorem warranted_of_kind (hbody : ∃ fields, line.body = .object fields)
    (hkind : line.kind ∉ ["broadcast_ok", "read_ok"]) :
    Warranted h task m line ∧ Heeds g.log (.wrote task m line) := by
  obtain ⟨fields, hbody⟩ := hbody
  have hconfirms : line.kind ≠ "broadcast_ok" := fun heq => hkind (by simp [heq])
  have hlists : ∀ vs, line.listed? ≠ some vs := fun vs hlisted =>
    hkind (by simp [Message.kind_of_listed? hlisted hbody])
  constructor
  · refine ⟨fun hok => absurd hok hconfirms, fun hread => absurd (by simp [hread]) hkind, ?_,
      fun vs hvs => absurd hvs (hlists vs), fun vs hvs => absurd hvs (hlists vs),
      fun vs hvs => absurd hvs (hlists vs)⟩
    rintro (hok | hsome)
    · exact absurd hok hconfirms
    · obtain ⟨vs, hvs⟩ := Option.isSome_iff_exists.mp hsome
      exact absurd hvs (hlists vs)
  · constructor
    · rintro _ _ _ v ⟨⟩ hok
      exact absurd hok hconfirms
    · rintro _ _ _ us ⟨⟩ hus
      exact absurd hus (hlists us)

private theorem warranted_confirmation (name : String) {v : BroadcastValue}
    (hreceived : .received task m ∈ h)
    (hv : m.carried? = some v) (hheld : g.Holds v)
    (hline : line = Payload.Plain.message Payload.Broadcast.broadcastOk name m.src none m.msgId?) :
    Warranted h task m line ∧ Heeds g.log (.wrote task m line) := by
  have hkind : line.kind ≠ "read_ok" := by
    have hplain : Payload.Plain Payload.Broadcast.broadcastOk "broadcast_ok" := ⟨_, rfl, by simp⟩
    rw [hline, hplain.kind]
    decide
  have hlists : ∀ vs, line.listed? ≠ some vs := fun vs hvs =>
    hkind (Message.kind_of_listed? hvs (by rw [hline]; rfl))
  have hanswers : line.answers? = m.msgId? := by rw [hline, answers?_message _ (by decide)]
  constructor
  · exact ⟨fun _ => ⟨v, hv⟩, fun hread => absurd hread hkind, fun _ =>
      ⟨hreceived, by rw [hline]; rfl, hanswers⟩,
      fun vs hvs => absurd hvs (hlists vs), fun vs hvs => absurd hvs (hlists vs),
      fun vs hvs => absurd hvs (hlists vs)⟩
  · constructor
    · rintro _ _ _ u ⟨⟩ - hu
      rw [hv] at hu
      obtain rfl := Option.some.inj hu
      exact hheld
    · rintro _ _ _ us ⟨⟩ hus
      exact absurd hus (hlists us)

private theorem warranted_list (name : String) {vs : List BroadcastValue} (ha : Agrees h g)
    (hreceived : .received task m ∈ h) (hk : Known h g task m (.answering (.readOk vs)))
    (hline : line = Payload.Plain.message (Payload.Broadcast.readOk vs) name m.src none m.msgId?) :
    Warranted h task m line ∧ Heeds g.log (.wrote task m line) := by
  have hlists : line.listed? = some vs := by rw [hline, listed?_message]
  have hkind : line.kind ≠ "broadcast_ok" := by
    rw [Message.kind_of_listed? hlists (by rw [hline]; rfl)]
    decide
  have hanswers : line.answers? = m.msgId? := by
    rw [hline, answers?_message _ (by rw [Dictionary.get?_ofList]; rfl)]
  obtain ⟨hlog, hheeds⟩ := hk
  constructor
  · refine ⟨fun hok => absurd hok hkind, fun _ => ⟨vs, hlists⟩, fun _ =>
      ⟨hreceived, by rw [hline]; rfl, hanswers⟩, ?_, ?_, ?_⟩
    all_goals
      intro us hus
      rw [hlists] at hus
      obtain rfl := Option.some.inj hus
    · exact hheeds
    · exact ha.distinct.sublist hlog.sublist
    · exact fun v hv => ha.delivered v (hlog.subset hv)
  · constructor
    · rintro _ _ _ v ⟨⟩ hok
      exact absurd hok hkind
    · rintro _ _ _ us ⟨⟩ hus
      rw [hlists] at hus
      exact Option.some.inj hus ▸ hlog

end Lines

/-- What was seen of a node, and that it agrees with what the node holds: each line was warranted
when it was written. -/
structure Recorded (h : List Happening) (n : Node broadcast) : Prop where
  course : n.OnCourse (conduct h n.shared)
  agrees : Agrees h n.shared
  warranted : ∀ before task m line after, h = before ++ .wrote task m line :: after →
    Warranted before task m line

section Recorded

variable {h : List Happening} {n n' : Node broadcast} {t : Task broadcast.Job}

private theorem warranted_of_moves (hr : Recorded h n) (ht : t ∈ n.tasks) {stamp : Stamp}
    {o : ClusterNode.Outcome broadcast}
    (hm : n.Moves t stamp o) :
    ∀ line ∈ o.lines, Warranted h t.id t.message line ∧
      Heeds n.shared.log (.wrote t.id t.message line) := by
  have hnone : ∀ line ∈ ([] : List Message), Warranted h t.id t.message line ∧
      Heeds n.shared.log (.wrote t.id t.message line) := fun _ hline =>
        absurd hline List.not_mem_nil
  have hother : ∀ {dest payload inReplyTo lines}, n.MayWrite dest payload inReplyTo lines →
      kindOf payload ∉ ["broadcast_ok", "read_ok"] → ∀ line ∈ lines,
        Warranted h t.id t.message line ∧ Heeds n.shared.log (.wrote t.id t.message line) := by
    intro dest payload inReplyTo lines wrote hkind line hline
    obtain ⟨hkind', fields, -, rfl⟩ := wrote.line_eq line hline
    exact warranted_of_kind ⟨_, rfl⟩ (hkind' ▸ hkind)
  cases hm with
  | sends job dest payload next shared result lines hs hstep wrote succeeds =>
    have hpayload : (Broadcast.step n.view n.shared job).1.payload? = some payload := by
      rw [show Broadcast.step n.view n.shared job = _ from hstep]
      rfl
    obtain ⟨-, ⟨v, acceptance, rfl, -⟩ | ⟨v, rfl⟩ | ⟨answer, rfl, -⟩⟩ := payload_cases hpayload
    · cases hstep
    · refine hother wrote ?_
      rw [kindOf_encode (Payload.Broadcast.broadcast v) rfl (by simp)]
      decide
    · cases hstep
  | replies job payload next shared result lines hs hstep wrote succeeds =>
    have hpayload : (Broadcast.step n.view n.shared job).1.payload? = some payload := by
      rw [show Broadcast.step n.view n.shared job = _ from hstep]
      rfl
    obtain ⟨-, hreceived, hknown⟩ := (hr.course.follows t ht).of_stage hs
    obtain ⟨-, ⟨v, acceptance, rfl, rfl⟩ | ⟨v, rfl⟩ | ⟨answer, rfl, rfl⟩⟩ := payload_cases hpayload
    · intro line hline
      obtain ⟨-, fields, hfields, rfl⟩ := wrote.line_eq line hline
      obtain rfl := Json.object.inj hfields
      exact warranted_confirmation n.name hreceived hknown.1 hknown.2 rfl
    · refine hother wrote ?_
      rw [kindOf_encode (Payload.Broadcast.broadcast v) rfl (by simp)]
      decide
    · cases answer with
      | readOk vs =>
        intro line hline
        obtain ⟨-, fields, hfields, rfl⟩ := wrote.line_eq line hline
        obtain rfl := Json.object.inj hfields
        exact warranted_list n.name hr.agrees hreceived hknown rfl
      | topologyOk =>
        refine hother wrote ?_
        rw [kindOf_encode Payload.Broadcast.topologyOk rfl (by simp)]
        decide
      | _ => cases hknown
  | confirms result lines hs wrote succeeds =>
    refine hother wrote ?_
    rw [kindOf_encode Payload.Init.initOk rfl (by simp)]
    decide
  | reported e lines hs wrote =>
    refine hother wrote ?_
    rw [kindOf_encode e rfl (by simp)]
    decide
  | _ => exact hnone

private theorem Agrees.see {g : Values} (ha : Agrees h g) {x : Happening} (heeded : Heeds g.log x) :
    Agrees (h ++ [x]) g where
  consistent := ha.consistent
  distinct := ha.distinct
  delivered v hv := by
    obtain ⟨task, m, hm, hcarried⟩ := ha.delivered v hv
    exact ⟨task, m, List.mem_append_left _ hm, hcarried⟩
  heeded := List.forall_mem_append.mpr ⟨ha.heeded, List.forall_mem_singleton.mpr heeded⟩

private theorem Recorded.see (hr : Recorded h n) {x : Happening} (heeded : Heeds n.shared.log x)
    (fresh : ∀ task m, x = .received task m → n.nextTask ≤ task)
    (warranted : ∀ task m line, x = .wrote task m line → Warranted h task m line) :
    Recorded (h ++ [x]) n where
  course := by
    refine hr.course.imp id (fun _ _ _ _ => trivial)
      (fun task m job htask hfits => ?_) fun _ _ _ _ => trivial
    refine ⟨List.mem_append_left _ hfits.1, hfits.2.mono List.prefix_rfl fun y request hy => ?_⟩
    rcases sublist_concat_iff (l := [y]).mp hy with hy | ⟨hx, -⟩
    · exact hy
    · exact absurd (fresh task request hx.symm) (Nat.not_le.mpr htask)
  agrees := hr.agrees.see heeded
  warranted := by
    intro before task m line after hsplit
    rcases split_concat hsplit with ⟨rfl, hx⟩ | ⟨rest, hrest, -⟩
    · exact warranted task m line hx
    · exact hr.warranted before task m line rest hrest

private theorem Recorded.start (rpcTimeout : Duration) :
    Recorded [] (Node.start broadcast rpcTimeout) where
  course := .start _ rpcTimeout
  agrees :=
    { consistent := fun v => by
        simp [Node.start, broadcast, Gossip.contains, Gossip.Holds, Gossip.empty]
      distinct := .nil
      delivered := fun _ hv => absurd hv List.not_mem_nil
      heeded := fun _ hx => absurd hx List.not_mem_nil }
  warranted before task m line after h := by simp at h

private theorem Recorded.still (hr : Recorded h n) (course : n'.OnCourse (conduct h n.shared))
    (shared : n'.shared = n.shared) : Recorded h n' :=
  ⟨shared ▸ course, shared ▸ hr.agrees, hr.warranted⟩

private theorem Recorded.stepTask (hr : Recorded h n) (ht : t ∈ n.tasks) (now : Nat)
    (stamp : Stamp) :
    Recorded (h ++ ((n.stepTask now stamp t).written.drop n.written.length).map
      (.wrote t.id t.message))
      (n.stepTask now stamp t) := by
  have hjob : ∀ job, t.stage = .work job → Agrees h (broadcast.step n.view n.shared job).2 ∧
      n.shared.log <+: (broadcast.step n.view n.shared job).2.log ∧
        (conduct h (broadcast.step n.view n.shared job).2).Allows t.id t.message stamp
          (broadcast.step n.view n.shared job).1 := by
    intro job hs
    obtain ⟨-, hreceived, hknown⟩ := (hr.course.follows t ht).of_stage hs
    exact hr.agrees.step n.view stamp hreceived hknown
  obtain ⟨o, hm, hchanges⟩ :=
    hr.course.moves duty_kept.init ht (fun job hs => (hjob job hs).2.2.plain) now stamp
  have hshared : Agrees h o.shared ∧ n.shared.log <+: o.shared.log ∧ ∀ job, t.stage = .work job →
      (conduct h o.shared).Allows t.id t.message stamp (broadcast.step n.view n.shared job).1 := by
    rcases hm.shared_cases with ⟨job, hs, heq⟩ | ⟨hidle, heq⟩ <;> rw [heq]
    · obtain ⟨hagrees, hlog, hallows⟩ := hjob job hs
      refine ⟨hagrees, hlog, fun job' hs' => ?_⟩
      obtain rfl := Stage.work.inj (hs.symm.trans hs')
      exact hallows
    · exact ⟨hr.agrees, List.prefix_rfl, fun job hs => absurd hs (hidle job)⟩
  obtain ⟨hagrees, hlog, hallows⟩ := hshared
  have hcourse : (n.stepTask now stamp t).OnCourse (conduct h o.shared) := by
    refine hr.course.stepTask ht hm hchanges id ?_ (fun hidle _ => ?_) hallows
    · refine ⟨fun _ _ _ _ => trivial, fun task m job _ hfits => ⟨hfits.1, ?_⟩, fun _ _ _ _ =>
        trivial⟩
      simpa using hfits.2.mono hlog fun x request (hx : List.Sublist _ (h ++ [])) => by
        simpa using hx
    · rw [hm.shared_of_idle hidle]
  rw [← hchanges.shared] at hcourse hagrees hlog
  have hmoved : Recorded h (n.stepTask now stamp t) := ⟨hcourse, hagrees, hr.warranted⟩
  have hlines := warranted_of_moves hr ht hm
  rw [hchanges.written, List.drop_left]
  rcases hm.lines_cases with hnone | ⟨line, hline⟩
  · rw [hnone, List.map_nil, List.append_nil]
    exact hmoved
  · obtain ⟨hwarranted, hheeds⟩ := hlines line (by rw [hline]; exact List.mem_singleton_self line)
    rw [hline, List.map_singleton]
    refine hmoved.see (hheeds.mono hlog) (by simp) fun task m line' heq => ?_
    cases heq
    exact hwarranted

private theorem Recorded.line (hr : Recorded h n) (bytes : List UInt8) :
    Recorded (h ++ (n.dispatched bytes).map (.received n.nextTask)) (n.receiveBytes bytes) := by
  have hstill : (n.receiveBytes bytes).shared = n.shared :=
    (Node.still_apply (e := .line bytes) (by simp)).shared
  rcases n.dispatched_cases bytes with hnone | ⟨m, hm⟩
  · rw [hnone, List.map_nil, List.append_nil]
    exact hr.still (hr.course.line (by simp [hnone])) hstill
  · rw [hm, List.map_singleton]
    have hseen : Recorded (h ++ [.received n.nextTask m]) n :=
      hr.see (heeds_received _ _ _) (by simp) (by simp)
    refine hseen.still (hseen.course.line fun m' hm' => ?_) hstill
    rw [hm] at hm'
    obtain rfl := List.mem_singleton.mp hm'
    refine ⟨fun _ => trivial, fun handler hhandler => ?_⟩
    rw [handler_of_kinds hhandler]
    exact ⟨by simp, rfl⟩

private theorem Recorded.apply (hr : Recorded h n) {e : Node.Event broadcast}
    (outside : e.FromOutside) :
    Recorded (h ++ n.happens e) (n.apply e) := by
  have hother : (∀ now stamp id, e ≠ .step now stamp id) → (∀ bytes, e ≠ .line bytes) →
    n.happens e = [] →
      Recorded (h ++ n.happens e) (n.apply e) := by
    intro hstep hline hnothing
    rw [hnothing, List.append_nil]
    exact hr.still (hr.course.apply outside (fun bytes he => absurd he (hline bytes)) hstep
      fun _ _ _ _ => trivial) (Node.still_apply hstep).shared
  cases e with
  | line bytes => exact hr.line bytes
  | step now stamp id =>
    simp only [Node.apply, Node.step, Node.happens]
    cases htask : n.task? id with
    | none => simpa using hr
    | some t =>
      obtain ⟨ht, rfl⟩ := Node.mem_of_task? htask
      simpa using hr.stepTask ht now stamp
  | client job => exact outside.elim
  | _ => exact hother (by simp) (by simp) rfl

private theorem Recorded.run (hr : Recorded h n) {events : List (Node.Event broadcast)}
    (outside : ∀ e ∈ events, e.FromOutside) : Recorded (h ++ n.session events) (n.run events) := by
  induction events generalizing h n with
  | nil => simpa [Node.session, Node.record] using hr
  | cons e events ih =>
    obtain ⟨houtside, hrest⟩ := List.forall_mem_cons.mp outside
    rw [Node.run_cons, Node.session_cons, ← List.append_assoc]
    exact ih (hr.apply houtside) hrest

end Recorded

/-- In every run of a node that no caller inside the program interferes with, each line that
confirms or lists values is warranted by what was seen before it was written, in whichever order the
tasks take their steps. -/
theorem lines_warranted (rpcTimeout : Duration) (events : List (Node.Event broadcast))
    (outside : ∀ e ∈ events, e.FromOutside) :
    ((Node.start broadcast rpcTimeout).run events).written =
        ((Node.start broadcast rpcTimeout).session events).filterMap Happening.line? ∧
      ∀ before task m line after,
        (Node.start broadcast rpcTimeout).session events = before ++ .wrote task m line :: after →
          Warranted before task m line := by
  refine ⟨by rw [Node.written_session]; rfl, ?_⟩
  simpa using ((Recorded.start rpcTimeout).run outside).warranted

/-- A value is confirmed; then the values are asked for while another one is accepted, and are told
before that one is confirmed. -/
def overlapping : List (Node.Event broadcast) :=
  let request (body : String) : Node.Event broadcast :=
    .line ("\x7b\"src\":\"c\",\"dest\":\"a\",\"body\":\x7b" ++ body ++ "\x7d\x7d").toUTF8.toList
  let steps (count id : Nat) : List (Node.Event broadcast) :=
    List.replicate count (.step 0 ⟨0, 0⟩ id)
  request "\"type\":\"broadcast\",\"message\":5,\"msg_id\":1" :: steps 4 0
    ++ request "\"type\":\"read\",\"msg_id\":2" ::
      request "\"type\":\"broadcast\",\"message\":6,\"msg_id\":3"
      :: steps 3 2 ++ steps 3 1 ++ steps 1 2

theorem overlapping_warranted : (∀ e ∈ overlapping, e.FromOutside) ∧
    ((Node.start broadcast ⟨1000⟩).run overlapping).written.map Message.kind =
      ["broadcast_ok", "read_ok", "broadcast_ok"] ∧
    ((Node.start broadcast ⟨1000⟩).run overlapping).written =
      ((Node.start broadcast ⟨1000⟩).session overlapping).filterMap Happening.line? ∧
    ∀ before task m line after,
      (Node.start broadcast ⟨1000⟩).session overlapping = before ++ .wrote task m line :: after →
        Warranted before task m line :=
  have outside : ∀ e ∈ overlapping, e.FromOutside := by simp [overlapping, Node.Event.FromOutside]
  ⟨outside, by decide +kernel, lines_warranted ⟨1000⟩ overlapping outside⟩

end Workload.Broadcast

end ClusterNode
