import ClusterNode.Proofs.Node.Answers
import ClusterNode.Workload.UniqueIds

/-!
How the reading of input ends: with the error of the first bad line, or well if no line is bad. This
depends on the lines alone, whatever the node is, whatever its tasks do, and in whichever order they
do it.
-/

set_option autoImplicit false

namespace ClusterNode

variable {w : Workload}

/-- A message that answers nothing: the number of the request is missing, null or zero. -/
def Message.AnswersNothing (m : Message) : Prop :=
  m.body.field? "in_reply_to" ∈ [none, some .null, some (.ofUInt64 0)]

private theorem Message.inReplyTo?_eq_none_iff {line : String} {m : Message}
    (h : Message.decode line = .ok m) :
    m.inReplyTo? = none ↔ m.AnswersNothing := by
  obtain ⟨fields, header, hbody, hheader⟩ := Message.header_of_decode h
  obtain ⟨reply?, hreply, -⟩ := exists_of_bind_eq_ok hheader
  simp only [Message.inReplyTo?, Message.AnswersNothing, hbody, Json.field?]
  simp only [Payload.present?] at hreply
  cases hget : Dictionary.get? "in_reply_to" fields with
  | none => simp
  | some v =>
    rw [hget] at hreply
    cases v with
    | null => simp [Json.toUInt64?]
    | number n =>
      cases n with
      | unsigned id => simp [Json.toUInt64?, Number.toUInt64?, Json.ofUInt64, Option.filter]
      | negative n => cases hreply
      | double x => cases hreply
    | bool b => cases hreply
    | string s => cases hreply
    | array items => cases hreply
    | object fields => cases hreply

/-- A bad line, and the error with which it ends the reading of input. -/
inductive Bad (w : Workload) (bytes : List UInt8) : NodeError → Prop
  /-- It is no text at all. -/
  | garbled (fault : Text.Utf8Fault)
      (text : Text.Utf8.decode (Input.withoutEnd bytes) = .error fault) :
        Bad w bytes (.io fault.message)
  /-- It is not blank and no message. -/
  | unreadable (line : String) (e : CodecError)
      (text : Text.Utf8.decode (Input.withoutEnd bytes) = .ok line) (filled : Text.trim line ≠ "")
      (message : Message.decode (Text.trim line) = .error e) : Bad w bytes (.codec e)
  /-- It is a message that answers nothing, and no request that is served. -/
  | unserved (line : String) (m : Message)
      (text : Text.Utf8.decode (Input.withoutEnd bytes) = .ok line) (filled : Text.trim line ≠ "")
      (message : Message.decode (Text.trim line) = .ok m) (request : m.AnswersNothing)
      (kind : m.kind ≠ "init" ∧ w.handlers.get? m.kind = none) :
      Bad w bytes (.noHandler m.kind (Text.trim line))

namespace Reading

/-- The error with which a line ends the reading of input, if it does, where some kinds of requests
are served. -/
def fault? (serves : String → Bool) : Reading → Option NodeError
  | .blank => none
  | .refused e => some e
  | .message m line =>
    if m.inReplyTo? = none ∧ m.kind ≠ "init" ∧
      serves m.kind = false then some (.noHandler m.kind line)
    else none

def message? : Reading → Option Message
  | .message m _ => some m
  | _ => none

private theorem fault?_ofBytes {bytes : List UInt8} {e : NodeError} :
    (ofBytes bytes).fault? w.handlers.contains = some e ↔ Bad w bytes e := by
  constructor
  · intro h
    cases htext : Text.Utf8.decode (Input.withoutEnd bytes) with
    | error fault =>
      simp only [ofBytes, htext, fault?, Option.some.injEq] at h
      exact h ▸ .garbled fault htext
    | ok line =>
      simp only [ofBytes, htext, ofText] at h
      split at h
      · cases h
      · rename_i hfilled
        replace hfilled : Text.trim line ≠ "" := fun hempty => hfilled (by rw [hempty]; rfl)
        cases hmessage : Message.decode (Text.trim line) with
        | error e' =>
          simp only [hmessage, fault?, Option.some.injEq] at h
          exact h ▸ .unreadable line e' htext hfilled hmessage
        | ok m =>
          simp only [hmessage, fault?, Registry.contains, Option.isSome_eq_false_iff,
            Option.isNone_iff_eq_none, Option.ite_none_right_eq_some, Option.some.injEq] at h
          obtain ⟨⟨hreply, hkind⟩, rfl⟩ := h
          exact .unserved line m htext hfilled hmessage
            ((Message.inReplyTo?_eq_none_iff hmessage).mp hreply)
            hkind
  · intro h
    have hfilled : ∀ {line : String}, Text.trim line ≠ "" → (Text.trim line).isEmpty = false := by
      intro line hne
      simpa using hne
    cases h with
    | garbled fault text => simp only [ofBytes, text, fault?]
    | unreadable line e text filled message =>
      simp only [ofBytes, text, ofText, hfilled filled, message, fault?]
      rfl
    | unserved line m text filled message request kind =>
      have hreply := (Message.inReplyTo?_eq_none_iff message).mpr request
      have hcontains : w.handlers.contains m.kind = false := by
        rw [Registry.contains, kind.2, Option.isSome_none]
      simp only [ofBytes, text, ofText, hfilled filled, message]
      exact if_pos ⟨hreply, kind.1, hcontains⟩

end Reading

namespace Node

/-- Where a message goes: a reply goes to the one that waits for it, or nowhere; a request goes to
the node itself or to its handler. -/
inductive Routed (n : Node w) (m : Message) : Node w → Prop
  | taken (id : UInt64) (callback : Callback w.Job) (reply : m.inReplyTo? = some id)
      (waits : n.pending.get? id = some callback) :
      Routed n m (({ n with
        pending := n.pending.erase id
        metrics := n.metrics.countReceived.countReplyMatched } : Node w).spawn .callback m
          (match callback with
          | .deliver task => .hand task id
          | .start onReply => .work (onReply m)))
  | dropped (id : UInt64) (reply : m.inReplyTo? = some id) (waits : n.pending.get? id = none) :
      Routed n m { n with metrics := n.metrics.countReceived.countReplyDropped }
  | initialise (request : m.inReplyTo? = none) (kind : m.kind = "init") :
      Routed n m (({ n with metrics := n.metrics.countReceived } : Node w).spawn .initialise m
        (.fresh none))
  | handled (handler : Message → w.Job) (request : m.inReplyTo? = none) (kind : m.kind ≠ "init")
      (serves : w.handlers.get? m.kind = some handler) :
      Routed n m (({ n with metrics := n.metrics.countReceived } : Node w).spawn .handle m
        (.fresh (some (handler m))))

section Take

variable {n : Node w} {r : Reading} {m : Message} {line : String}

theorem take_routed (h : (Reading.message m line).fault? w.handlers.contains = none) :
    Routed n m (n.take (.message m line)) := by
  simp only [take]
  cases hreply : m.inReplyTo? with
  | some id =>
    simp only [receiveReply, Pending.take]
    cases hget : n.pending.get? id with
    | some callback =>
      have htaken := Routed.taken (n := n) id callback hreply hget
      cases callback <;> exact htaken
    | none => exact .dropped id hreply hget
  | none =>
    simp only [receiveRequest]
    split
    · exact .initialise hreply ‹_›
    · rename_i hinit
      cases hget : w.handlers.get? m.kind with
      | some handler => exact .handled handler hreply hinit hget
      | none => simp [Reading.fault?, hreply, hinit, Registry.contains, hget] at h

theorem take_of_fault {e : NodeError}
    (h : (Reading.message m line).fault? w.handlers.contains = some e) :
    n.take (.message m line) = ({ n with metrics := n.metrics.countReceived } : Node w).stop e := by
  simp only [Reading.fault?, Registry.contains, Option.isSome_eq_false_iff,
    Option.isNone_iff_eq_none,
    Option.ite_none_right_eq_some, Option.some.injEq] at h
  obtain ⟨⟨hreply, hinit, hget⟩, rfl⟩ := h
  simp only [take, hreply, receiveRequest, hinit, hget, if_false]

theorem verdict_routed {n' : Node w} (h : Routed n m n') : n'.verdict = n.verdict := by
  cases h <;> rfl

private theorem verdict_take (reading : n.verdict = none) :
    (n.take r).verdict = (r.fault? w.handlers.contains).map .error := by
  cases r with
  | blank => exact reading
  | refused e => exact verdict_stop n e
  | message m line =>
    cases hfault : (Reading.message m line).fault? w.handlers.contains with
    | none => rw [verdict_routed (take_routed hfault), reading, Option.map_none]
    | some e => rw [take_of_fault hfault, verdict_stop, Option.map_some]

end Take

def Event.line? : Event w → Option (List UInt8)
  | .line bytes => some bytes
  | _ => none

def linesOf (events : List (Event w)) : List (List UInt8) :=
  events.filterMap Event.line?

/-- The error of the first bad line, where some kinds of requests are served. -/
def firstFault? (serves : String → Bool) (lines : List (List UInt8)) : Option NodeError :=
  lines.findSome? fun bytes => (Reading.ofBytes bytes).fault? serves

def outcome (serves : String → Bool) (lines : List (List UInt8)) : Except NodeError Unit :=
  match firstFault? serves lines with
  | some e => .error e
  | none => .ok ()

/-- The messages that some lines bring before the first bad one. -/
def routes (serves : String → Bool) (lines : List (List UInt8)) : List Message :=
  ((lines.map Reading.ofBytes).takeWhile fun r => (r.fault? serves).isNone).filterMap
    Reading.message?

/-- What the events of a run bring, in order; what each of them brings depends on the node as it is
then. -/
def record {α : Type} (brings : Node w → Event w → List α) (n : Node w) : List (Event w) → List α
  | [] => []
  | e :: events => brings n e ++ (n.apply e).record brings events

def routedBy (n : Node w) : Event w → List Message
  | .line bytes =>
    if n.verdict.isNone ∧ (n.receiveBytes bytes).verdict.isNone then
      (Reading.ofBytes bytes).message?.toList
    else []
  | _ => []

/-- The messages that a run routes, in order. -/
def routed (n : Node w) (events : List (Event w)) : List Message := n.record routedBy events

section Events

variable {n : Node w} {events : List (Event w)} {bytes : List UInt8} {serves : String → Bool}
  {lines : List (List UInt8)}

private theorem routes_cons (serves : String → Bool) (bytes : List UInt8)
    (lines : List (List UInt8)) :
    routes serves (bytes :: lines) =
      if ((Reading.ofBytes bytes).fault? serves).isNone then
        (Reading.ofBytes bytes).message?.toList ++ routes serves lines
      else [] := by
  rw [routes, List.map_cons, List.takeWhile_cons]
  split
  · rw [List.filterMap_cons, routes]
    cases (Reading.ofBytes bytes).message? <;> rfl
  · rfl

@[simp] theorem linesOf_append (first second : List (Event w)) :
    linesOf (first ++ second) = linesOf first ++ linesOf second :=
  List.filterMap_append

theorem receiveBytes_of_verdict {result : Except NodeError Unit} (h : n.verdict = some result)
    (bytes : List UInt8) : n.receiveBytes bytes = n := by
  rw [receiveBytes, h]
  rfl

private theorem receiveBytes_of_blank (h : Reading.ofBytes bytes = .blank) :
    n.receiveBytes bytes = n := by
  rw [receiveBytes_eq_take, h]
  split <;> rfl

theorem verdict_receiveBytes (reading : n.verdict = none) (bytes : List UInt8) :
    (n.receiveBytes bytes).verdict =
      ((Reading.ofBytes bytes).fault? w.handlers.contains).map .error := by
  rw [receiveBytes_eq_take, reading]
  exact verdict_take reading

private theorem verdict_apply {e : Event w} (hline : e.line? = none) (hsettle : e ≠ .settle) :
    (n.apply e).verdict = n.verdict := by
  cases e with
  | line bytes => cases hline
  | step now stamp id =>
    simp only [apply, step]
    cases n.task? id with
    | none => rfl
    | some t => exact (SameCourse.stepTask n now stamp t).verdict
  | settle => exact absurd rfl hsettle
  | _ => rfl

theorem verdict_run_of_verdict {result : Except NodeError Unit} (h : n.verdict = some result)
    (events : List (Event w)) : (n.run events).verdict = some result := by
  refine run_induction (P := fun n => n.verdict = some result) h fun e _ n hn => ?_
  cases e with
  | line bytes => rw [apply, receiveBytes_of_verdict hn, hn]
  | settle => simp [apply, settle, hn]
  | _ => rw [verdict_apply rfl (by simp), hn]

private theorem verdict_run (reading : n.verdict = none) (unended : .settle ∉ events) :
    (n.run events).verdict = (firstFault? w.handlers.contains (linesOf events)).map .error := by
  induction events generalizing n with
  | nil => simpa [firstFault?, linesOf] using reading
  | cons e events ih =>
    obtain ⟨hsettle, hunended⟩ : Event.settle ≠ e ∧ .settle ∉ events := by simpa using unended
    cases hline : e.line? with
    | none =>
      have hverdict := (verdict_apply (n := n) hline (Ne.symm hsettle)).trans reading
      have hlines : linesOf (e :: events) = linesOf events := List.filterMap_cons_none hline
      rw [run_cons, ih hverdict hunended, hlines]
    | some bytes =>
      obtain rfl : e = .line bytes := by
        cases e <;> simp only [Event.line?, reduceCtorEq, Option.some.injEq] at hline
        rw [hline]
      have hverdict := verdict_receiveBytes reading bytes
      have hlines : linesOf (.line bytes :: events) = bytes :: linesOf events := rfl
      rw [run_cons, hlines, firstFault?, List.findSome?_cons]
      cases hfault : (Reading.ofBytes bytes).fault? w.handlers.contains with
      | none =>
        rw [hfault] at hverdict
        exact ih hverdict hunended
      | some e =>
        rw [hfault] at hverdict
        exact verdict_run_of_verdict hverdict events

private theorem routed_eq (reading : n.verdict = none) (unended : .settle ∉ events) :
    n.routed events = routes w.handlers.contains (linesOf events) := by
  have hover : ∀ (events : List (Event w)) {n : Node w}, n.verdict.isSome →
      n.routed events = [] := by
    intro events
    induction events with
    | nil => exact fun _ => rfl
    | cons e events ih =>
      intro n hn
      obtain ⟨result, hresult⟩ := Option.isSome_iff_exists.mp hn
      have hverdict : (n.apply e).verdict = some result := verdict_run_of_verdict hresult [e]
      have hnothing : n.routedBy e = [] := by
        cases e with
        | line bytes => exact if_neg (by simp [hresult])
        | _ => rfl
      rw [routed, record, hnothing, List.nil_append]
      exact ih (by rw [hverdict, Option.isSome_some])
  induction events generalizing n with
  | nil => rfl
  | cons e events ih =>
    obtain ⟨hsettle, hunended⟩ : Event.settle ≠ e ∧ .settle ∉ events := by simpa using unended
    rw [routed, record, ← routed]
    cases e with
    | line bytes =>
      have hverdict := verdict_receiveBytes reading bytes
      have hlines : linesOf (.line bytes :: events) = bytes :: linesOf events := rfl
      rw [hlines, routes_cons]
      cases hfault : (Reading.ofBytes bytes).fault? w.handlers.contains with
      | none =>
        rw [hfault] at hverdict
        simp [routedBy, reading, hverdict, apply, ih hverdict hunended]
      | some e =>
        rw [hfault] at hverdict
        have hstopped : (n.receiveBytes bytes).verdict.isSome := by simp [hverdict]
        simp [routedBy, hverdict, apply, hover events hstopped]
    | settle => exact absurd rfl hsettle
    | _ => exact ih ((verdict_apply rfl (by simp)).trans reading) hunended

private theorem run_blank (h : Reading.ofBytes bytes = .blank) (n : Node w)
    (before after : List (Event w)) :
    n.run (before ++ .line bytes :: after) = n.run (before ++ after) := by
  rw [run_append, run_cons, apply, receiveBytes_of_blank h, ← run_append]

private theorem firstFault?_blank (h : Reading.ofBytes bytes = .blank)
    (before after : List (List UInt8)) :
    firstFault? serves (before ++ bytes :: after) = firstFault? serves (before ++ after) := by
  simp [firstFault?, List.findSome?_append, h, Reading.fault?]

private theorem routes_blank (h : Reading.ofBytes bytes = .blank)
    (before after : List (List UInt8)) :
    routes serves (before ++ bytes :: after) = routes serves (before ++ after) := by
  induction before with
  | nil => simp [routes_cons, h, Reading.fault?, Reading.message?]
  | cons line before ih => simp only [List.cons_append, routes_cons, ih]

private theorem firstFault?_eq_none_iff :
    firstFault? w.handlers.contains lines = none ↔ ∀ bytes ∈ lines, ∀ e, ¬ Bad w bytes e := by
  rw [firstFault?, List.findSome?_eq_none_iff]
  refine forall₂_congr fun bytes _ => ?_
  simp only [Option.eq_none_iff_forall_ne_some, ← Reading.fault?_ofBytes, ne_eq]

end Events

structure Decided (n : Node w) (events : List (Event w)) : Prop where
  /-- It ends, with what the lines say. -/
  returns : (n.run (events ++ [.settle])).verdict =
    some (outcome w.handlers.contains (linesOf events))
  /-- It ends well if and only if no line is bad. -/
  well : (n.run (events ++ [.settle])).verdict = some (.ok ()) ↔
    ∀ bytes ∈ linesOf events, ∀ e, ¬ Bad w bytes e
  /-- If one is, it ends with the error of the first one. -/
  first : ∀ good bytes rest e, linesOf events = good ++ bytes :: rest →
    (∀ line ∈ good, ∀ e, ¬ Bad w line e) → Bad w bytes e →
      (n.run (events ++ [.settle])).verdict = some (.error e)
  /-- Each line before is blank and changes nothing, or brings a message, which is routed. -/
  routed : ∀ before bytes after, events = before ++ .line bytes :: after →
    (∀ line ∈ linesOf (before ++ [.line bytes]), ∀ e, ¬ Bad w line e) →
      (Reading.ofBytes bytes = .blank ∧ (n.run before).receiveBytes bytes = n.run before) ∨
      ∃ m text, Reading.ofBytes bytes = .message m text ∧
        Routed (n.run before) m ((n.run before).receiveBytes bytes)
  /-- No line after it does anything. -/
  ignored : ∀ before bytes after, events = before ++ .line bytes :: after →
    (∃ line ∈ linesOf before, ∃ e, Bad w line e) → (n.run before).receiveBytes bytes = n.run before
  /-- The messages that are routed are those that the lines bring. -/
  sequence : n.routed events = routes w.handlers.contains (linesOf events)
  /-- It is all the same whether a blank line arrives. -/
  blank : ∀ before bytes after, events = before ++ .line bytes :: after →
    Reading.ofBytes bytes = .blank →
      n.run events = n.run (before ++ after) ∧
      outcome w.handlers.contains (linesOf events) =
        outcome w.handlers.contains (linesOf (before ++ after)) ∧
      routes w.handlers.contains (linesOf events) =
        routes w.handlers.contains (linesOf (before ++ after))

/-- A node in any state that still reads takes in lines, while its tasks take their steps in any
order and its host does anything, and then its input ends. If its tasks are over by then, at least
if no line was bad, the reading is decided by the lines. -/
theorem run_decided (n : Node w) (reading : n.verdict = none) (events : List (Event w))
    (unended : .settle ∉ events)
    (finished : (∀ bytes ∈ linesOf events, ∀ e, ¬ Bad w bytes e) → (n.run events).ownTasks = []) :
    n.Decided events := by
  have hverdict := verdict_run reading unended
  have hreturns : (n.run (events ++ [.settle])).verdict =
      some (outcome w.handlers.contains (linesOf events)) := by
    rw [run_append, run_cons, run_nil, apply, settle]
    cases hfault : firstFault? w.handlers.contains (linesOf events) with
    | none =>
      rw [hfault] at hverdict
      have hover := finished (firstFault?_eq_none_iff.mp hfault)
      rw [if_pos ⟨by simp [hverdict], by simp [hover]⟩, outcome, hfault]
    | some e =>
      rw [hfault] at hverdict
      rw [if_neg (by simp [hverdict]), hverdict, outcome, hfault]
      rfl
  have hbefore : ∀ {before : List (Event w)} {e : Event w} {after : List (Event w)},
      events = before ++ e :: after →
        (n.run before).verdict = (firstFault? w.handlers.contains (linesOf before)).map .error := by
    rintro before e after rfl
    exact verdict_run reading fun h => unended (List.mem_append_left _ h)
  refine ⟨hreturns, ?_, ?_, ?_, ?_, routed_eq reading unended, ?_⟩
  · rw [hreturns, ← firstFault?_eq_none_iff, outcome]
    cases firstFault? w.handlers.contains (linesOf events) <;> simp
  · intro good bytes rest e hlines hgood hbad
    have hfirst : firstFault? w.handlers.contains (linesOf events) = some e := by
      rw [← firstFault?_eq_none_iff] at hgood
      rw [hlines, firstFault?, List.findSome?_append, ← firstFault?, hgood, Option.none_or,
        List.findSome?_cons, Reading.fault?_ofBytes.mpr hbad]
    rw [hreturns, outcome, hfirst]
  · intro before bytes after hevents hgood
    rw [linesOf_append] at hgood
    have hreading : (n.run before).verdict = none := by
      rw [hbefore hevents, firstFault?_eq_none_iff.mpr fun line hline =>
        hgood line (List.mem_append_left _ hline), Option.map_none]
    have hfault : (Reading.ofBytes bytes).fault? w.handlers.contains = none :=
      Option.eq_none_iff_forall_ne_some.mpr fun e he =>
        hgood bytes (List.mem_append_right _ (List.mem_singleton_self bytes)) e
          (Reading.fault?_ofBytes.mp he)
    rw [receiveBytes_eq_take, hreading, if_neg (by simp)]
    cases hr : Reading.ofBytes bytes with
    | blank => exact .inl ⟨rfl, rfl⟩
    | refused e =>
      rw [hr] at hfault
      cases hfault
    | message m text =>
      rw [hr] at hfault
      exact .inr ⟨m, text, rfl, take_routed hfault⟩
  · rintro before bytes after hevents ⟨line, hline, e, hbad⟩
    have hstopped : firstFault? w.handlers.contains (linesOf before) ≠ none := fun hnone =>
      firstFault?_eq_none_iff.mp hnone line hline e hbad
    obtain ⟨error, herror⟩ := Option.ne_none_iff_exists'.mp hstopped
    have hbefore' := hbefore hevents
    rw [herror, Option.map_some] at hbefore'
    exact receiveBytes_of_verdict hbefore' bytes
  · rintro before bytes after rfl hblank
    have hlines : linesOf (before ++ .line bytes :: after) =
        linesOf before ++ bytes :: linesOf after := linesOf_append _ _
    refine ⟨run_blank hblank n before after, ?_, ?_⟩
    · rw [outcome, outcome, hlines, linesOf_append, firstFault?_blank hblank]
    · rw [hlines, linesOf_append, routes_blank hblank]

/-- A request, a blank line and a reply that nobody waits for. The request is worked on only when
all of them have arrived, and it is refused, since the node has no identity. -/
def refusingOnce : List (Event Workload.uniqueIds) :=
  let reply := "\x7b\"src\":\"c\",\"dest\":\"n\",\"body\":"
    ++ "\x7b\"type\":\"read_ok\",\"in_reply_to\":7\x7d\x7d"
  let generate := "\x7b\"src\":\"c\",\"dest\":\"n\",\"body\":"
    ++ "\x7b\"type\":\"generate\",\"msg_id\":1\x7d\x7d"
  .line generate.toUTF8.toList :: .line "  \n".toUTF8.toList :: .line reply.toUTF8.toList
    :: List.replicate 6 (.step 0 ⟨0, 0⟩ 0)

theorem refusingOnce_decided :
    (Node.start Workload.uniqueIds ⟨1000⟩).verdict = none ∧ .settle ∉ refusingOnce ∧
      ((Node.start Workload.uniqueIds ⟨1000⟩).run refusingOnce).ownTasks = [] ∧
      (Node.start Workload.uniqueIds ⟨1000⟩).Decided refusingOnce :=
  have unended : .settle ∉ refusingOnce := by simp [refusingOnce]
  have finished : ((Node.start Workload.uniqueIds ⟨1000⟩).run refusingOnce).ownTasks = [] :=
    List.isEmpty_iff.mp (by decide +kernel)
  ⟨rfl, unended, finished,
    run_decided (Node.start Workload.uniqueIds ⟨1000⟩) rfl refusingOnce unended fun _ => finished⟩

end Node

end ClusterNode
