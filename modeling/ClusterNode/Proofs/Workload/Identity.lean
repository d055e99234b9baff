import ClusterNode.Proofs.Node.Notices
import ClusterNode.Proofs.Workload.Answers

/-!
A node of a workload takes on its identity once, whatever requests for one it receives, and in
whichever order its tasks take their steps.
-/

set_option autoImplicit false

namespace ClusterNode

variable {w : Workload}

namespace Node

structure AdoptsOnce (n : Node w) (events : List (Event w)) : Prop where
  fresh : n.identity = none
  /-- An identity that it has taken on stays. -/
  stays : ∀ before after i, events = before ++ after → (n.run before).identity = some i →
    (n.run events).identity = some i
  /-- It is one that a request offers. -/
  offered : ∀ i, (n.run events).identity = some i →
    ∃ m ∈ n.requests events, m.kind = "init" ∧ m.offer? = some i
  /-- One request is granted. Those before it are refused since they offer none, and those after it
  since they offer none or come too late. -/
  granted : ∀ i, (n.run events).identity = some i → ∃ before d after,
    n.decisions events = before ++ d :: after ∧ d.Granted i ∧
      (∀ x ∈ before, x.Malformed) ∧ ∀ x ∈ after, x.Malformed ∨ x.Late i
  /-- If there is no identity, those are refused that have been decided. -/
  vacant : (n.run events).identity = none → ∀ d ∈ n.decisions events, d.Malformed
  refused : ∀ d ∈ n.decisions events, ∀ e, d.refusal = some e → e.code.toInt64 = 12
  /-- If the reading of input ends well, each request has been decided once, -/
  each : (n.run events).verdict = some (.ok ()) → ((n.decisions events).map Decision.request).Perm
    ((n.requests events).filter fun m => m.kind = "init")
  /-- an identity has been taken on if one was offered, -/
  adopted : (n.run events).verdict = some (.ok ()) →
    (∃ m ∈ n.requests events, m.kind = "init" ∧ m.offer?.isSome) → (n.run events).identity.isSome
  /-- and whoever wants to know is told, each on a line of its own, unless the line was lost. -/
  told : (n.run events).verdict = some (.ok ()) → ∃ told lost,
    (told ++ lost).Perm ((n.decisions events).filter Decision.isHeard) ∧
      List.SublistForall₂ Decision.Told told (n.run events).written ∧
      ∀ d ∈ lost, ∃ mode, .setMode mode ∈ events ∧ (mode.outcome d.request.src).1 = false
  /-- Once a line says that an identity was taken on, all further lines are signed with it. -/
  signed : ∀ before after, events = before ++ after →
    (∃ line ∈ (n.run before).written, line.body.Confirms) →
      ∃ i lines, (n.run before).identity = some i ∧
      (n.run events).written = (n.run before).written ++ lines ∧ ∀ line ∈ lines, line.src = i.id

private theorem adoptsOnce_of_discreet (bare : w.handlers.get? "init" = none) (hw : w.Discreet)
    (rpcTimeout : Duration) (events : List (Event w)) :
    (Node.start w rpcTimeout).AdoptsOnce events := by
  have hs := (Settling.start w rpcTimeout).run bare hw events
  simp only [List.nil_append] at hs
  have hcandid : ∀ before, ((Node.start w rpcTimeout).run before).Candid := fun before =>
    (Candid.start w rpcTimeout).run bare hw before
  obtain ⟨dropped, hbalance, hdropped⟩ := hs.balance
  have hmem : ∀ d ∈ (Node.start w rpcTimeout).decisions events,
      d.request ∈ (Node.start w rpcTimeout).asked events := fun d hd =>
    hbalance.subset (List.mem_append_left _ (List.mem_append_left _ (List.mem_map_of_mem hd)))
  have heach : ((Node.start w rpcTimeout).run events).verdict = some (.ok ()) →
      (((Node.start w rpcTimeout).decisions events).map Decision.request).Perm
        ((Node.start w rpcTimeout).asked events) := by
    intro hok
    have hnone : ((Node.start w rpcTimeout).run events).tasks.flatMap Task.undecided = [] :=
      List.flatMap_eq_nil_iff.mpr fun x hx =>
        undecided_of_client ((hcandid events).cast.inRole x hx) (hs.closed hok x hx)
    rw [hnone, hdropped fun e he => by rw [hok] at he; cases he] at hbalance
    simpa using hbalance
  refine ⟨rfl, ?_, ?_, fun i hi => Course.split (hi ▸ hs.course),
    fun hi => Course.all_malformed (hi ▸ hs.course), ?_, heach, ?_, ?_, ?_⟩
  · rintro before after i rfl hi
    rw [run_append]
    exact ((hcandid before).run_goesOn bare hw hi after).1
  · intro i hi
    obtain ⟨before, d, after, hds, hgranted, -⟩ := Course.split (hi ▸ hs.course)
    obtain ⟨hrequest, hkind⟩ := List.mem_filter.mp (hmem d (by rw [hds]; simp))
    exact ⟨d.request, hrequest, by simpa using hkind, hgranted.offer⟩
  · intro d hd e he
    rw [hs.course.refused d hd e he]
    rfl
  · rintro hok ⟨m, hm, hkind, hoffer⟩
    by_contra hvacant
    have hcourse := hs.course
    rw [Option.not_isSome_iff_eq_none.mp hvacant] at hcourse
    obtain ⟨d, hd, rfl⟩ := List.mem_map.mp
      ((heach hok).mem_iff.mpr (List.mem_filter.mpr ⟨hm, by simpa using hkind⟩))
    rw [(hcourse.all_malformed d hd).offer] at hoffer
    cases hoffer
  · intro hok
    obtain ⟨told, lost, htelling⟩ := (Telling.start
      (fun dest => ∃ mode, .setMode mode ∈ events ∧ (mode.outcome dest).1 = false)
        w rpcTimeout).run bare hw
        (Candid.start w rpcTimeout) fun mode dest hmode hmute => ⟨mode, hmode, hmute⟩
    have hnone : ((Node.start w rpcTimeout).run events).tasks.flatMap Task.untold = [] :=
      List.flatMap_eq_nil_iff.mpr fun x hx =>
        untold_eq_nil (.inl (by rw [hs.closed hok x hx]; decide))
    have hperm := htelling.balance.resolve_left fun ⟨e, he⟩ => by rw [hok] at he; cases he
    rw [hnone, List.append_nil, List.nil_append] at hperm
    exact ⟨told, lost, hperm, htelling.written, htelling.lost⟩
  · rintro before after rfl ⟨line, hline, hconfirms⟩
    obtain ⟨i, hi⟩ := Option.isSome_iff_exists.mp ((hcandid before).said line hline hconfirms)
    obtain ⟨-, lines, hwritten, hlines⟩ := (hcandid before).run_goesOn bare hw hi after
    rw [run_append]
    exact ⟨i, lines, hi, hwritten, hlines⟩

end Node

namespace Workload

private theorem Broadcast.begin_silent (view : View) (values : Values) (m : Message) :
    (Broadcast.begin view values m).1.payload? = none := by
  rw [Broadcast.begin]
  split
  · rfl
  · rfl
  · rfl
  · split
    · rfl
    · split <;> rfl
  · rfl

theorem Broadcast.payload_cases {view : View} {values : Values} {job : Job} {payload : Json}
    (h : (Broadcast.step view values job).1.payload? = some payload) :
    (Broadcast.step view values job).2 = values ∧
      ((∃ v acceptance, job = .offered v acceptance ∧
        payload = Payload.encode Payload.Broadcast.broadcastOk) ∨
        (∃ v, payload = Payload.encode (Payload.Broadcast.broadcast v)) ∨
        ∃ answer, job = .answering answer ∧ payload = Payload.encode answer) := by
  cases job with
  | received request => cases (Broadcast.begin_silent view values request).symm.trans h
  | recorded v fresh => cases h
  | offered v acceptance => exact ⟨rfl, .inl ⟨v, acceptance, rfl, (Option.some.inj h).symm⟩⟩
  | forwarding v neighbors =>
    cases neighbors with
    | nil => cases h
    | cons neighbor rest => exact ⟨rfl, .inr (.inl ⟨v, (Option.some.inj h).symm⟩)⟩
  | answering answer => exact ⟨rfl, .inr (.inr ⟨answer, rfl, (Option.some.inj h).symm⟩)⟩
  | ending result => cases h

private theorem Broadcast.discreet : broadcast.Discreet := by
  intro view values job payload hpayload
  obtain ⟨-, ⟨v, acceptance, -, rfl⟩ | ⟨v, rfl⟩ | ⟨answer, -, rfl⟩⟩ :=
    Broadcast.payload_cases hpayload
  · exact not_confirms_encode Payload.Broadcast.broadcastOk rfl (by simp) (by decide)
  · exact not_confirms_encode (Payload.Broadcast.broadcast v) rfl (by simp) (by decide)
  · cases answer <;> exact not_confirms_encode _ rfl (by simp) (by decide)

private theorem UniqueIds.begin_silent (view : View) (next : UInt64) (m : Message) :
    (UniqueIds.begin view next m).1.payload? = none := by
  rw [UniqueIds.begin]
  split
  · rfl
  · split <;> rfl
  · rfl

private theorem UniqueIds.discreet : uniqueIds.Discreet := by
  intro view next job payload hpayload
  cases job with
  | received request => cases (UniqueIds.begin_silent view next request).symm.trans hpayload
  | numbered node sequence => cases hpayload
  | answering id =>
    obtain rfl := Option.some.inj hpayload
    exact not_confirms_encode (Payload.Generate.generateOk id) rfl (by simp) (by decide)
  | ending result => cases hpayload

section Counter

variable {settings : Counter.Settings}

private theorem Counter.begin_silent (settings : Counter.Settings) (view : View) (m : Message) :
    (Counter.begin settings view m).payload? = none := by
  cases hp : (m.payload : Except RpcError Payload.Counter) with
  | error e =>
    rw [Counter.begin, hp]
    rfl
  | ok p =>
    rw [Counter.begin, hp]
    cases p with
    | add delta => cases view.identify <;> rfl
    | read => cases view.identify <;> rfl
    | _ => rfl

private theorem Counter.carryOut_discreet {σ : Type} {view : View} {resume : σ → Counter.Job}
    {answer : Int64 → Payload.Counter} (hanswer : ∀ n, ¬ (Payload.encode (answer n)).Confirms)
    {move : StoreMove σ} {payload : Json}
    (hpayload : (Counter.carryOut settings view resume answer move).payload? = some payload) :
    ¬ payload.Confirms := by
  cases move with
  | call c next =>
    obtain rfl := Option.some.inj hpayload
    cases c with
    | cas key expected new create =>
      exact not_confirms_encode (KvClient.request (.cas key expected new create)) rfl
        (by cases create <;> simp) (by decide)
    | _ => exact not_confirms_encode _ rfl (by simp) (by decide)
  | pause d next => cases hpayload
  | done result =>
    cases result with
    | error e => cases hpayload
    | ok n =>
      obtain rfl := Option.some.inj hpayload
      exact hanswer n

private theorem Counter.discreet (settings : Counter.Settings) : (counter settings).Discreet := by
  intro view shared job payload hpayload
  cases job with
  | received request => cases (Counter.begin_silent settings view request).symm.trans hpayload
  | adding add state =>
    exact Counter.carryOut_discreet
      (fun _ => not_confirms_encode Payload.Counter.addOk rfl (by simp) (by decide)) hpayload
  | summing state =>
    exact Counter.carryOut_discreet
      (fun n => not_confirms_encode (Payload.Counter.readOk n) rfl (by simp) (by decide)) hpayload
  | ending result => cases hpayload

end Counter

/-- A node of a workload takes on its identity once: in every run, whatever the requests for an
identity, well formed or not, and whatever other events there are among them. -/
theorem identity_adopted_once {kinds : List String} (hw : Serves w kinds) (rpcTimeout : Duration)
    (events : List (Node.Event w)) : (Node.start w rpcTimeout).AdoptsOnce events := by
  cases hw with
  | broadcast =>
    exact Node.adoptsOnce_of_discreet Broadcast.duty_kept.init Broadcast.discreet rpcTimeout events
  | counter settings =>
    exact Node.adoptsOnce_of_discreet (Counter.duty_kept settings).init (Counter.discreet settings)
      rpcTimeout events
  | uniqueIds =>
    exact Node.adoptsOnce_of_discreet UniqueIds.duty_kept.init UniqueIds.discreet rpcTimeout events

/-- A node is offered two identities, and turns to the second offer first. -/
def contested : List (Node.Event uniqueIds) :=
  let first := "\x7b\"src\":\"c\",\"dest\":\"a\",\"body\":\x7b\"type\":\"init\",\"msg_id\":1,"
    ++ "\"node_id\":\"a\",\"node_ids\":[]\x7d\x7d"
  let second := "\x7b\"src\":\"c\",\"dest\":\"b\",\"body\":\x7b\"type\":\"init\","
    ++ "\"node_id\":\"b\",\"node_ids\":[]\x7d\x7d"
  .line first.toUTF8.toList :: .line second.toUTF8.toList :: .step 0 ⟨0, 0⟩ 0
    :: List.replicate 4 (.step 0 ⟨0, 0⟩ 1) ++ List.replicate 3 (.step 0 ⟨0, 0⟩ 0) ++ [.settle]

theorem contested_adopted_once :
    Serves uniqueIds [] ∧ ((Node.start uniqueIds ⟨1000⟩).run contested).verdict = some (.ok ()) ∧
      (((Node.start uniqueIds ⟨1000⟩).decisions contested).map fun d => d.refusal.isSome) =
        [false, true] ∧
      (Node.start uniqueIds ⟨1000⟩).AdoptsOnce contested :=
  have ends : ((Node.start uniqueIds ⟨1000⟩).run contested).verdict = some (.ok ()) ∧
      (((Node.start uniqueIds ⟨1000⟩).decisions contested).map fun d => d.refusal.isSome) =
          [false, true] := by
    decide +kernel
  ⟨.uniqueIds, ends.1, ends.2, identity_adopted_once .uniqueIds ⟨1000⟩ contested⟩

end Workload

end ClusterNode
