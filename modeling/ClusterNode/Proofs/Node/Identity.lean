import ClusterNode.Proofs.Node.Output
import ClusterNode.Proofs.Node.Turn
import ClusterNode.Proofs.Node.Verdict
import ClusterNode.Proofs.Payload

/-!
The identity of a node: it is taken on once, from a request that offers it, and kept. Every line
bears the name that the node has when it writes it. If the jobs are discreet, only the node itself
says that it has taken on an identity, and only after it has.
-/

set_option autoImplicit false

namespace ClusterNode

variable {w : Workload}

def Message.offer? (m : Message) : Option Identity :=
  match (m.payload : Except RpcError Payload.Init) with
  | .ok (.init id peers) => some ⟨id, peers⟩
  | _ => none

def Json.Confirms (body : Json) : Prop := kindOf body = "init_ok"

theorem not_confirms_encode {α : Type} [Payload α] (a : α) {tag : String}
    {rest : List (String × Json)}
    (hfields : Payload.fields a = ("type", .string tag) :: rest)
    (hrest : ∀ field ∈ rest, field.1 ≠ "type")
    (htag : tag ≠ "init_ok") : ¬ (Payload.encode a).Confirms := by
  rw [Json.Confirms, kindOf_encode a hfields hrest]
  exact htag

theorem kindOf_encodeBody {payload body : Json} {msgId inReplyTo : Option UInt64}
    (h : encodeBody payload msgId inReplyTo = .ok body) : kindOf body = kindOf payload := by
  cases payload with
  | object fields =>
    obtain rfl := Except.ok.inj h
    cases msgId <;> cases inReplyTo <;> simp only [kindOf_insert (by decide : "msg_id" ≠ "type"),
      kindOf_insert (by decide : "in_reply_to" ≠ "type")]
  | _ => cases h

def Action.payload? {Job : Type} : Action Job → Option Json
  | .send _ payload _ | .reply payload _ | .call _ payload _ _ | .ask _ payload _ _ => some payload
  | _ => none

def Workload.Discreet (w : Workload) : Prop :=
  ∀ view shared job payload, (w.step view shared job).1.payload? = some payload → ¬ payload.Confirms

/-- A task that is not about to say that an identity was taken on, unless it is about to confirm
it. -/
def Task.Discreet {Job : Type} (t : Task Job) : Prop :=
  match t.stage with
  | .post _ _ body _ | .dial _ _ body _ _ => ¬ body.Confirms
  | _ => True

namespace Node

/-- What an operation says: it adds lines in the name of the node, and they say that an identity was
taken on only if they may. The identity stays as it is. -/
structure Speaks (may : Prop) (n n' : Node w) : Prop where
  identity : n'.identity = n.identity
  written : ∃ lines, n'.written = n.written ++ lines ∧
    ∀ line ∈ lines, line.src = n.name ∧ (line.body.Confirms → may)

section Speaks

variable {may : Prop} {n n' : Node w} {t : Task w.Job}

private theorem Speaks.nothing (hidentity : n'.identity = n.identity := by rfl)
    (hwritten : n'.written = n.written := by rfl) : Speaks may n n' :=
  ⟨hidentity, [], by rw [hwritten, List.append_nil], fun _ h => absurd h List.not_mem_nil⟩

private theorem write_speaks (n : Node w) (dest : String) {body : Json} (h : body.Confirms → may) :
    Speaks may n (n.write dest body).2 := by
  rw [write_eq]
  refine ⟨rfl, _, rfl, fun line hline => ?_⟩
  split at hline
  · rw [List.mem_singleton.mp hline]
    exact ⟨rfl, h⟩
  · exact absurd hline List.not_mem_nil

private theorem send_speaks (n : Node w) (dest : String) {payload : Json}
    (h : payload.Confirms → may) :
    Speaks may n (n.send dest payload).2 := by
  simp only [send]
  split
  · rename_i body hbody
    exact write_speaks n dest fun hconfirms => h ((kindOf_encodeBody hbody).symm.trans hconfirms)
  · exact .nothing

private theorem reply_speaks (n : Node w) (request : Message) {payload : Json}
    (h : payload.Confirms → may) :
    Speaks may n (n.reply request payload).2 := by
  simp only [reply]
  split
  · exact .nothing
  · split
    · rename_i body hbody
      exact write_speaks n request.src fun hconfirms =>
        h ((kindOf_encodeBody hbody).symm.trans hconfirms)
    · exact .nothing

private theorem writeRequest_speaks (n : Node w) (dest : String) (id : UInt64) {body : Json}
    (h : ¬ body.Confirms) :
    Speaks may n (n.writeRequest dest id body).2 := by
  have hwrite : Speaks may n (n.write dest body).2 := write_speaks n dest fun hconfirms =>
    absurd hconfirms h
  simp only [writeRequest, endRequest]
  split <;> rename_i heq <;> rw [heq] at hwrite <;> exact ⟨hwrite.identity, hwrite.written⟩

private theorem writeCall_speaks (n : Node w) (now : Nat) (dest : String) (id : UInt64)
    {body : Json}
    (limit : Option (Nat × Duration)) (h : ¬ body.Confirms) :
    Speaks may n (n.writeCall now dest id body limit).2 := by
  have hwrite : Speaks may n (n.writeRequest dest id body).2 := writeRequest_speaks n dest id h
  have hplaced := n.writeCall_placed now dest id body limit
  generalize n.writeCall now dest id body limit = placed at hplaced ⊢
  cases hplaced with
  | brokenOff => exact .nothing
  | unflushed =>
    refine ⟨rfl, _, rfl, fun line hline => ?_⟩
    rw [List.mem_singleton.mp hline]
    exact ⟨rfl, fun hconfirms => absurd hconfirms h⟩
  | written heq => rwa [heq] at hwrite
  | failed e heq => rwa [heq] at hwrite

private theorem register_speaks (n : Node w) (payload : Json) (callback : Callback w.Job) :
    Speaks may n (n.register payload callback).2 := by
  simp only [register]
  split <;> exact .nothing

private theorem act_speaks (n : Node w) (now : Nat) (stamp : Stamp) (t : Task w.Job)
    {action : Action w.Job}
    (h : ∀ payload, action.payload? = some payload → ¬ payload.Confirms) :
    Speaks may n (n.act now stamp t action) := by
  have hsilent : ∀ {payload}, action.payload? = some payload → payload.Confirms → may :=
    fun hpayload hconfirms => absurd hconfirms (h _ hpayload)
  cases action with
  | finish result =>
    simp only [act]
    split <;> exact .nothing
  | send dest payload next =>
    have hspeaks := send_speaks n dest (hsilent rfl)
    exact ⟨hspeaks.identity, hspeaks.written⟩
  | reply payload next =>
    have hspeaks := reply_speaks n t.message (hsilent rfl)
    exact ⟨hspeaks.identity, hspeaks.written⟩
  | call dest payload patience next =>
    have hspeaks : Speaks may n _ := register_speaks n payload (.deliver t.id)
    simp only [act]
    split <;> rename_i heq <;> rw [heq] at hspeaks <;> exact ⟨hspeaks.identity, hspeaks.written⟩
  | ask dest payload onReply next =>
    have hspeaks : Speaks may n _ := register_speaks n payload (.start onReply)
    simp only [act]
    split <;> rename_i heq <;> rw [heq] at hspeaks <;> exact ⟨hspeaks.identity, hspeaks.written⟩
  | _ => exact .nothing

private theorem conclude_speaks (n : Node w) (t : Task w.Job) (result : Except NodeError Unit) :
    Speaks may n (n.conclude t result) := by
  simp only [conclude]
  split
  · exact .nothing
  · split <;> exact .nothing

theorem stepTask_speaks (hw : w.Discreet) (ht : t.Discreet) (hstage : t.stage ≠ .adopt) (n : Node w)
    (now : Nat) (stamp : Stamp) : Speaks (t.stage = .confirm) n (n.stepTask now stamp t) := by
  cases hs : t.stage with
  | fresh job =>
    simp only [stepTask, hs]
    exact .nothing
  | adopt => exact absurd hs hstage
  | work job =>
    have hspeaks : Speaks (Stage.work job = .confirm)
        { n with shared := (w.step n.view n.shared job).2 } _ :=
      act_speaks { n with shared := (w.step n.view n.shared job).2 } now stamp t
        fun payload => hw n.view n.shared job payload
    simp only [stepTask, hs]
    exact ⟨hspeaks.identity, hspeaks.written⟩
  | post dest id body next =>
    simp only [Task.Discreet, hs] at ht
    have hspeaks : Speaks (Stage.post dest id body next = .confirm) n _ :=
      writeRequest_speaks n dest id ht
    simp only [stepTask, hs]
    exact ⟨hspeaks.identity, hspeaks.written⟩
  | dial dest id body limit next =>
    simp only [Task.Discreet, hs] at ht
    have hspeaks : Speaks (Stage.dial dest id body limit next = .confirm) n _ :=
      writeCall_speaks n now dest id limit ht
    simp only [stepTask, hs]
    split <;> rename_i heq <;> rw [heq] at hspeaks <;> exact ⟨hspeaks.identity, hspeaks.written⟩
  | flush wait =>
    have hflushed := n.flushCall?_flushed now wait
    simp only [stepTask, hs]
    generalize n.flushCall? now wait = flushed at hflushed ⊢
    cases hflushed <;> exact .nothing
  | wait wait =>
    simp only [stepTask, hs]
    split <;> exact .nothing
  | sleep wake next =>
    simp only [stepTask, hs]
    split <;> exact .nothing
  | confirm =>
    have hspeaks : Speaks True n _ :=
      reply_speaks n t.message fun _ : (Payload.encode Payload.Init.initOk).Confirms => trivial
    simp only [stepTask, hs]
    exact ⟨hspeaks.identity, hspeaks.written⟩
  | conclude result =>
    simp only [stepTask, hs]
    exact conclude_speaks n t result
  | refuse e =>
    have herror : ¬ (Payload.encode e).Confirms := not_confirms_encode e rfl (by simp) (by decide)
    have hspeaks : Speaks ((Stage.refuse e : Stage w.Job) = .confirm) n _ :=
      reply_speaks n t.message fun hconfirms => absurd hconfirms herror
    simp only [stepTask, hs]
    exact ⟨hspeaks.identity, hspeaks.written⟩
  | hand task id =>
    simp only [stepTask, hs]
    exact .nothing

end Speaks

section Adopt

variable {n : Node w} {t : Task w.Job}

/-- What a task does that is to take on an identity for the node. -/
inductive Adopts (n : Node w) (t : Task w.Job) : Node w → Prop
  | malformed (e : RpcError) (offer : t.message.offer? = none) (code : e.code = .malformedRequest) :
      Adopts n t (n.goTo t.id (.conclude (.error (.rpc e))))
  | late (i : Identity) (identity : n.identity = some i) (offer : t.message.offer?.isSome) :
      Adopts n t (n.goTo t.id (.conclude (.error (.alreadyInitialized i.id))))
  | granted (i : Identity) (identity : n.identity = none) (offer : t.message.offer? = some i) :
      Adopts n t (({ n with identity := some i } : Node w).goTo t.id .confirm)

theorem Message.code_of_payload {α : Type} [Payload α] {m : Message} {e : RpcError}
    (h : (m.payload : Except RpcError α) = .error e) : e.code = .malformedRequest := by
  simp only [Message.payload] at h
  split at h
  · cases h
  · rw [← Except.error.inj h]

theorem adopt_cases (bare : w.handlers.get? "init" = none) (n : Node w) (t : Task w.Job) :
    Adopts n t (n.adopt t) := by
  have hoffer : t.message.offer? = match (t.message.payload : Except RpcError Payload.Init) with
      | .ok (.init id peers) => some ⟨id, peers⟩
      | _ => none := rfl
  simp only [adopt]
  cases hpayload : (t.message.payload : Except RpcError Payload.Init) with
  | error e =>
    rw [hpayload] at hoffer
    exact .malformed e hoffer (Message.code_of_payload hpayload)
  | ok p =>
    rw [hpayload] at hoffer
    cases p with
    | initOk => exact .malformed _ hoffer rfl
    | init id peers =>
      simp only [init, bare]
      cases hidentity : n.identity with
      | some i => exact .late i hidentity (by rw [hoffer]; rfl)
      | none => exact .granted ⟨id, peers⟩ hidentity hoffer

end Adopt

section Candid

variable {n n' : Node w} {t x : Task w.Job}

/-- A node whose tasks say that an identity was taken on only after it was. -/
structure Candid (n : Node w) : Prop where
  cast : n.Cast
  discreet : ∀ t ∈ n.tasks, t.Discreet
  idle : ∀ t ∈ n.tasks, t.role = .initialise → ¬ t.stage.Busy
  confirming : ∀ t ∈ n.tasks, t.stage = .confirm → n.identity.isSome
  said : ∀ line ∈ n.written, line.body.Confirms → n.identity.isSome

/-- How a node goes on: it keeps an identity that it has, and signs with the name that it has. -/
structure GoesOn (n n' : Node w) : Prop where
  kept : ∀ i, n.identity = some i → n'.identity = some i
  written : ∃ lines, n'.written = n.written ++ lines ∧
    ∀ line ∈ lines, line.src = n.name ∧ (line.body.Confirms → n.identity.isSome)

private theorem GoesOn.still (hidentity : n'.identity = n.identity := by rfl)
    (hwritten : n'.written = n.written := by rfl) : GoesOn n n' :=
  ⟨fun _ h => hidentity.trans h,
    [], by rw [hwritten, List.append_nil], fun _ h => absurd h List.not_mem_nil⟩

private theorem GoesOn.isSome (h : GoesOn n n') (hidentity : n.identity.isSome) :
    n'.identity.isSome := by
  obtain ⟨i, hi⟩ := Option.isSome_iff_exists.mp hidentity
  rw [h.kept i hi]
  rfl

private theorem stepTask_goesOn (bare : w.handlers.get? "init" = none) (hw : w.Discreet)
    (hc : n.Candid)
    (ht : t ∈ n.tasks) (now : Nat) (stamp : Stamp) : GoesOn n (n.stepTask now stamp t) := by
  by_cases hs : t.stage = .adopt
  · have hadopts := adopt_cases bare n t
    simp only [stepTask, hs]
    generalize n.adopt t = n' at hadopts
    cases hadopts with
    | malformed e offer code => exact .still
    | late i identity offer => exact .still
    | granted i identity offer =>
      refine ⟨fun j hj => ?_, [], (List.append_nil _).symm, fun _ h => absurd h List.not_mem_nil⟩
      rw [identity] at hj
      cases hj
  · obtain ⟨hidentity, lines, hwritten, hlines⟩ :=
      stepTask_speaks hw (hc.discreet t ht) hs n now stamp
    refine ⟨fun i hi => hidentity.trans hi, lines, hwritten, fun line hline =>
      ⟨(hlines line hline).1, ?_⟩⟩
    exact fun hconfirms => hc.confirming t ht ((hlines line hline).2 hconfirms)

private theorem discreet_own (hw : w.Discreet) (hn : n.Numbered) (ht : t ∈ n.tasks)
    (hdiscreet : t.Discreet)
    {now : Nat} {stamp : Stamp} (hx : (n.stepTask now stamp t).task? t.id = some x) :
    x.Discreet := by
  obtain ⟨-, -, hleads⟩ := hn.own_turn ht hx
  unfold Task.Discreet at hdiscreet ⊢
  generalize x.stage = stage at hleads
  cases hleads with
  | stays => exact hdiscreet
  | calls job dest payload body patience begun next id hs action stamped =>
    exact fun hconfirms => hw n.view n.shared job payload (by rw [action]; rfl)
      ((kindOf_encodeBody stamped).symm.trans hconfirms)
  | asks job dest payload body onReply next id hs action stamped =>
    exact fun hconfirms => hw n.view n.shared job payload (by rw [action]; rfl)
      ((kindOf_encodeBody stamped).symm.trans hconfirms)
  | _ => trivial

private theorem idle_own (bare : w.handlers.get? "init" = none) (hn : n.Numbered) (ht : t ∈ n.tasks)
    (hin : t.InRole) (hidle : t.role = .initialise → ¬ t.stage.Busy) {now : Nat} {stamp : Stamp}
    (hx : (n.stepTask now stamp t).task? t.id = some x) : x.role = .initialise →
      ¬ x.stage.Busy := by
  obtain ⟨hrole, -, hleads⟩ := hn.own_turn ht hx
  rw [hrole]
  intro hinitialise
  have hnotBusy := hidle hinitialise
  generalize x.stage = stage at hleads
  cases hleads with
  | stays => exact hnotBusy
  | starts job hs =>
    simp only [Task.InRole, hs, hinitialise] at hin
    cases hin
  | passedOn handler hs serves =>
    rw [bare] at serves
    cases serves
  | works next hs => exact absurd hs hnotBusy
  | sleeps wake next hs => exact absurd hs hnotBusy
  | calls job dest payload body patience begun next id hs action stamped =>
    exact absurd (hs ▸ trivial) hnotBusy
  | asks job dest payload body onReply next id hs action stamped =>
    exact absurd (hs ▸ trivial) hnotBusy
  | flushes wait hs stalling => exact absurd hs hnotBusy
  | waits wait hs => exact absurd hs hnotBusy
  | _ => exact fun h => h

private theorem confirming_own (bare : w.handlers.get? "init" = none) (hn : n.Numbered)
    (ht : t ∈ n.tasks) (hidle : t.role = .initialise → ¬ t.stage.Busy)
    (hconfirming : t.stage = .confirm → n.identity.isSome)
    {now : Nat} {stamp : Stamp}
    (hkept : n.identity.isSome → (n.stepTask now stamp t).identity.isSome)
    (hx : (n.stepTask now stamp t).task? t.id = some x) (hconfirm : x.stage = .confirm) :
    (n.stepTask now stamp t).identity.isSome := by
  obtain ⟨hrole, -, hleads⟩ := hn.own_turn ht hx
  rw [hconfirm] at hleads
  generalize hstage : some Stage.confirm = stage at hleads
  cases hleads with
  | stays => exact hkept (hconfirming (Option.some.inj hstage).symm)
  | granted hs handler =>
    have hadopts := adopt_cases bare n t
    simp only [stepTask, hs] at hx ⊢
    have hled : ∀ {e : NodeError}, (n.goTo t.id (.conclude (.error e))).task? t.id ≠ some x := by
      intro e he
      rw [hn.task?_goTo ht] at he
      rw [← Option.some.inj he] at hconfirm
      cases hconfirm
    generalize n.adopt t = n' at hadopts hx
    cases hadopts with
    | malformed e offer code => exact absurd hx hled
    | late i identity offer => exact absurd hx hled
    | granted i identity offer => rfl
  | finishes hs role => exact absurd hs (hidle role)
  | _ => cases hstage

theorem Candid.stepTask (bare : w.handlers.get? "init" = none) (hw : w.Discreet) (hc : n.Candid)
    (ht : t ∈ n.tasks) (now : Nat) (stamp : Stamp) : (n.stepTask now stamp t).Candid := by
  have hgoesOn := stepTask_goesOn bare hw hc ht now stamp
  have hn := hc.cast.numbered
  refine ⟨hc.cast.stepTask ht now stamp, fun x hx => ?_, fun x hx => ?_, fun x hx =>
    ?_, fun line hline => ?_⟩
  · rcases hn.mem_turn ht hx with ⟨y, hy, rfl⟩ | hx
    · simpa only [Task.Discreet, Task.receiving_stage] using hc.discreet y hy
    · exact discreet_own hw hn ht (hc.discreet t ht) hx
  · rcases hn.mem_turn ht hx with ⟨y, hy, rfl⟩ | hx
    · rw [Task.receiving_role, Task.receiving_stage]
      exact hc.idle y hy
    · exact idle_own bare hn ht (hc.cast.inRole t ht) (hc.idle t ht) hx
  · rcases hn.mem_turn ht hx with ⟨y, hy, rfl⟩ | hx
    · rw [Task.receiving_stage]
      exact fun hs => hgoesOn.isSome (hc.confirming y hy hs)
    · exact confirming_own bare hn ht (hc.idle t ht) (hc.confirming t ht) hgoesOn.isSome hx
  · obtain ⟨lines, hwritten, hlines⟩ := hgoesOn.written
    rw [hwritten] at hline
    intro hconfirms
    rcases List.mem_append.mp hline with hline | hline
    · exact hgoesOn.isSome (hc.said line hline hconfirms)
    · exact hgoesOn.isSome ((hlines line hline).2 hconfirms)

namespace Candid

theorem start (w : Workload) (rpcTimeout : Duration) : (Node.start w rpcTimeout).Candid :=
  ⟨.start w rpcTimeout, fun _ ht => absurd ht List.not_mem_nil, fun _ ht =>
    absurd ht List.not_mem_nil,
    fun _ ht => absurd ht List.not_mem_nil, fun _ hline => absurd hline List.not_mem_nil⟩

theorem congr (hc : n.Candid) (htasks : n'.tasks = n.tasks := by rfl)
    (hnext : n'.nextTask = n.nextTask := by rfl) (hidentity : n'.identity = n.identity := by rfl)
    (hwritten : n'.written = n.written := by rfl) : n'.Candid :=
  ⟨hc.cast.congr htasks hnext, htasks ▸ hc.discreet, htasks ▸ hc.idle,
    hidentity ▸ htasks ▸ hc.confirming,
    hidentity ▸ hwritten ▸ hc.said⟩

private theorem spawn (hc : n.Candid) {role : Role} {m : Message} {stage : Stage w.Job}
    (hin : Task.InRole ⟨n.nextTask, role, m, stage, .empty⟩)
    (hdiscreet : Task.Discreet ⟨n.nextTask, role, m, stage, .empty⟩)
    (hidle : role = .initialise → ¬ stage.Busy) (hconfirm : stage ≠ .confirm) :
    (n.spawn role m stage).Candid := by
  refine ⟨hc.cast.spawn hin, fun x hx => ?_, fun x hx => ?_, fun x hx => ?_, hc.said⟩
  · rcases mem_spawn.mp hx with hx | rfl
    · exact hc.discreet x hx
    · exact hdiscreet
  · rcases mem_spawn.mp hx with hx | rfl
    · exact hc.idle x hx
    · exact hidle
  · rcases mem_spawn.mp hx with hx | rfl
    · exact hc.confirming x hx
    · exact fun hs => absurd hs hconfirm

theorem stop (hc : n.Candid) (e : NodeError) : (n.stop e).Candid ∧ GoesOn n (n.stop e) := by
  have hcast := hc.cast.stop e
  have hmem : ∀ x ∈ (n.stop e).tasks, ∃ y ∈ n.tasks, x.role = y.role ∧ x.stage = y.stage := by
    intro x hx
    obtain ⟨y, hy, -, rfl | rfl⟩ := mem_stop hx
    · exact ⟨x, hy, rfl, rfl⟩
    · exact ⟨y, hy, rfl, rfl⟩
  obtain ⟨g, -, hstop⟩ := stop_eq n e
  have hidentity : (n.stop e).identity = n.identity := by rw [hstop]
  have hwritten : (n.stop e).written = n.written := by rw [hstop]
  refine ⟨⟨hcast, fun x hx => ?_, fun x hx => ?_, fun x hx => ?_, ?_⟩, .still hidentity hwritten⟩
  · obtain ⟨y, hy, -, hs⟩ := hmem x hx
    simpa only [Task.Discreet, hs] using hc.discreet y hy
  · obtain ⟨y, hy, hrole, hs⟩ := hmem x hx
    rw [hrole, hs]
    exact hc.idle y hy
  · obtain ⟨y, hy, -, hs⟩ := hmem x hx
    rw [hs, hidentity]
    exact hc.confirming y hy
  · rw [hwritten, hidentity]
    exact hc.said

theorem routed (hc : n.Candid) {m : Message} (h : Routed n m n') : n'.Candid ∧ GoesOn n n' := by
  cases h with
  | taken id callback reply waits =>
    refine ⟨Candid.spawn (hc.congr) ?_ ?_ (fun h => by cases h) ?_, .still⟩
    · cases callback
      · rfl
      · trivial
    · cases callback <;> trivial
    · cases callback <;> simp
  | dropped id reply waits => exact ⟨hc.congr, .still⟩
  | initialise request kind =>
    exact ⟨Candid.spawn (hc.congr) rfl trivial (fun _ h => h) (by simp), .still⟩
  | handled handler request kind serves =>
    exact ⟨Candid.spawn (hc.congr) rfl trivial (fun h => by cases h) (by simp), .still⟩

private theorem line (hc : n.Candid) (bytes : List UInt8) :
    (n.receiveBytes bytes).Candid ∧ GoesOn n (n.receiveBytes bytes) := by
  rw [receiveBytes_eq_take]
  split
  · exact ⟨hc, .still⟩
  · cases hread : Reading.ofBytes bytes with
    | blank => exact ⟨hc, .still⟩
    | refused e => exact hc.stop e
    | message m text =>
      cases hfault : (Reading.message m text).fault? w.handlers.contains with
      | none => exact hc.routed (take_routed hfault)
      | some e =>
        rw [take_of_fault hfault]
        obtain ⟨hcandid, hgoesOn⟩ :=
          Candid.stop (n := { n with metrics := n.metrics.countReceived }) hc.congr e
        exact ⟨hcandid, hgoesOn.kept, hgoesOn.written⟩

theorem apply (bare : w.handlers.get? "init" = none) (hw : w.Discreet) (hc : n.Candid)
    (e : Event w) :
    (n.apply e).Candid ∧ GoesOn n (n.apply e) := by
  cases e with
  | line bytes => exact hc.line bytes
  | step now stamp id =>
    simp only [Node.apply, Node.step]
    cases ht : n.task? id with
    | none => exact ⟨hc, .still⟩
    | some t =>
      have hmem := (mem_of_task? ht).1
      exact ⟨hc.stepTask bare hw hmem now stamp, stepTask_goesOn bare hw hc hmem now stamp⟩
  | settle =>
    simp only [Node.apply, settle]
    split
    · exact ⟨hc.congr, .still⟩
    · exact ⟨hc, .still⟩
  | cancel => exact ⟨hc.congr, .still⟩
  | setMode mode => exact ⟨hc.congr, .still⟩
  | client job => exact ⟨hc.spawn trivial trivial (fun h => by cases h) (by simp), .still⟩

theorem run (bare : w.handlers.get? "init" = none) (hw : w.Discreet) (hc : n.Candid)
    (events : List (Event w)) : (n.run events).Candid :=
  run_induction hc fun e _ _ hn => (hn.apply bare hw e).1

theorem run_goesOn (bare : w.handlers.get? "init" = none) (hw : w.Discreet) (hc : n.Candid)
    {i : Identity}
    (hidentity : n.identity = some i) (events : List (Event w)) :
    (n.run events).identity = some i ∧ ∃ lines, (n.run events).written = n.written ++ lines ∧
      ∀ line ∈ lines, line.src = i.id := by
  induction events generalizing n with
  | nil => exact ⟨hidentity, [], (List.append_nil _).symm, fun _ h => absurd h List.not_mem_nil⟩
  | cons e events ih =>
    obtain ⟨hcandid, hgoesOn⟩ := hc.apply bare hw e
    obtain ⟨hkept, later, hlater, hsigned⟩ := ih hcandid (hgoesOn.kept i hidentity)
    obtain ⟨lines, hwritten, hlines⟩ := hgoesOn.written
    have hname : n.name = i.id := by rw [name, hidentity]; rfl
    refine ⟨hkept, lines ++ later, ?_, fun line hline => ?_⟩
    · rw [run_cons, hlater, hwritten, List.append_assoc]
    · rcases List.mem_append.mp hline with hline | hline
      · rw [(hlines line hline).1, hname]
      · exact hsigned line hline

end Candid

end Candid

end Node

end ClusterNode
