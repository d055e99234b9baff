import ClusterNode.Proofs.Counter.Working

/-!
Nodes that work for additions, in view of what is outside of them: the store, and the replies that
are on their way. Each line that arrives and each step of a task keeps a node in order.
-/

set_option autoImplicit false

namespace ClusterNode.Workload.Counter

open ClusterNode.Counter (Account Add)

/-- What is known outside of a node, by the numbers of its tasks: the request and the delta of an
addition, the account of it, and the replies to its calls that are on their way. -/
structure Sight where
  Adds : Nat → Message → Int64 → Prop
  account : Nat → Account
  Replies : Nat → UInt64 → Message → Prop

def addition (settings : Settings) (name : String) (delta : Int64) : Add :=
  ⟨name, delta, settings.policy⟩

section Node

variable {settings : Settings}

def Coming (σ : Sight) (n : Node (counter settings)) (task : Nat) (id : UInt64) (reply : Message) :
    Prop :=
  σ.Replies task id reply ∨ ∃ x ∈ n.tasks, x.stage = .hand task id ∧ x.message = reply

inductive Busy (σ : Sight) (name : String) (n : Node (counter settings)) (h : History)
    (t : Task (counter settings).Job) : Prop
  | brings {task : Nat} {id : UInt64} {request : Message} (stage : t.stage = .hand task id)
      (requested : .requested task id request ∈ h)
  | works {delta : Int64} (adds : σ.Adds t.id t.message delta)
      (serves : Serves settings (addition settings name delta) t)
      (works : Works settings.service (addition settings name delta) (σ.account t.id) h
        (Coming σ n t.id) t)

structure Home (σ : Sight) (name : String) (n : Node (counter settings)) (h : History) : Prop where
  identity : ∃ peers, n.identity = some ⟨name, peers⟩
  working : n.mode = .working
  reading : n.verdict = none
  correlated : n.Correlated h
  unasked : ∀ task id, .asked task id ∉ h
  replies : ∀ task id reply, σ.Replies task id reply → ∃ request, .requested task id request ∈ h
  busy : ∀ t ∈ n.tasks, Busy σ name n h t

/-- What may change outside of a node while one of its tasks moves, or none: nothing that worries
the others. -/
structure Sight.Shifts (σ σ' : Sight) (mover : Option Nat) : Prop where
  adds : ∀ u request delta, σ.Adds u request delta → σ'.Adds u request delta
  ages : ∀ u, mover ≠ some u → (σ.account u).Ages (σ'.account u)
  replies : ∀ u id reply, σ'.Replies u id reply → σ.Replies u id reply

protected theorem Sight.Shifts.refl (σ : Sight) (mover : Option Nat) : σ.Shifts σ mover :=
  ⟨fun _ _ _ h => h, fun _ _ => .refl _, fun _ _ _ h => h⟩

section Works

variable {service : String} {a : Add} {f f' : Account} {h h' : History}
  {replies replies' : UInt64 → Message → Prop} {t : Task Job}

private theorem Works.ages (hw : Works service a f h replies t) (hf : f.Ages f')
    (hh : ∀ o ∈ h, o ∈ h')
    (hreplies : ∀ id reply c, replies' id reply →
      .requested t.id id (KvClient.message c a.node service id) ∈ h →
        replies id reply ∨ f'.Admits c (KvClient.answer (History.outcome reply) c)) :
    Works service a f' h' replies' t := by
  have hunspent : ¬ f.spent → ¬ f'.spent := fun h hspent => h (hf.spent hspent)
  cases hs : t.stage with
  | fresh job =>
    simp only [Works, hs] at hw ⊢
    exact ⟨hw.1, hunspent hw.2⟩
  | work job =>
    cases job with
    | received request =>
      simp only [Works, hs] at hw ⊢
      exact ⟨hw.1, hunspent hw.2⟩
    | adding b s =>
      simp only [Works, hs] at hw ⊢
      exact ⟨hw.1, hw.2.ages hf⟩
    | summing s => simp only [Works, hs] at hw
    | ending result => simpa only [Works, hs] using hw
  | sleep wake job =>
    cases job with
    | adding b s =>
      simp only [Works, hs] at hw ⊢
      exact ⟨hw.1, hw.2.ages hf⟩
    | received request => simp only [Works, hs] at hw
    | summing s => simp only [Works, hs] at hw
    | ending result => simp only [Works, hs] at hw
  | dial dest id body limit next =>
    simp only [Works, hs] at hw ⊢
    obtain ⟨hmailbox, hspent, hdest, hlimited, c, hasks, hbody, hresumes⟩ := hw
    exact ⟨hmailbox, hunspent hspent, hdest, hlimited, c, hasks.mono hf.present, hbody, hresumes⟩
  | flush wait => simp only [Works, hs] at hw
  | wait wait =>
    simp only [Works, hs] at hw ⊢
    obtain ⟨c, hcalling, hawaits, hmailbox, hadmits⟩ := hw
    refine ⟨c, ⟨hh _ hcalling.requested, hcalling.limited, hcalling.resumes⟩, hawaits.ages hf,
      hmailbox,
      fun reply hreply => ?_⟩
    rcases hreply with hfull | hreply
    · exact (hadmits reply (.inl hfull)).ages hf
    · rcases hreplies _ _ c hreply hcalling.requested with hreply | hnew
      · exact (hadmits reply (.inr hreply)).ages hf
      · exact hnew
  | conclude result =>
    cases result with
    | ok _ => simp only [Works, hs]
    | error e =>
      simp only [Works, hs] at hw ⊢
      exact hw.ages hf
  | refuse e =>
    simp only [Works, hs] at hw ⊢
    exact hw.ages hf
  | adopt => simp only [Works, hs] at hw
  | post dest id body next => simp only [Works, hs] at hw
  | confirm => simp only [Works, hs] at hw
  | hand task id => simp only [Works, hs] at hw

private theorem Works.stage_ne_hand (hw : Works service a f h replies t) (task : Nat)
    (id : UInt64) :
    t.stage ≠ .hand task id := by
  intro hs
  simp only [Works, hs] at hw

private theorem Works.receiving (hw : Works service a f h replies t) {c : Task Job}
    (hc : ∀ id, c.stage = .hand t.id id → replies id c.message ∧ id ∈ h.requestedIds)
    (hstand : t.Standing h) : Works service a f h replies (c.receiving t) := by
  rcases c.receiving_cases t with heq | ⟨id, hhand, hcall, heq⟩
  · rw [heq]
    exact hw
  · obtain ⟨hreply, hrequested⟩ := hc id hhand
    rw [heq]
    cases hs : t.stage with
    | dial dest i body limit next =>
      obtain rfl : i = id := by simpa [Task.callId?, hs] using hcall
      simp only [Task.Standing, hs] at hstand
      exact absurd hrequested hstand.2.1
    | flush wait => simp only [Works, hs] at hw
    | wait wait =>
      obtain rfl : wait.id = id := by simpa [Task.callId?, hs] using hcall
      simp only [Works, hs] at hw ⊢
      obtain ⟨call, hcalling, hawaits, -, hadmits⟩ := hw
      refine ⟨call, ⟨hcalling.requested, hcalling.limited, hcalling.resumes⟩, hawaits, by simp,
        fun reply hfull => ?_⟩
      rcases hfull with hfull | hcoming
      · obtain rfl := Mailbox.full.inj hfull
        exact hadmits _ (.inr hreply)
      · exact hadmits reply (.inr hcoming)
    | _ => simp [Task.callId?, hs] at hcall

end Works

section Home

variable {σ σ' : Sight} {name : String} {n : Node (counter settings)} {h h' : History}
  {t : Task (counter settings).Job}

private theorem Home.site (hm : Home σ name n h) : Site n name :=
  ⟨hm.correlated.numbered, hm.identity, hm.working, hm.reading⟩

private theorem Home.requested_of_hand (hm : Home σ name n h) (ht : t ∈ n.tasks) {task : Nat}
    {id : UInt64}
    (hs : t.stage = .hand task id) : ∃ request, .requested task id request ∈ h := by
  cases hm.busy t ht with
  | brings stage requested =>
    obtain ⟨rfl, rfl⟩ := Stage.hand.inj (stage.symm.trans hs)
    exact ⟨_, requested⟩
  | works adds serves works => exact absurd hs (works.stage_ne_hand task id)

private theorem Home.requested_of_coming (hm : Home σ name n h) {task : Nat} {id : UInt64}
    {reply : Message}
    (hcoming : Coming σ n task id reply) : ∃ request, .requested task id request ∈ h := by
  rcases hcoming with hreply | ⟨x, hx, hs, -⟩
  · exact hm.replies task id reply hreply
  · exact hm.requested_of_hand hx hs

private theorem not_asked (now : Nat) (task : Nat) (id : UInt64) :
    .asked task id ∉ n.stepOccurrences now t := by
  have hnew : ∀ n' i, .asked task id ∉ n.newRequests n' t.id i := by
    intro n' i hmem
    obtain ⟨m, -, hm⟩ := List.mem_map.mp hmem
    cases hm
  cases hs : t.stage with
  | work job =>
    have hmove : ∀ {τ : Type} (view : View) (resume : τ → Job) (answer : Int64 → Payload.Counter)
        (move : StoreMove τ), ∀ dest payload onReply next,
          carryOut settings view resume answer move ≠ .ask dest payload onReply next := by
      intro τ view resume answer move dest payload onReply next
      rcases move with _ | _ | (_ | _) <;> simp [carryOut]
    have hstep : ∀ dest payload onReply next,
        Counter.step settings n.view job ≠ .ask dest payload onReply next := by
      intro dest payload onReply next
      cases job with
      | received request =>
        show begin settings n.view request ≠ _
        rw [begin]
        cases (request.payload : Except RpcError Payload.Counter) with
        | error e => simp [Action.fail]
        | ok p => cases p <;> cases n.view.identify <;> simp [Action.notARequest, Action.fail]
      | adding a s => exact hmove _ _ _ _ _ _ _ _
      | summing s => exact hmove _ _ _ _ _ _ _ _
      | ending result => simp [Counter.step]
    simp only [Node.stepOccurrences, hs]
    split
    · split <;> simp
    · rename_i hask
      exact absurd hask (hstep _ _ _ _)
    · simp
  | post dest id body next => simp [Node.stepOccurrences, hs, hnew]
  | dial dest id body limit next =>
    simp only [Node.stepOccurrences, hs]
    split <;> simp [hnew]
  | flush wait | wait wait =>
    simp only [Node.stepOccurrences, hs]
    split <;> simp
  | _ => simp [Node.stepOccurrences, hs]

private theorem Coming.of_stepTask (hn : n.Numbered) (ht : t ∈ n.tasks) {now : Nat} {stamp : Stamp}
    (shifts : σ.Shifts σ' (some t.id))
    (own : ∀ x ∈ (n.stepTask now stamp t).tasks, x.id = t.id → ∀ task id, x.stage ≠ .hand task id)
    {task : Nat} {id : UInt64} {reply : Message}
    (hcoming : Coming σ' (n.stepTask now stamp t) task id reply) : Coming σ n task id reply := by
  rcases hcoming with hreply | ⟨x, hx, hs, hmessage⟩
  · exact .inl (shifts.replies task id reply hreply)
  · have hne : x.id ≠ t.id := fun hid => own x hx hid task id hs
    obtain ⟨y, hy, -, rfl⟩ := (Node.mem_stepTask_iff_of_ne now stamp hn ht hne).mp hx
    exact .inr ⟨y, hy, by simpa using hs, by simpa using hmessage⟩

private theorem Home.others (hm : Home σ name n h) (ht : t ∈ n.tasks) {now : Nat} {stamp : Stamp}
    (shifts : σ.Shifts σ' (some t.id)) (hh : ∀ o ∈ h, o ∈ h')
    (own : ∀ x ∈ (n.stepTask now stamp t).tasks, x.id = t.id → ∀ task id, x.stage ≠ .hand task id)
    {x : Task (counter settings).Job} (hx : x ∈ (n.stepTask now stamp t).tasks)
    (hid : x.id ≠ t.id) :
    Busy σ' name (n.stepTask now stamp t) h' x := by
  obtain ⟨y, hy, hne, rfl⟩ :=
    (Node.mem_stepTask_iff_of_ne now stamp hm.correlated.numbered ht hid).mp hx
  cases hm.busy y hy with
  | brings stage requested => exact .brings (by simpa using stage) (hh _ requested)
  | works adds serves works =>
    have hworks := works.receiving (c := t) (fun id hs => by
      obtain ⟨request, hrequested⟩ := hm.requested_of_hand ht hs
      exact ⟨.inr ⟨t, ht, hs, rfl⟩, History.mem_requestedIds_of_requested hrequested⟩)
      (hm.correlated.standing y hy)
    refine .works (by simpa using shifts.adds _ _ _ adds)
      ⟨by simpa using serves.role, serves.policy, by simpa using serves.payload⟩ ?_
    rw [Task.receiving_id]
    exact hworks.ages (shifts.ages y.id fun hid => hne (Option.some.inj hid).symm) hh
      fun id reply c hreply _ =>
      .inl (hreply.of_stepTask hm.correlated.numbered ht shifts own)

private theorem Home.stepTask (hm : Home σ name n h) (ht : t ∈ n.tasks) {now : Nat} {stamp : Stamp}
    (few : (h ++ n.stepOccurrences now t).takenIds.length < UInt64.size)
    {o : Option (Task (counter settings).Job)} {ms : List Message}
    (hturns : n.Turns t (n.stepTask now stamp t) o ms) (shifts : σ.Shifts σ' (some t.id))
    (own : ∀ x ∈ o, (∀ task id, x.stage ≠ .hand task id) ∧
      Busy σ' name (n.stepTask now stamp t) (h ++ n.stepOccurrences now t) x) :
    Home σ' name (n.stepTask now stamp t) (h ++ n.stepOccurrences now t) := by
  have hcourse := Node.SameCourse.stepTask n now stamp t
  refine ⟨?_, hcourse.mode.trans hm.working, hcourse.verdict.trans hm.reading,
    hm.correlated.stepTask ht now stamp few, ?_, ?_, fun x hx => ?_⟩
  · rw [hturns.identity]
    exact hm.identity
  · intro task id hasked
    rcases List.mem_append.mp hasked with hasked | hasked
    · exact hm.unasked task id hasked
    · exact not_asked now task id hasked
  · intro task id reply hreply
    obtain ⟨request, hrequest⟩ := hm.replies task id reply (shifts.replies task id reply hreply)
    exact ⟨request, List.mem_append_left _ hrequest⟩
  · by_cases hid : x.id = t.id
    · exact (own x (hturns.own x hx hid)).2
    · exact hm.others ht shifts (fun o ho => List.mem_append_left _ ho)
        (fun y hy hyid => (own y (hturns.own y hy hyid)).1) hx hid

end Home

/-- What a task of a node in order writes when it moves: nothing, or a call of its addition, or the
answer to the request for it. -/
inductive Emits (σ : Sight) (name : String) (n : Node (counter settings)) (h : History)
    (task : Nat) :
    List Message → Prop
  | nothing (home : Home σ name n h) : Emits σ name n h task []
  | question {request : Message} {delta : Int64} {c : StoreCall} {id : UInt64}
      (adds : σ.Adds task request delta) (unspent : ¬ (σ.account task).spent)
      (asks : (addition settings name delta).Asks (σ.account task) c)
      (requested : .requested task id (KvClient.message c name settings.service id) ∈ h)
      (home : ∀ σ', σ.Shifts σ' (some task) → (σ'.account task).Awaits c → Home σ' name n h) :
      Emits σ name n h task [KvClient.message c name settings.service id]
  | success {request : Message} {delta : Int64} {id : UInt64} (adds : σ.Adds task request delta)
      (payload : (request.payload : Except RpcError Payload.Counter) = .ok (.add delta))
      (asked : request.msgId? = some id) (landed : (σ.account task).landed)
        (home : Home σ name n h) :
      Emits σ name n h task
        [Payload.Plain.message Payload.Counter.addOk name request.src none (some id)]
  | failure {request : Message} {delta : Int64} {id : UInt64} {e : RpcError}
      (adds : σ.Adds task request delta) (asked : request.msgId? = some id)
      (excused : (σ.account task).Excuses e) (gone : ∀ x ∈ n.tasks, x.id ≠ task)
      (home : Home σ name n h) :
      Emits σ name n h task [Payload.Plain.message e name request.src none (some id)]

section Events

variable {σ σ' : Sight} {name : String} {n : Node (counter settings)} {h : History}

private theorem Home.emits (hm : Home σ name n h) {t : Task (counter settings).Job}
    (ht : t ∈ n.tasks) {delta : Int64} (adds : σ.Adds t.id t.message delta)
    (serves : Serves settings (addition settings name delta) t)
    (works : Works settings.service (addition settings name delta) (σ.account t.id) h
      (Coming σ n t.id) t) (now : Nat) (stamp : Stamp)
    (few : (h ++ n.stepOccurrences now t).takenIds.length < UInt64.size) :
    ∃ ms, (n.stepTask now stamp t).written = n.written ++ ms ∧
      Emits σ name (n.stepTask now stamp t) (h ++ n.stepOccurrences now t) t.id ms := by
  have hh : ∀ o ∈ h, o ∈ h ++ n.stepOccurrences now t := fun o ho => List.mem_append_left _ ho
  have hnew : ∀ o ∈ n.stepOccurrences now t, o ∈ h ++ n.stepOccurrences now t :=
    fun o ho => List.mem_append_right _ ho
  obtain ⟨o, ms, hturns, houtcome⟩ := stepTask_outcome hm.site ht serves works
    (hm.correlated.standing t ht) now stamp hnew
  refine ⟨ms, hturns.written, ?_⟩
  have hgo : ∀ {x}, x ∈ o → Works settings.service (addition settings name delta) (σ.account t.id) h
      (Coming σ n t.id) x →
          Home σ name (n.stepTask now stamp t) (h ++ n.stepOccurrences now t) := by
    intro x hx hworks
    obtain ⟨hid, hrole, hmessage⟩ := hturns.same x hx
    have hown : ∀ y ∈ (n.stepTask now stamp t).tasks, y.id = t.id →
        ∀ task id, y.stage ≠ .hand task id := by
      intro y hy hyid
      obtain rfl : x = y := Option.some.inj (hx.symm.trans (hturns.own y hy hyid))
      exact hworks.stage_ne_hand
    refine hm.stepTask ht few hturns (.refl σ (some t.id)) fun y hy => ?_
    obtain rfl : x = y := Option.some.inj (hx.symm.trans hy)
    refine ⟨hworks.stage_ne_hand, .works (by rw [hid, hmessage]; exact adds)
      ⟨hrole.trans serves.role, serves.policy, by rw [hmessage]; exact serves.payload⟩ ?_⟩
    rw [hid]
    exact hworks.ages (.refl _) hh fun id reply c hreply _ =>
      .inl (hreply.of_stepTask hm.correlated.numbered ht (.refl σ (some t.id)) hown)
  have hleave : o = none → Home σ name (n.stepTask now stamp t) (h ++ n.stepOccurrences now t) :=
    fun hnone => hm.stepTask ht few hturns (.refl σ (some t.id)) (by simp [hnone])
  cases houtcome with
  | rest hworks =>
    cases ho : o with
    | none => exact .nothing (hleave ho)
    | some x => exact .nothing (hgo ho (hworks x ho))
  | @ask x wait c unspent asks fresh stage mailbox calling =>
    obtain ⟨hid, hrole, hmessage⟩ := hturns.same x rfl
    have hrequested : .requested t.id wait.id (KvClient.message c name settings.service wait.id) ∈
        h ++ n.stepOccurrences now t := by
      have hrequested := calling.requested
      rwa [hid] at hrequested
    refine .question adds unspent asks hrequested fun σ' shifts awaits => ?_
    have hhand : ∀ task id, x.stage ≠ .hand task id := by simp [stage]
    refine hm.stepTask ht few hturns shifts fun y hy => ?_
    obtain rfl : x = y := Option.some.inj hy
    refine ⟨hhand, .works (by rw [hid, hmessage]; exact shifts.adds _ _ _ adds)
      ⟨hrole.trans serves.role, serves.policy, by rw [hmessage]; exact serves.payload⟩ ?_⟩
    rw [hid]
    simp only [Works, stage]
    refine ⟨c, calling, awaits, by simp [mailbox], fun reply hreply => ?_⟩
    rcases hreply with hfull | hcoming
    · simp [mailbox] at hfull
    · have hback := hcoming.of_stepTask hm.correlated.numbered ht shifts fun y hy hyid => by
        obtain rfl : x = y := Option.some.inj (hturns.own y hy hyid)
        exact hhand
      obtain ⟨request, hrequest⟩ := hm.requested_of_coming hback
      exact absurd (History.mem_requestedIds_of_requested hrequest) fresh
  | @confirm x id asked landed hworks =>
    exact .success adds serves.payload asked landed (hgo rfl hworks)
  | report asked excused =>
    refine .failure adds asked excused (fun x hx hid => ?_) (hleave rfl)
    cases hturns.own x hx hid

theorem Home.step (hm : Home σ name n h) (now : Nat) (stamp : Stamp) (task : Nat)
    (few : (h ++ n.occurrences (.step now stamp task)).takenIds.length < UInt64.size) :
    ∃ ms, (n.step now stamp task).written = n.written ++ ms ∧
      (ms = [] ∨ ∃ x ∈ n.tasks, x.id = task) ∧
      Emits σ name (n.step now stamp task) (h ++ n.occurrences (.step now stamp task)) task ms := by
  simp only [Node.step, Node.occurrences] at few ⊢
  cases htask : n.task? task with
  | none => exact ⟨[], by simp, .inl rfl, by simpa using Emits.nothing hm⟩
  | some t =>
    obtain ⟨ht, rfl⟩ := Node.mem_of_task? htask
    simp only [htask, Option.map_some, Option.getD_some] at few ⊢
    cases hm.busy t ht with
    | works adds serves works =>
      obtain ⟨ms, hwritten, hemits⟩ := hm.emits ht adds serves works now stamp few
      exact ⟨ms, hwritten, .inr ⟨t, ht, rfl⟩, hemits⟩
    | @brings task id request stage requested =>
      have hstep : n.stepTask now stamp t = (n.post task id (.full t.message)).remove t.id := by
        simp only [Node.stepTask, stage]
      have hturns : n.Turns t (n.stepTask now stamp t) none [] := by
        rw [hstep]
        exact .remove (by simp [Node.post, Node.update]) rfl
      exact ⟨[], hturns.written, .inl rfl,
        .nothing (hm.stepTask ht few hturns (.refl σ (some t.id)) (by simp))⟩

theorem Home.ages (hm : Home σ name n h)
    (adds : ∀ task request delta, σ.Adds task request delta → σ'.Adds task request delta)
    (ages : ∀ task, (σ.account task).Ages (σ'.account task))
    (replies : ∀ task id reply, σ'.Replies task id reply → σ.Replies task id reply ∨
      (∃ request, .requested task id request ∈ h) ∧
        ∀ c, .requested task id (KvClient.message c name settings.service id) ∈ h →
          (σ'.account task).Admits c (KvClient.answer (History.outcome reply) c)) :
    Home σ' name n h := by
  refine ⟨hm.identity, hm.working, hm.reading, hm.correlated, hm.unasked, ?_, fun t ht => ?_⟩
  · intro task id reply hreply
    rcases replies task id reply hreply with hold | ⟨hnew, -⟩
    · exact hm.replies task id reply hold
    · exact hnew
  · cases hm.busy t ht with
    | brings stage requested => exact .brings stage requested
    | works hadds serves works =>
      refine .works (adds _ _ _ hadds) serves (works.ages (ages t.id) (fun o ho => ho) ?_)
      intro id reply c hreply hrequested
      rcases hreply with hreply | hhand
      · rcases replies _ _ _ hreply with hold | ⟨-, hnew⟩
        · exact .inl (.inl hold)
        · exact .inr (hnew c hrequested)
      · exact .inl (.inr hhand)

private theorem Home.join (hm : Home σ name n h) {n' : Node (counter settings)} {h' : History}
    (joining : List (Task (counter settings).Job)) (correlated : n'.Correlated h')
    (hh : ∀ o ∈ h, o ∈ h') (unasked : ∀ task id, .asked task id ∉ h') (shifts : σ.Shifts σ' none)
    (couriers : ∀ x ∈ joining, ∀ task id, x.stage = .hand task id → σ.Replies task id x.message)
    (busy : ∀ x ∈ joining, Busy σ' name n' h' x) (tasks : n'.tasks = n.tasks ++ joining)
    (identity : n'.identity = n.identity := by rfl) (mode : n'.mode = n.mode := by rfl)
    (verdict : n'.verdict = n.verdict := by rfl) : Home σ' name n' h' := by
  refine ⟨identity ▸ hm.identity, mode.trans hm.working, verdict.trans hm.reading, correlated,
    unasked,
    ?_, fun t ht => ?_⟩
  · intro task id reply hreply
    obtain ⟨request, hrequest⟩ := hm.replies task id reply (shifts.replies task id reply hreply)
    exact ⟨request, hh _ hrequest⟩
  rw [tasks] at ht
  rcases List.mem_append.mp ht with ht | ht
  · cases hm.busy t ht with
    | brings stage requested => exact .brings stage (hh _ requested)
    | works adds serves works =>
      refine .works (shifts.adds _ _ _ adds) serves (works.ages (shifts.ages t.id (by simp)) hh ?_)
      intro id reply c hreply _
      refine .inl ?_
      rcases hreply with hreply | ⟨x, hx, hs, hmessage⟩
      · exact .inl (shifts.replies _ _ _ hreply)
      · rw [tasks] at hx
        rcases List.mem_append.mp hx with hx | hx
        · exact .inr ⟨x, hx, hs, hmessage⟩
        · exact .inl (hmessage ▸ couriers x hx _ _ hs)
  · exact busy t ht

theorem kind_of_add {m : Message} {delta : Int64} {fields : Dictionary Json}
    (h : (m.payload : Except RpcError Payload.Counter) = .ok (.add delta))
    (hbody : m.body = .object fields) : m.kind = "add" :=
  Message.kind_of_payload Payload.Counter.tag_of_decode h hbody

theorem receiveBytes_add {line : List UInt8} {m : Message} {text : String} {delta : Int64}
    (hn : n.verdict = none) (hread : Reading.ofBytes line = .message m text)
    (hreply : m.inReplyTo? = none)
    (hpayload : (m.payload : Except RpcError Payload.Counter) = .ok (.add delta)) :
    n.receiveBytes line = ({ n with metrics := n.metrics.countReceived } :
      Node (counter settings)).spawn .handle m (.fresh (some (.received m))) := by
  obtain ⟨fields, hbody⟩ := Reading.body_of_ofBytes hread
  have hkind : m.kind = "add" := kind_of_add hpayload hbody
  have hhandler : (counter settings).handlers.get? m.kind = some Job.received := by
    rw [hkind]
    rfl
  exact Node.receiveBytes_handler hn hread hreply (by rw [hkind]; decide) hhandler

theorem Home.client (hm : Home σ name n h) {line : List UInt8} {m : Message} {text : String}
    {delta : Int64} (hread : Reading.ofBytes line = .message m text) (hreply : m.inReplyTo? = none)
    (hpayload : (m.payload : Except RpcError Payload.Counter) = .ok (.add delta))
    (shifts : σ.Shifts σ' none) (own : σ'.Adds n.nextTask m delta)
    (unspent : ¬ (σ'.account n.nextTask).spent) :
    Home σ' name (n.receiveBytes line) (h ++ n.occurrences (.line line)) := by
  have hmore : n.occurrences (.line line) = [] := by
    simp [Node.occurrences, Node.lineOccurrences, hm.reading, hread, hreply]
  have hcorrelated := hm.correlated.line line
  rw [show n.lineOccurrences line = [] from hmore, List.append_nil] at hcorrelated
  rw [hmore, List.append_nil]
  rw [receiveBytes_add hm.reading hread hreply hpayload] at hcorrelated ⊢
  refine hm.join [⟨n.nextTask, .handle, m, .fresh (some (.received m)), .empty⟩] hcorrelated
    (fun o ho => ho) hm.unasked shifts ?_ ?_ rfl
  · intro x hx task id hs
    rw [List.mem_singleton.mp hx] at hs
    cases hs
  · intro x hx
    rw [List.mem_singleton.mp hx]
    exact .works own ⟨rfl, rfl, hpayload⟩ ⟨rfl, unspent⟩

theorem Home.deliver (hm : Home σ name n h) {line : List UInt8} {m : Message} {text : String}
    {task : Nat} {id : UInt64} (hread : Reading.ofBytes line = .message m text)
    (hreply : m.inReplyTo? = some id) (hcoming : σ.Replies task id m) (shifts : σ.Shifts σ' none) :
    Home σ' name (n.receiveBytes line) (h ++ n.occurrences (.line line)) := by
  have hmore : n.occurrences (.line line) = [.replied id m] := by
    simp [Node.occurrences, Node.lineOccurrences, hm.reading, hread, hreply]
  have hcorrelated : (n.receiveBytes line).Correlated (h ++ [.replied id m]) := by
    rw [← hmore]
    exact hm.correlated.line line
  have hunasked : ∀ task id', .asked task id' ∉ h ++ [.replied id m] := by
    simpa using hm.unasked
  have hh : ∀ o ∈ h, o ∈ h ++ [.replied id m] := fun o ho => List.mem_append_left _ ho
  obtain ⟨request, hrequest⟩ := hm.replies task id m hcoming
  have htaken := hm.correlated.sound.taken_of_requested hrequest
  have hreceive : n.receiveBytes line =
      ({ n with metrics := n.metrics.countReceived } :
        Node (counter settings)).receiveReply id m := by
    simp [Node.receiveBytes_eq_take, hm.reading, hread, Node.take, hreply]
  rw [hmore]
  rw [hreceive] at hcorrelated ⊢
  simp only [Node.receiveReply] at hcorrelated ⊢
  cases htake : n.pending.take id with
  | mk callback pending =>
    have hget : n.pending.get? id = callback := by rw [← Pending.take_fst, htake]
    rw [htake] at hcorrelated
    cases callback with
    | none => exact hm.join [] hcorrelated hh hunasked shifts (by simp) (by simp) (by simp)
    | some callback =>
      have hentry := Pending.mem_of_get? hget
      cases callback with
      | start onReply =>
        obtain ⟨asker, hasked⟩ := hm.correlated.pending.start id onReply hentry
        exact absurd hasked (hm.unasked asker id)
      | deliver waiting =>
        obtain rfl : waiting = task := hm.correlated.sound.task_unique
          (.inl (hm.correlated.pending.deliver id waiting hentry)) htaken
        refine hm.join [⟨n.nextTask, .callback, m, .hand waiting id, .empty⟩] hcorrelated hh
          hunasked
          shifts ?_ ?_ rfl
        · intro x hx task id' hs
          rw [List.mem_singleton.mp hx] at hs ⊢
          obtain ⟨rfl, rfl⟩ := Stage.hand.inj hs
          exact hcoming
        · intro x hx
          rw [List.mem_singleton.mp hx]
          exact .brings rfl (hh _ hrequest)

end Events

end Node

end ClusterNode.Workload.Counter
