import ClusterNode.Proofs.Counter.Working
import ClusterNode.Proofs.Node.Failing
import ClusterNode.Proofs.Store.Remote
import ClusterNode.Proofs.Workload.Answers

/-!
Errors of the service that keeps a counter, on their way to the client. A handler does nothing but
ask the service until it hears an error that it cannot go on from. Then it asks no more, counts the
error, and reports it with the same code and the same text. A key that the service does not have
counts as zero, and a swap that was lost is tried again while attempts are left.
-/

set_option autoImplicit false

namespace ClusterNode

namespace KvClient

section Answer

variable {e : RpcError} {c : StoreCall}

private theorem answer_rpc (missing : e.code ≠ .keyDoesNotExist)
    (lost : e.code ≠ .preconditionFailed) :
    answer (.error (.rpc e)) c = .error (.rpc e) := by
  have hclassify : ∀ key expected, classify key expected (.rpc e) = .rpc e := by
    intro key expected
    simp only [classify]
  cases c <;> simp only [answer, integerOf, valueOf, writeResult, casResult, hclassify] <;> rfl

private theorem answer_read_missing (missing : e.code = .keyDoesNotExist) (key : String) :
    answer (.error (.rpc e)) (.read key) = .ok none := by
  simp only [answer, integerOf, valueOf, classify, missing]
  rfl

private theorem answer_cas_lost (lost : e.code = .preconditionFailed) (key : String)
    (expected new : Int64)
    (create : Bool) : answer (.error (.rpc e)) (.cas key expected new create) =
      .error (.preconditionFailed key expected none) := by
  simp only [answer, casResult, classify, lost]
  rfl

private theorem answer_io (text : String) (c : StoreCall) :
    answer (.error (.io text)) c = .error (.rpc (NodeError.io text).toRpcError) := by
  cases c <;> rfl

end Answer

def swapsOf : StoreCall → Nat
  | .cas _ _ _ _ => 1
  | _ => 0

end KvClient

section Exchanged

variable {w : Workload} {n : Node w} {t : Task w.Job} {wait : Wait w.Job}

private theorem Node.apply_exchanged (hn : n.Numbered) (ht : t ∈ n.tasks)
    (hs : t.stage = .wait wait) (other : Message)
    (now : Nat) (stamp : Stamp) :
    (n.update t.id fun t => { t with mailbox := .full other }).apply (.step now stamp t.id) =
      n.update t.id fun t =>
        { t with stage := .work (wait.next (History.outcome other)), mailbox := .empty } := by
  let full (t : Task w.Job) : Task w.Job := { t with mailbox := .full other }
  have hn' : (n.update t.id full).Numbered := hn.update t.id fun _ => rfl
  have ht' : full t ∈ (n.update t.id full).tasks := (hn.mem_update ht).mpr (.inr rfl)
  calc
    (n.update t.id full).apply (.step now stamp t.id) = (n.update t.id full).update t.id fun t =>
        { t with stage := .work (wait.next (History.outcome other)), mailbox := .empty } :=
      Node.apply_answered hn' ht' hs rfl now stamp
    _ = n.update t.id fun t =>
        { t with stage := .work (wait.next (History.outcome other)), mailbox := .empty } :=
      Node.update_update n t.id fun _ => rfl

end Exchanged

/-- A step that does no more than ask a service for operations on its store. -/
structure Act.Inquires (service : String) (act : Act) : Prop where
  lines : ∀ m ∈ act.lines, ∃ c src id, m = KvClient.message c src service id
  errorReplies : act.errorReplies = 0
  crashes : act.crashes = 0

def Inquiring (service : String) (acts : List Act) : Prop := ∀ act ∈ acts, act.Inquires service

def swapsAsked (acts : List Act) : Nat := (acts.flatMap Act.lines).countP fun m => m.kind = "cas"

section Inquires

variable {service src : String} {c : StoreCall} {id : UInt64} {acts : List Act} {act : Act}

private theorem Inquiring.concat (hacts : Inquiring service acts) (hact : act.Inquires service) :
    Inquiring service (acts ++ [act]) := by
  intro x hx
  rcases List.mem_append.mp hx with hx | hx
  · exact hacts x hx
  · exact List.mem_singleton.mp hx ▸ hact

private theorem Act.Inquires.nothing : Act.nothing.Inquires service :=
  ⟨fun _ hm => absurd hm List.not_mem_nil, rfl, rfl⟩

private theorem Act.Inquires.message :
    Act.Inquires service ⟨[KvClient.message c src service id], 0, 0⟩ :=
  ⟨fun _ hm => ⟨c, src, id, List.mem_singleton.mp hm⟩, rfl, rfl⟩

@[simp] theorem swapsAsked_nothing (acts : List Act) :
    swapsAsked (acts ++ [.nothing]) = swapsAsked acts := by
  simp [swapsAsked, Act.nothing]

@[simp] theorem swapsAsked_message (acts : List Act) :
    swapsAsked (acts ++ [⟨[KvClient.message c src service id], 0, 0⟩]) =
      swapsAsked acts + KvClient.swapsOf c := by
  have hkind : (KvClient.message c src service id).kind = (KvClient.request c).tag :=
    KvClient.kind_message
  simp only [swapsAsked, List.flatMap_append, List.flatMap_singleton, List.countP_append,
    List.countP_singleton, hkind]
  cases c <;> rfl

end Inquires

namespace Workload.Counter

open ClusterNode.Counter (Add)

def Tried (swaps : Nat) : Add.State → Prop
  | .reading attempt | .swapping attempt _ _ => attempt = swaps + 1
  | .pausing attempt => attempt = swaps
  | .done _ => True

section Routines

variable {a : Add} {s s' : Add.State} {c : StoreCall} {swaps : Nat}

private theorem Tried.call {k : StoreAnswer → Add.State} (h : Tried swaps s)
    (hmove : a.move s = .call c k)
    (answer : StoreAnswer) : Tried (swaps + KvClient.swapsOf c) (k answer) := by
  cases s with
  | reading attempt =>
    obtain ⟨rfl, rfl⟩ := StoreMove.call.inj hmove
    obtain rfl := h
    unfold Add.afterRead
    split
    · trivial
    · dsimp only
      split
      · rfl
      · trivial
  | swapping attempt current sum =>
    obtain ⟨rfl, rfl⟩ := StoreMove.call.inj hmove
    obtain rfl := h
    rcases answer with e | value
    · cases e with
      | preconditionFailed key expected actual =>
        rcases a.afterSwap_preconditionFailed (swaps + 1) sum key expected actual with
          ⟨-, hnext⟩ | ⟨-, ⟨-, hnext⟩ | ⟨-, hnext⟩⟩ <;> rw [hnext]
        · trivial
        · rfl
        · rfl
      | _ => trivial
    · trivial
  | pausing attempt => cases hmove
  | done result => cases hmove

private theorem Tried.pause {d : Duration} (h : Tried swaps s) (hmove : a.move s = .pause d s') :
    Tried swaps s' := by
  cases s with
  | pausing attempt =>
    obtain ⟨-, rfl⟩ := StoreMove.pause.inj hmove
    obtain rfl := h
    rfl
  | reading attempt => cases hmove
  | swapping attempt current sum => cases hmove
  | done result => cases hmove

private theorem done_of_rpc {k : StoreAnswer → Add.State} (hmove : a.move s = .call c k)
    (e : RpcError) :
    k (.error (.rpc e)) = .done (.error (.rpc e)) := by
  cases s with
  | reading attempt =>
    obtain ⟨-, rfl⟩ := StoreMove.call.inj hmove
    rfl
  | swapping attempt current sum =>
    obtain ⟨-, rfl⟩ := StoreMove.call.inj hmove
    rfl
  | pausing attempt => cases hmove
  | done result => cases hmove

private theorem reads_of_move {s : ClusterNode.Counter.Total.State}
    {k : StoreAnswer → ClusterNode.Counter.Total.State}
    (hmove : ClusterNode.Counter.Total.move s = .call c k) :
    (∃ key, c = .read key) ∧ k (.ok none) = k (.ok (some 0)) ∧
      ∀ e, k (.error e) = .done (.error e) := by
  cases s with
  | summing total nodes =>
    cases nodes with
    | nil => cases hmove
    | cons node rest =>
      obtain ⟨rfl, rfl⟩ := StoreMove.call.inj hmove
      exact ⟨⟨_, rfl⟩, rfl, fun _ => rfl⟩
  | done result => cases hmove

end Routines

/-- What a job does with the answer to a call that it makes after some swaps. -/
inductive Continues (settings : Settings) (swaps : Nat) (c : StoreCall) :
    (Except NodeError Message → Job) → Prop
  | adding {a : Add} {s : Add.State} {k : StoreAnswer → Add.State}
    (policy : a.policy = settings.policy)
      (move : a.move s = .call c k) (tried : Tried swaps s) :
      Continues settings swaps c fun r => .adding a (k (KvClient.answer r c))
  | summing {s : ClusterNode.Counter.Total.State}
    {k : StoreAnswer → ClusterNode.Counter.Total.State}
      (move : ClusterNode.Counter.Total.move s = .call c k) :
      Continues settings swaps c fun r => .summing (k (KvClient.answer r c))

/-- A job in view of what has been done for it: it has only asked the service so far, or its answer
is known. -/
def Open (settings : Settings) (acts : List Act) : Job → Prop
  | .received _ => Inquiring settings.service acts ∧ swapsAsked acts = 0
  | .adding a s => Inquiring settings.service acts ∧ a.policy = settings.policy ∧
    Tried (swapsAsked acts) s
  | .summing _ => Inquiring settings.service acts
  | .ending _ => True

/-- A call is awaited: it has been asked for, and nothing was done but to ask. -/
structure Awaits (settings : Settings) (acts : List Act) (wait : Wait Job) (c : StoreCall) :
    Prop where
  inquiring : Inquiring settings.service acts
  requested : ∃ act ∈ acts, ∃ src, KvClient.message c src settings.service wait.id ∈ act.lines
  continues : ∃ swaps, swapsAsked acts = swaps + KvClient.swapsOf c ∧
    Continues settings swaps c wait.next

def Pursues (settings : Settings) (acts : List Act) : Stage Job → Prop
  | .fresh (some job) | .work job | .sleep _ job => Open settings acts job
  | .dial dest id body _ next => Inquiring settings.service acts ∧ dest = settings.service ∧
    ∃ c, (∀ src, ⟨src, dest, body⟩ = KvClient.message c src dest id) ∧
      Continues settings (swapsAsked acts) c next
  | .flush wait | .wait wait => ∃ c, Awaits settings acts wait c
  | .conclude _ | .refuse _ => True
  | .fresh none | .adopt | .post _ _ _ _ | .confirm | .hand _ _ => False

section Pursues

variable {settings : Settings} {acts : List Act} {job : Job}

private theorem Open.nothing (h : Open settings acts job) :
    Open settings (acts ++ [.nothing]) job := by
  cases job with
  | received request => exact ⟨h.1.concat .nothing, by rw [swapsAsked_nothing, h.2]⟩
  | adding a s => exact ⟨h.1.concat .nothing, h.2.1, by rw [swapsAsked_nothing]; exact h.2.2⟩
  | summing s => exact Inquiring.concat h .nothing
  | ending result => trivial

private theorem Continues.open {swaps : Nat} {c : StoreCall} {next : Except NodeError Message → Job}
    (h : Continues settings swaps c next) (inquiring : Inquiring settings.service acts)
    (asked : swapsAsked acts = swaps + KvClient.swapsOf c) (r : Except NodeError Message) :
    Open settings acts (next r) := by
  cases h with
  | adding policy move tried => exact ⟨inquiring, policy, asked ▸ tried.call move _⟩
  | summing move => exact inquiring

private theorem Continues.fails {swaps : Nat} {c : StoreCall}
    {next : Except NodeError Message → Job}
    (h : Continues settings swaps c next) {r : Except NodeError Message} {e : RpcError}
    (failed : KvClient.answer r c = .error (.rpc e)) (inquiring : Inquiring settings.service acts) :
    Open settings acts (next r) ∧
      ∀ view, Counter.step settings view (next r) = .finish (.error (.store (.rpc e))) := by
  cases h with
  | adding policy move tried =>
    simp only [failed, done_of_rpc move]
    exact ⟨⟨inquiring, policy, trivial⟩, fun _ => rfl⟩
  | summing move =>
    simp only [failed, (reads_of_move move).2.2]
    exact ⟨inquiring, fun _ => rfl⟩

private theorem Continues.absent {swaps : Nat} {key : String}
    {next : Except NodeError Message → Job}
    (h : Continues settings swaps (.read key) next) {r r' : Except NodeError Message}
    (missing : KvClient.answer r (.read key) = .ok none)
    (zero : KvClient.answer r' (.read key) = .ok (some 0)) : next r = next r' := by
  cases h with
  | @adding a s k policy move tried =>
    cases s with
    | reading attempt =>
      obtain ⟨-, rfl⟩ := StoreMove.call.inj move
      simp only [missing, zero]
      rfl
    | swapping attempt current sum => cases (StoreMove.call.inj move).1
    | pausing attempt => cases move
    | done result => cases move
  | summing move => simp only [missing, zero, (reads_of_move move).2.1]

private theorem Continues.lost {swaps : Nat} {key : String} {expected new : Int64} {create : Bool}
    {next : Except NodeError Message → Job}
    (h : Continues settings swaps (.cas key expected new create) next)
    {r : Except NodeError Message} {e : StoreError}
    (failed : KvClient.answer r (.cas key expected new create) = .error e) :
    ∃ a : Add, a.key = key ∧ a.policy = settings.policy ∧
      next r = .adding a (a.afterSwap (swaps + 1) new (.error e)) := by
  cases h with
  | @adding a s k policy move tried =>
    cases s with
    | swapping attempt current sum =>
      obtain ⟨hcall, rfl⟩ := StoreMove.call.inj move
      obtain ⟨rfl, rfl, rfl, rfl⟩ := StoreCall.cas.inj hcall
      obtain rfl := tried
      exact ⟨a, rfl, policy, by simp only [failed]⟩
    | reading attempt => cases (StoreMove.call.inj move).1
    | pausing attempt => cases move
    | done result => cases move
  | summing move =>
    obtain ⟨⟨key, hread⟩, -⟩ := reads_of_move move
    cases hread

private theorem Awaits.nothing {wait : Wait Job} {c : StoreCall} (h : Awaits settings acts wait c) :
    Awaits settings (acts ++ [.nothing]) wait c where
  inquiring := h.inquiring.concat .nothing
  requested := by
    obtain ⟨act, hact, hrequested⟩ := h.requested
    exact ⟨act, List.mem_append_left _ hact, hrequested⟩
  continues := by
    rw [swapsAsked_nothing]
    exact h.continues

end Pursues

section Step

variable {settings : Settings} {n n₁ : Node (counter settings)} {t : Task (counter settings).Job}
  {acts : List Act}

def Leaves (settings : Settings) (acts : List Act) (n : Node (counter settings)) (id : Nat)
    (n' : Node (counter settings)) : Prop :=
  ∀ x, n'.task? id = some x → Pursues settings (acts ++ [n.actTo n']) x.stage

private theorem Leaves.update (hn : n.Numbered) (ht : t ∈ n.tasks)
    {f : Task (counter settings).Job → Task (counter settings).Job} (hf : (f t).id = t.id)
    {act : Act} (acted : n.actTo n₁ = act) (h : Pursues settings (acts ++ [act]) (f t).stage)
    (htasks : n₁.tasks = n.tasks := by rfl) : Leaves settings acts n t.id (n₁.update t.id f) := by
  intro x hx
  rw [hn.task?_update ht hf htasks] at hx
  obtain rfl := Option.some.inj hx
  have hsame : n.actTo (n₁.update t.id f) = n.actTo n₁ := rfl
  rw [hsame, acted]
  exact h

private theorem Leaves.goTo (hn : n.Numbered) (ht : t ∈ n.tasks)
    {stage : Stage (counter settings).Job} {act : Act}
    (acted : n.actTo n₁ = act) (h : Pursues settings (acts ++ [act]) stage)
    (htasks : n₁.tasks = n.tasks := by rfl) : Leaves settings acts n t.id (n₁.goTo t.id stage) :=
  .update hn ht rfl acted h htasks

private theorem Leaves.remove : Leaves settings acts n t.id (n₁.remove t.id) := by
  intro x hx
  rw [Node.task?_remove] at hx
  cases hx

private theorem Leaves.stays (hn : n.Numbered) (ht : t ∈ n.tasks)
    (h : Pursues settings (acts ++ [.nothing]) t.stage) : Leaves settings acts n t.id n := by
  intro x hx
  rw [hn.task? ht] at hx
  obtain rfl := Option.some.inj hx
  rw [Node.actTo_eq_nothing]
  exact h

private theorem finish_leaves (hn : n.Numbered) (ht : t ∈ n.tasks) (role : t.role = .handle)
    (result : Except NodeError Unit) (now : Nat) (stamp : Stamp) :
    Leaves settings acts n t.id (n.act now stamp t (.finish result)) := by
  simp only [Node.act, role]
  exact .goTo hn ht rfl trivial

private theorem begin_leaves (hn : n.Numbered) (ht : t ∈ n.tasks) (role : t.role = .handle)
    (inquiring : Inquiring settings.service acts) (first : swapsAsked acts = 0) (request : Message)
    (now : Nat)
    (stamp : Stamp) : Leaves settings acts n t.id
      (n.act now stamp t (begin settings n.view request)) := by
  cases hp : (request.payload : Except RpcError Payload.Counter) with
  | error e =>
    rw [begin, hp]
    exact finish_leaves hn ht role _ now stamp
  | ok p =>
    rw [begin, hp]
    cases p with
    | add delta =>
      cases n.view.identify with
      | error e =>
        exact finish_leaves hn ht role _ now stamp
      | ok identity =>
        exact .goTo hn ht Node.actTo_eq_nothing
          ⟨inquiring.concat .nothing, rfl, by rw [swapsAsked_nothing, first]; rfl⟩
    | read =>
      cases n.view.identify with
      | error e =>
        exact finish_leaves hn ht role _ now stamp
      | ok identity =>
        exact .goTo hn ht Node.actTo_eq_nothing (inquiring.concat .nothing)
    | _ => exact finish_leaves hn ht role _ now stamp

private theorem carryOut_leaves (hn : n.Numbered) (ht : t ∈ n.tasks) (role : t.role = .handle)
    {σ : Type} {resume : σ → Job} {answer : Int64 → Payload.Counter} {move : StoreMove σ}
    (inquiring : Inquiring settings.service acts)
    (calls : ∀ c k, move = .call c k →
      Continues settings (swapsAsked acts) c fun r => resume (k (KvClient.answer r c)))
    (pauses : ∀ d s, move = .pause d s → Open settings acts (resume s)) (now : Nat)
    (stamp : Stamp) :
    Leaves settings acts n t.id
      (n.act now stamp t (carryOut settings n.view resume answer move)) := by
  cases move with
  | call c k =>
    have hcontinues := calls c k rfl
    let m : Node (counter settings) := { n with pending := (n.pending.register (.deliver t.id)).2 }
    have hacted : n.actTo m = .nothing := Node.actTo_eq_nothing
    refine Leaves.update hn ht rfl hacted ⟨inquiring.concat .nothing, rfl, c, fun src => rfl, ?_⟩
    rw [swapsAsked_nothing]
    exact hcontinues
  | pause d s => exact .goTo hn ht Node.actTo_eq_nothing (pauses d s rfl).nothing
  | done result =>
    cases result with
    | error e => exact finish_leaves hn ht role _ now stamp
    | ok sum =>
      have htasks := Node.reply_tasks n t.message (Payload.encode (answer sum))
      simp only [carryOut, Node.act]
      exact .goTo hn ht rfl trivial htasks

private theorem work_leaves (hn : n.Numbered) (ht : t ∈ n.tasks) (role : t.role = .handle)
    {job : Job}
    (h : Open settings acts job) (now : Nat) (stamp : Stamp) :
    Leaves settings acts n t.id (n.act now stamp t (Counter.step settings n.view job)) := by
  cases job with
  | received request => exact begin_leaves hn ht role h.1 h.2 request now stamp
  | adding a s =>
    obtain ⟨inquiring, policy, tried⟩ := h
    exact carryOut_leaves hn ht role inquiring (fun c k hmove => .adding policy hmove tried)
      (fun d s hmove => ⟨inquiring, policy, tried.pause hmove⟩) now stamp
  | summing s =>
    exact carryOut_leaves hn ht role h (fun c k hmove => .summing hmove) (fun _ _ _ => h) now stamp
  | ending result => exact finish_leaves hn ht role result now stamp

private theorem Continues.unwritten {swaps : Nat} {c : StoreCall}
    {next : Except NodeError Message → Job}
    {e : NodeError} (h : Continues settings swaps c next)
    (inquiring : Inquiring settings.service acts)
    (failed : e = .io "output closed" ∨ ∃ dest after, e = .timeout dest after) :
    Open settings acts (next (.error e)) := by
  rcases failed with rfl | ⟨dest, after, rfl⟩
  · exact (h.fails (KvClient.answer_io _ c) inquiring).1
  · exact (h.fails (KvClient.answer_timeout _ _ c) inquiring).1

private theorem dial_leaves (hn : n.Numbered) (ht : t ∈ n.tasks) {dest : String} {id : UInt64}
    {body : Json} {limit : Option (Nat × Duration)} {next : Except NodeError Message → Job}
    (hs : t.stage = .dial dest id body limit next) (h : Pursues settings acts t.stage) (now : Nat)
    (stamp : Stamp) : Leaves settings acts n t.id (n.stepTask now stamp t) := by
  rw [hs] at h
  obtain ⟨inquiring, rfl, c, hbody, hcontinues⟩ := h
  obtain ⟨lines, hact, hwritten⟩ := n.writeCall_act now settings.service id body limit
  have htasks := n.writeCall_tasks now settings.service id body limit
  simp only [Node.stepTask, hs]
  generalize n.writeCall now settings.service id body limit = written at hact hwritten htasks
  obtain ⟨result, m⟩ := written
  rw [hbody] at hwritten
  rcases hwritten with ⟨⟨flushed, rfl⟩, rfl⟩ | ⟨hfailed, hlines⟩
  · have hawaits : Awaits settings
      (acts ++ [⟨[KvClient.message c n.name settings.service id], 0, 0⟩])
        ⟨settings.service, id, limit, next⟩ c :=
      ⟨inquiring.concat .message,
        ⟨_, List.mem_append_right _ List.mem_cons_self, n.name, List.mem_cons_self⟩,
        _, swapsAsked_message acts, hcontinues⟩
    cases flushed <;> exact .goTo hn ht hact ⟨c, hawaits⟩ htasks
  · have hinquiring : Inquiring settings.service (acts ++ [⟨lines, 0, 0⟩]) := by
      rcases hlines with rfl | rfl
      · exact inquiring.concat .nothing
      · exact inquiring.concat .message
    obtain ⟨e, rfl, hfailed⟩ := hfailed
    exact .goTo hn ht hact (hcontinues.unwritten hinquiring hfailed) htasks

private theorem stepTask_leaves (hn : n.Numbered) (ht : t ∈ n.tasks) (role : t.role = .handle)
    (h : Pursues settings acts t.stage) (now : Nat) (stamp : Stamp) :
    Leaves settings acts n t.id (n.stepTask now stamp t) := by
  cases hs : t.stage with
  | fresh job =>
    rw [hs] at h
    simp only [Node.stepTask, hs]
    cases job with
    | some job => exact .goTo hn ht Node.actTo_eq_nothing (Open.nothing h)
    | none => exact h.elim
  | work job =>
    rw [hs] at h
    rw [stepTask_work job hs]
    exact work_leaves hn ht role h now stamp
  | dial dest id body limit next => exact dial_leaves hn ht hs h now stamp
  | flush wait =>
    rw [hs] at h
    obtain ⟨c, hawaits⟩ := h
    simp only [Node.stepTask, hs]
    split
    · rename_i heq
      obtain ⟨hact, htasks, -⟩ := Node.flushCall?_act heq
      exact .goTo hn ht hact ⟨c, hawaits.nothing⟩ htasks
    · rename_i heq
      obtain ⟨hact, htasks, hresult⟩ := Node.flushCall?_act heq
      obtain ⟨swaps, -, hcontinues⟩ := hawaits.nothing.continues
      exact .goTo hn ht hact
        (hcontinues.unwritten hawaits.nothing.inquiring (hresult _ rfl)) htasks
    · refine .stays hn ht ?_
      rw [hs]
      exact ⟨c, hawaits.nothing⟩
  | wait wait =>
    rw [hs] at h
    obtain ⟨c, hawaits⟩ := h
    simp only [Node.stepTask, hs]
    split
    · rename_i result hresult
      obtain ⟨swaps, hasked, hcontinues⟩ := hawaits.nothing.continues
      exact .update hn ht rfl Node.actTo_eq_nothing
        (hcontinues.open hawaits.nothing.inquiring hasked result)
    · refine .stays hn ht ?_
      rw [hs]
      exact ⟨c, hawaits.nothing⟩
  | sleep wake job =>
    rw [hs] at h
    simp only [Node.stepTask, hs]
    split
    · exact .goTo hn ht Node.actTo_eq_nothing (Open.nothing h)
    · refine .stays hn ht ?_
      rw [hs]
      exact Open.nothing h
  | conclude result =>
    simp only [Node.stepTask, hs, Node.conclude]
    cases result with
    | ok _ => exact .remove
    | error e =>
      simp only
      split <;> exact .goTo hn ht rfl trivial
  | refuse e =>
    simp only [Node.stepTask, hs]
    exact .remove
  | adopt => exact (hs ▸ h : Pursues settings acts .adopt).elim
  | post dest id body next => exact (hs ▸ h : Pursues settings acts (.post dest id body next)).elim
  | confirm => exact (hs ▸ h : Pursues settings acts .confirm).elim
  | hand task id => exact (hs ▸ h : Pursues settings acts (.hand task id)).elim

private theorem pursues_run (settings : Settings) (rpcTimeout : Duration)
    (events : List (Node.Event (counter settings))) :
    ∀ t ∈ ((Node.start (counter settings) rpcTimeout).run events).tasks, t.role = .handle →
      Pursues settings ((Node.start (counter settings) rpcTimeout).acts t.id events) t.stage := by
  refine Node.handler_induction (fun m handler hserves => ?_)
    (fun n t x acts now stamp hn ht role h hx => ?_) events
  · obtain rfl := handler_of_kinds hserves
    exact ⟨fun _ hact => absurd hact List.not_mem_nil, rfl⟩
  · exact stepTask_leaves hn ht role h now stamp x hx

end Step

/-- What comes of an error that a handler has for the answer to a call. -/
structure Relays (settings : Settings) (n : Node (counter settings))
    (t : Task (counter settings).Job)
    (swaps : Nat) (c : StoreCall) (now : Nat) (stamp : Stamp)
      (after : List (Node.Event (counter settings)))
    (id : UInt64) (code : Int64) (text : String) : Prop where
  /-- An error that is neither a missing key nor a lost swap is what the handler fails with. -/
  hard : code ≠ 20 → code ≠ 22 → n.Fails t (.step now stamp t.id :: after) id code text
  /-- A missing key is taken as if the value zero had come. -/
  absent : code = 20 → ∀ key, c = .read key → ∀ m : Message, m.rpcError? = none →
    KvClient.answer (.ok m) c = .ok (some 0) →
      n.apply (.step now stamp t.id) =
        (n.update t.id fun t => { t with mailbox := .full m }).apply (.step now stamp t.id)
  /-- A lost swap is one too many, or else there is another attempt, at once or after a pause. -/
  lost : code = 22 → ∀ key expected new create, c = .cas key expected new create →
    (∃ max ∈ settings.policy.maxAttempts, max ≤ swaps) ∧
        n.Fails t (.step now stamp t.id :: after) id 11
          (StoreError.retriesExhausted key swaps).message ∨
      (∀ max ∈ settings.policy.maxAttempts, swaps < max) ∧
        ∃ a : Add, a.key = key ∧ a.policy = settings.policy ∧
          n.apply (.step now stamp t.id) = n.update t.id fun t =>
            { t with
              stage := .work (.adding a
                (if settings.policy.delay swaps =
                  .zero then .reading (swaps + 1) else .pausing swaps))
              mailbox := .empty }

section Relays

variable {settings : Settings} {n : Node (counter settings)} {t : Task (counter settings).Job}
  {acts : List Act} {wait : Wait Job} {c : StoreCall} {reply : Message} {id : UInt64} {code : Int64}
  {text : String}

private theorem Awaits.relays (hawaits : Awaits settings acts wait c) (hn : n.Numbered)
    (ht : t ∈ n.tasks)
    (role : t.role = .handle) (asked : t.message.msgId? = some id) (hs : t.stage = .wait wait)
    (mail : t.mailbox = .full reply) (complains : reply.Complains code text) (now : Nat)
    (stamp : Stamp)
    (after : List (Node.Event (counter settings))) :
    Relays settings n t (swapsAsked acts) c now stamp after id code text := by
  obtain ⟨swaps, hasked, hcontinues⟩ := hawaits.continues
  have hheard := complains.rpcError?
  have houtcome : History.outcome reply =
    .error (.rpc ⟨.ofInt64 code, text⟩) := by rw [History.outcome, hheard]
  have htakes := Node.apply_answered hn ht hs mail now stamp
  rw [houtcome] at htakes
  refine ⟨fun hmissing hlost => ?hard, ?absent, ?lost⟩
  case hard =>
    have hkind : ∀ kind : ErrorCode, code ≠ kind.toInt64 → ErrorCode.ofInt64 code ≠ kind := by
      rintro kind hne rfl
      exact hne (ErrorCode.toInt64_ofInt64 code).symm
    have hanswer : KvClient.answer (.error (.rpc ⟨.ofInt64 code, text⟩)) c =
        .error (.rpc ⟨.ofInt64 code, text⟩) :=
      KvClient.answer_rpc (hkind .keyDoesNotExist hmissing) (hkind .preconditionFailed hlost)
    have hends := (hcontinues.fails hanswer hawaits.inquiring).2
    have hfails := Node.fails_of_answer hn ht role asked hs mail hheard
      (fun view _ => hends view) rfl now stamp
      after
    rwa [StoreError.toRpcError, ErrorCode.toInt64_ofInt64] at hfails
  case absent =>
    rintro rfl key rfl m hgood hzero
    have hkind : ErrorCode.ofInt64 20 = .keyDoesNotExist := by decide
    have hanswer : KvClient.answer (.error (.rpc ⟨.ofInt64 20, text⟩)) (.read key) = .ok none :=
      KvClient.answer_read_missing hkind key
    have hother : History.outcome m = .ok m := by rw [History.outcome, hgood]
    have hexchanged := Node.apply_exchanged hn ht hs m now stamp
    rw [htakes, hcontinues.absent hanswer hzero, hexchanged, hother]
  case lost =>
    rintro rfl key expected new create rfl
    have hkind : ErrorCode.ofInt64 22 = .preconditionFailed := by decide
    have hanswer : KvClient.answer (.error (.rpc ⟨.ofInt64 22, text⟩))
      (.cas key expected new create) =
        .error (.preconditionFailed key expected none) :=
          KvClient.answer_cas_lost hkind key expected new create
    obtain ⟨a, rfl, hpolicy, hnext⟩ := hcontinues.lost hanswer
    have hattempt : swapsAsked acts = swaps + 1 := hasked
    rw [← hattempt] at hnext
    rcases a.afterSwap_preconditionFailed (swapsAsked acts) new a.key expected none with
      ⟨hspent, hdone⟩ | ⟨hleft, hretries⟩
    · refine .inl ⟨hpolicy ▸ hspent, ?_⟩
      rw [hdone] at hnext
      exact Node.fails_of_answer hn ht role asked hs mail hheard
        (fun view shared => by rw [hnext]; rfl) rfl now stamp after
    · refine .inr ⟨hpolicy ▸ hleft, a, rfl, hpolicy, ?_⟩
      rw [htakes, hnext, ← hpolicy]
      rcases hretries with ⟨hzero, hretry⟩ | ⟨hwaits, hretry⟩
      · rw [hretry, if_pos hzero]
      · rw [hretry, if_neg hwaits]

/-- An error that the service reports for a call of a handler reaches the client with the same code
and the same text, whatever the state of the node, and whatever happens afterwards. Until then the
handler has done nothing but ask the service; it asks no more, and reports this one error. But a
missing key counts as the value zero, and a lost swap leads to another attempt, or, when the
attempts are exhausted, to an error that says so. -/
theorem errors_relayed (settings : Settings) (rpcTimeout : Duration)
    (before after : List (Node.Event (counter settings))) (t : Task (counter settings).Job)
    (ht : t ∈ ((Node.start (counter settings) rpcTimeout).run before).tasks)
    (role : t.role = .handle) (id : UInt64) (asked : t.message.msgId? = some id) (wait : Wait Job)
    (waits : t.stage = .wait wait)
    (reply : Message) (answered : t.mailbox = .full reply) (code : Int64) (text : String)
    (complains : reply.Complains code text) (now : Nat) (stamp : Stamp) :
    let n := (Node.start (counter settings) rpcTimeout).run before
    let acts := (Node.start (counter settings) rpcTimeout).acts t.id before
    Inquiring settings.service acts ∧
      ∃ c, (∃ act ∈ acts, ∃ src, KvClient.message c src settings.service wait.id ∈ act.lines) ∧
        Relays settings n t (swapsAsked acts) c now stamp after id code text := by
  intro n acts
  have hn : n.Numbered := Node.Numbered.run (.start (counter settings) rpcTimeout) before
  have hpursues := pursues_run settings rpcTimeout before t ht role
  rw [waits] at hpursues
  obtain ⟨c, hawaits⟩ := hpursues
  exact ⟨hawaits.inquiring, c, hawaits.requested,
    hawaits.relays hn ht role asked waits answered complains now stamp after⟩

/-- A node of a counter adds to a value that it has read, and the service refuses the swap with a
code that has no name, and without a text. -/
def refusedSwap : List (Node.Event (counter ⟨"kv", .unbounded⟩)) :=
  let init := "\x7b\"src\":\"c\",\"dest\":\"n\",\"body\":\x7b\"type\":\"init\",\"msg_id\":1,"
    ++ "\"node_id\":\"n\",\"node_ids\":[\"n\"]\x7d\x7d"
  let add := "\x7b\"src\":\"c\",\"dest\":\"n\",\"body\":"
    ++ "\x7b\"type\":\"add\",\"delta\":5,\"msg_id\":2\x7d\x7d"
  let value := "\x7b\"src\":\"kv\",\"dest\":\"n\",\"body\":"
    ++ "\x7b\"type\":\"read_ok\",\"value\":3,\"in_reply_to\":1\x7d\x7d"
  let refusal := "\x7b\"src\":\"kv\",\"dest\":\"n\",\"body\":"
    ++ "\x7b\"type\":\"error\",\"code\":7,\"in_reply_to\":2\x7d\x7d"
  .line init.toUTF8.toList :: List.replicate 4 (.step 0 ⟨0, 0⟩ 0)
    ++ .line add.toUTF8.toList :: List.replicate 4 (.step 0 ⟨0, 0⟩ 1)
    ++ .line value.toUTF8.toList :: .step 0 ⟨0, 0⟩ 2 :: List.replicate 3 (.step 0 ⟨0, 0⟩ 1)
    ++ .line refusal.toUTF8.toList :: [.step 0 ⟨0, 0⟩ 3]

theorem refusedSwap_relayed :
    ∃ (t : Task Job) (wait : Wait Job) (reply : Message),
      t ∈ ((Node.start (counter ⟨"kv", .unbounded⟩) ⟨1000⟩).run refusedSwap).tasks ∧
        t.role = .handle ∧
      t.message.msgId? = some 2 ∧ t.stage = .wait wait ∧ t.mailbox = .full reply ∧
        reply.Complains 7 "" ∧
      Node.Fails ((Node.start (counter ⟨"kv", .unbounded⟩) ⟨1000⟩).run refusedSwap) t
        (List.replicate 4 (.step 0 ⟨0, 0⟩ t.id)) 2 7 "" := by
  have hfound : (((Node.start (counter ⟨"kv", .unbounded⟩) ⟨1000⟩).run refusedSwap).task? 1).any
    (fun t =>
      t.answered?.any fun answer =>
        t.role = .handle ∧ t.message.msgId? = some 2 ∧ answer.2.kind = "error" ∧
        (answer.2.body.field? "code").bind Json.toInt64? = some 7 ∧
          (answer.2.body.field? "text").isNone) =
      true := by decide +kernel
  obtain ⟨t, htask, ht⟩ := (Option.any_eq_true ..).mp hfound
  obtain ⟨⟨wait, reply⟩, hanswered, hanswer⟩ := (Option.any_eq_true ..).mp ht
  obtain ⟨waits, answered⟩ := Task.answered?_eq_some_iff.mp hanswered
  obtain ⟨role, asked, tagged, coded, wordless⟩ := of_decide_eq_true hanswer
  have hmem := (Node.mem_of_task? htask).1
  have complains : reply.Complains 7 "" :=
    ⟨tagged, coded, .inr ⟨Option.isNone_iff_eq_none.mp wordless, rfl⟩⟩
  obtain ⟨-, c, -, hrelays⟩ := errors_relayed ⟨"kv", .unbounded⟩ ⟨1000⟩ refusedSwap
    (List.replicate 3 (.step 0 ⟨0, 0⟩ t.id)) t hmem role 2 asked wait waits reply answered 7 ""
      complains 0 ⟨0, 0⟩
  exact ⟨t, wait, reply, hmem, role, asked, waits, answered, complains,
    hrelays.hard (by decide) (by decide)⟩

end Relays

end Workload.Counter

end ClusterNode
