import ClusterNode.Proofs.Counter.Add
import ClusterNode.Proofs.Node.Answers
import ClusterNode.Proofs.Node.Correlation
import ClusterNode.Proofs.Store.Client

/-!
How a node works for an addition: the stages that a task goes through, and what each of its steps
writes.
-/

set_option autoImplicit false

namespace ClusterNode

namespace Node

variable {w : Workload}

/-- What a step makes of the task that moves, and what it writes. -/
structure Turns (n : Node w) (t : Task w.Job) (n' : Node w) (o : Option (Task w.Job))
    (ms : List Message) : Prop where
  own : ∀ x ∈ n'.tasks, x.id = t.id → o = some x
  same : ∀ x ∈ o, x.id = t.id ∧ x.role = t.role ∧ x.message = t.message
  identity : n'.identity = n.identity
  written : n'.written = n.written ++ ms

namespace Turns

variable {n m : Node w} {t : Task w.Job} {ms : List Message}

private theorem update (hn : n.Numbered) (ht : t ∈ n.tasks) {f : Task w.Job → Task w.Job}
    (same : (f t).id = t.id ∧ (f t).role = t.role ∧ (f t).message = t.message)
    (written : m.written = n.written ++ ms := by simp) (tasks : m.tasks = n.tasks := by rfl)
    (identity : m.identity = n.identity := by rfl) :
    Turns n t (m.update t.id f) (some (f t)) ms where
  own x hx hid := by rw [hn.eq_of_mem_update ht tasks hx hid]
  same := by simpa using same
  identity := identity
  written := written

private theorem goTo (hn : n.Numbered) (ht : t ∈ n.tasks) {stage : Stage w.Job}
    (written : m.written = n.written ++ ms := by simp) (tasks : m.tasks = n.tasks := by rfl)
    (identity : m.identity = n.identity := by rfl) :
    Turns n t (m.goTo t.id stage) (some { t with stage }) ms :=
  update hn ht ⟨rfl, rfl, rfl⟩ written tasks identity

theorem remove (written : m.written = n.written ++ ms := by simp)
    (identity : m.identity = n.identity := by rfl) : Turns n t (m.remove t.id) none ms where
  own _ hx hid := absurd hid (mem_remove.mp hx).2
  same := by simp
  identity := identity
  written := written

protected theorem refl (hn : n.Numbered) (ht : t ∈ n.tasks) : Turns n t n (some t) [] where
  own x hx hid := by rw [hn.eq_of_id hx ht hid]
  same := by simp
  identity := rfl
  written := by simp

end Turns

end Node

namespace Workload.Counter

open ClusterNode.Counter (Account Add)

def Resumes (a : Add) (next : Except NodeError Message → Job) (c : StoreCall) : Prop :=
  ∃ s k, a.move s = .call c k ∧ next = fun r => .adding a (k (KvClient.answer r c))

/-- A task waits for the reply to a call of its addition, which it has sent. -/
structure Calling (service : String) (a : Add) (h : History) (t : Task Job) (wait : Wait Job)
    (c : StoreCall) : Prop where
  requested : .requested t.id wait.id (KvClient.message c a.node service wait.id) ∈ h
  limited : wait.limit.isSome
  resumes : Resumes a wait.next c

/-- How a task works for an addition, in view of what has happened to the requests of its node and
of the replies that are on their way to it. -/
def Works (service : String) (a : Add) (f : Account) (h : History)
    (replies : UInt64 → Message → Prop)
    (t : Task Job) : Prop :=
  match t.stage with
  | .fresh job => job = some (.received t.message) ∧ ¬ f.spent
  | .work (.received request) => request = t.message ∧ ¬ f.spent
  | .work (.adding b s) | .sleep _ (.adding b s) => b = a ∧ a.Stands f s
  | .work (.ending result) => result = .ok ()
  | .dial dest id body limit next =>
    t.mailbox = .empty ∧ ¬ f.spent ∧ dest = service ∧ limit.isSome ∧
      ∃ c, a.Asks f c ∧ body = (KvClient.message c a.node service id).body ∧ Resumes a next c
  | .wait wait => ∃ c, Calling service a h t wait c ∧ f.Awaits c ∧ t.mailbox ≠ .lost ∧
      ∀ reply, t.mailbox = .full reply ∨ replies wait.id reply →
        f.Admits c (KvClient.answer (History.outcome reply) c)
  | .conclude (.ok _) => True
  | .conclude (.error e) => f.Excuses e.toRpcError
  | .refuse e => f.Excuses e
  | _ => False

/-- What comes of a step of a task that works for an addition: the task goes on, or it has sent a
call of the addition, confirmed it, or reported an error. -/
inductive Outcome (service : String) (a : Add) (f : Account) (h h' : History)
    (replies : UInt64 → Message → Prop) (t : Task Job) : Option (Task Job) → List Message → Prop
  | rest {o : Option (Task Job)} (works : ∀ x ∈ o, Works service a f h replies x) :
      Outcome service a f h h' replies t o []
  | ask {x : Task Job} {wait : Wait Job} {c : StoreCall} (unspent : ¬ f.spent) (asks : a.Asks f c)
      (fresh : wait.id ∉ h.requestedIds) (stage : x.stage = .wait wait)
        (mailbox : x.mailbox = .empty)
      (calling : Calling service a h' x wait c) :
      Outcome service a f h h' replies t (some x) [KvClient.message c a.node service wait.id]
  | confirm {x : Task Job} {id : UInt64} (asked : t.message.msgId? = some id) (landed : f.landed)
      (works : Works service a f h replies x) : Outcome service a f h h' replies t (some x)
        [Payload.Plain.message Payload.Counter.addOk a.node t.message.src none (some id)]
  | report {e : RpcError} {id : UInt64} (asked : t.message.msgId? = some id)
    (excused : f.Excuses e) :
      Outcome service a f h h' replies t none
        [Payload.Plain.message e a.node t.message.src none (some id)]

section Outcome

variable {settings : Settings} {n : Node (counter settings)} {t : Task (counter settings).Job}
  {a : Add}
  {f : Account} {h h' : History} {replies : UInt64 → Message → Prop}

/-- A node that has a name, writes what it is told to, and goes on reading. -/
structure Site (n : Node (counter settings)) (name : String) : Prop where
  numbered : n.Numbered
  identity : ∃ peers, n.identity = some ⟨name, peers⟩
  working : n.mode = .working
  reading : n.verdict = none

private theorem Site.name_eq {name : String} (hn : Site n name) : n.name = name := by
  obtain ⟨peers, h⟩ := hn.identity
  simp [Node.name, h]

/-- A task that works for an addition to the counter of its node. -/
structure Serves (settings : Settings) (a : Add) (t : Task (counter settings).Job) : Prop where
  role : t.role = .handle
  policy : a.policy = settings.policy
  payload : (t.message.payload : Except RpcError Payload.Counter) = .ok (.add a.delta)

theorem stepTask_work (job : Job) (hs : t.stage = .work job) (now : Nat) (stamp : Stamp) :
    n.stepTask now stamp t = n.act now stamp t (Counter.step settings n.view job) := by
  simp only [Node.stepTask, hs]
  rfl

private theorem received_outcome (hn : Site n a.node) (ht : t ∈ n.tasks)
    (hserves : Serves settings a t)
    (hs : t.stage = .work (.received t.message)) (unspent : ¬ f.spent) (now : Nat) (stamp : Stamp) :
    ∃ o ms, n.Turns t (n.stepTask now stamp t) o ms ∧
      Outcome settings.service a f h h' replies t o ms := by
  obtain ⟨peers, hidentity⟩ := hn.identity
  have hbegin : Counter.step settings n.view (.received t.message) =
      .proceed (.adding a ClusterNode.Counter.Add.start) := by
    have hpolicy := hserves.policy
    simp only [Counter.step, begin, hserves.payload, Node.view, View.identify, hidentity, ← hpolicy]
  rw [stepTask_work _ hs, hbegin]
  refine ⟨_, _, .goTo hn.numbered ht, .rest fun x hx => ?_⟩
  obtain rfl := Option.some.inj hx
  exact ⟨rfl, unspent⟩

private theorem adding_outcome (hn : Site n a.node) (ht : t ∈ n.tasks)
    (hserves : Serves settings a t)
    {s : Add.State} (hs : t.stage = .work (.adding a s)) (stands : a.Stands f s) (now : Nat)
    (stamp : Stamp) : ∃ o ms, n.Turns t (n.stepTask now stamp t) o ms ∧
      Outcome settings.service a f h h' replies t o ms := by
  have hstep : Counter.step settings n.view (.adding a s) =
      carryOut settings n.view (.adding a) (fun _ => .addOk) (a.move s) := rfl
  rw [stepTask_work _ hs, hstep]
  cases hmove : a.move s with
  | call c k =>
    obtain ⟨unspent, hasks⟩ := stands.call hmove
    refine ⟨_, _, .update hn.numbered ht (m := { n with pending := (n.pending.register _).2 })
      ⟨rfl, rfl, rfl⟩, .rest fun x hx => ?_⟩
    obtain rfl := Option.some.inj hx
    exact ⟨rfl, unspent, rfl, rfl, c, hasks, rfl, s, k, hmove, rfl⟩
  | pause d s' =>
    refine ⟨_, _, .goTo hn.numbered ht, .rest fun x hx => ?_⟩
    obtain rfl := Option.some.inj hx
    exact ⟨rfl, stands.pause hmove⟩
  | done result =>
    have hdone := stands.done hmove
    cases result with
    | error e =>
      have hact : n.act now stamp t (carryOut settings n.view (.adding a) (fun _ => .addOk)
          (.done (.error e))) = n.goTo t.id (.conclude (.error (.store e))) := by
        simp only [carryOut, Node.act, hserves.role]
      rw [hact]
      refine ⟨_, _, .goTo hn.numbered ht, .rest fun x hx => ?_⟩
      obtain rfl := Option.some.inj hx
      exact hdone
    | ok sum =>
      have hact : n.act now stamp t (carryOut settings n.view (.adding a) (fun _ => .addOk)
          (.done (.ok sum))) =
            (n.reply t.message (Payload.encode Payload.Counter.addOk)).2.goTo t.id
            (.work (.ending (n.reply t.message (Payload.encode Payload.Counter.addOk)).1)) := rfl
      rw [hact]
      cases hid : t.message.msgId? with
      | none =>
        rw [Node.reply_unnumbered hid]
        refine ⟨_, _, .goTo hn.numbered ht, .rest fun x hx => ?_⟩
        obtain rfl := Option.some.inj hx
        rfl
      | some id =>
        rw [Payload.encode, Node.reply_working hn.working hid, hn.name_eq]
        exact ⟨_, _, .goTo hn.numbered ht rfl, .confirm hid hdone rfl⟩

private theorem dial_outcome (hn : Site n a.node) (ht : t ∈ n.tasks) {dest : String} {id : UInt64}
    {body : Json} {limit : Option (Nat × Duration)} {next : Except NodeError Message → Job}
    (hs : t.stage = .dial dest id body limit next)
    (hw : Works settings.service a f h replies t) (hstand : t.Standing h) (now : Nat)
    (stamp : Stamp)
    (hh : ∀ o ∈ n.stepOccurrences now t, o ∈ h') :
    ∃ o ms, n.Turns t (n.stepTask now stamp t) o ms ∧
      Outcome settings.service a f h h' replies t o ms := by
  simp only [Works, hs] at hw
  simp only [Task.Standing, hs] at hstand
  obtain ⟨hmailbox, unspent, rfl, hlimited, c, hasks, rfl, hresumes⟩ := hw
  rcases Node.writeCall_working hn.working now settings.service id
    (KvClient.message c a.node settings.service id).body
      limit with hwrite | ⟨_, after, -, -, hwrite⟩
  · rw [hn.name_eq] at hwrite
    have hmore : n.stepOccurrences now t =
        [.requested t.id id (KvClient.message c a.node settings.service id)] := by
      simp only [Node.stepOccurrences, hs, hwrite]
      rw [Node.newRequests_eq rfl]
      rfl
    have hstep : n.stepTask now stamp t = ({ n with
        written := n.written ++ [KvClient.message c a.node settings.service id]
        metrics := n.metrics.countSent.countRpcSent } : Node (counter settings)).goTo t.id
          (.wait ⟨settings.service, id, limit, next⟩) := by
      simp only [Node.stepTask, hs, hwrite]
      rfl
    have hcalling : Calling settings.service a h'
        { t with stage := .wait ⟨settings.service, id, limit, next⟩ }
        ⟨settings.service, id, limit, next⟩ c :=
      ⟨hh _ (by rw [hmore]; exact List.mem_cons_self), hlimited, hresumes⟩
    rw [hstep]
    exact ⟨_, _, .goTo hn.numbered ht rfl,
      .ask unspent hasks hstand.2.1 rfl (by exact hmailbox) hcalling⟩
  · obtain ⟨s, k, hmove, rfl⟩ := hresumes
    have hstep : n.stepTask now stamp t = n.goTo t.id
        (.work (.adding a (k (KvClient.answer (.error (.timeout settings.service after)) c)))) := by
      simp only [Node.stepTask, hs, hwrite]
    rw [hstep, KvClient.answer_timeout]
    refine ⟨_, _, .goTo hn.numbered ht, .rest fun x hx => ?_⟩
    obtain rfl := Option.some.inj hx
    exact ⟨rfl, Add.stands_timeout hmove _⟩

private theorem wait_outcome (hn : Site n a.node) (ht : t ∈ n.tasks) {wait : Wait Job}
    (hs : t.stage = .wait wait) (hw : Works settings.service a f h replies t) (now : Nat)
    (stamp : Stamp) : ∃ o ms, n.Turns t (n.stepTask now stamp t) o ms ∧
      Outcome settings.service a f h h' replies t o ms := by
  have hw' := hw
  simp only [Works, hs] at hw'
  obtain ⟨c, ⟨-, hlimited, s, k, hmove, hnext⟩, hawaits, hmailbox, hadmits⟩ := hw'
  have hends : ∀ result, a.Stands f (k (KvClient.answer result c)) →
      ∃ o ms, n.Turns t (n.update t.id fun t =>
          { t with stage := .work (wait.next result), mailbox := .empty }) o ms ∧
        Outcome settings.service a f h h' replies t o ms := by
    intro result hstands
    refine ⟨_, _, .update hn.numbered ht ⟨rfl, rfl, rfl⟩, .rest fun x hx => ?_⟩
    obtain rfl := Option.some.inj hx
    rw [hnext]
    exact ⟨rfl, hstands⟩
  cases hresult : n.waitResult? now t wait with
  | none =>
    have hstep : n.stepTask now stamp t = n := by simp only [Node.stepTask, hs, hresult]
    rw [hstep]
    refine ⟨_, _, .refl hn.numbered ht, .rest fun x hx => ?_⟩
    obtain rfl := Option.some.inj hx
    exact hw
  | some result =>
    have hstep : n.stepTask now stamp t = n.update t.id fun t =>
        { t with stage := .work (wait.next result), mailbox := .empty } := by
      simp only [Node.stepTask, hs, hresult]
    rw [hstep]
    refine hends result ?_
    cases hm : t.mailbox with
    | full reply =>
      rcases Node.waitResult?_spec hresult with ⟨reply', hm', rfl⟩ | ⟨hnone, -⟩
      · obtain rfl : reply = reply' := by simpa [hm] using hm'
        exact Add.stands_next hmove hawaits (hadmits reply (.inl hm))
      · simp [hm, Mailbox.reply?] at hnone
    | lost => exact absurd hm hmailbox
    | empty =>
      obtain ⟨⟨deadline, after⟩, hlimit⟩ := Option.isSome_iff_exists.mp hlimited
      simp only [Node.waitResult?, hm, hlimit, Option.ite_none_right_eq_some,
        Option.some.injEq] at hresult
      rw [← hresult.2, KvClient.answer_timeout]
      exact Add.stands_timeout hmove _

/-- Every step of a task that works for an addition has its outcome. -/
theorem stepTask_outcome (hn : Site n a.node) (ht : t ∈ n.tasks) (hserves : Serves settings a t)
    (hw : Works settings.service a f h replies t) (hstand : t.Standing h) (now : Nat)
    (stamp : Stamp)
    (hh : ∀ o ∈ n.stepOccurrences now t, o ∈ h') :
    ∃ o ms, n.Turns t (n.stepTask now stamp t) o ms ∧
      Outcome settings.service a f h h' replies t o ms := by
  have hw' := hw
  cases hs : t.stage with
  | fresh job =>
    simp only [Works, hs] at hw'
    obtain ⟨rfl, unspent⟩ := hw'
    simp only [Node.stepTask, hs]
    refine ⟨_, _, .goTo hn.numbered ht, .rest fun x hx => ?_⟩
    obtain rfl := Option.some.inj hx
    exact ⟨rfl, unspent⟩
  | work job =>
    cases job with
    | received request =>
      simp only [Works, hs] at hw'
      obtain ⟨rfl, unspent⟩ := hw'
      exact received_outcome hn ht hserves hs unspent now stamp
    | adding b s =>
      simp only [Works, hs] at hw'
      obtain ⟨rfl, stands⟩ := hw'
      exact adding_outcome hn ht hserves hs stands now stamp
    | summing s => simp only [Works, hs] at hw'
    | ending result =>
      simp only [Works, hs] at hw'
      obtain rfl := hw'
      have hact : n.stepTask now stamp t = n.goTo t.id (.conclude (.ok ())) := by
        rw [stepTask_work _ hs]
        simp only [Counter.step, Node.act, hserves.role]
      rw [hact]
      refine ⟨_, _, .goTo hn.numbered ht, .rest fun x hx => ?_⟩
      obtain rfl := Option.some.inj hx
      trivial
  | dial dest id body limit next => exact dial_outcome hn ht hs hw hstand now stamp hh
  | flush wait => simp only [Works, hs] at hw'
  | wait wait => exact wait_outcome hn ht hs hw now stamp
  | sleep wake job =>
    cases job with
    | adding b s =>
      simp only [Works, hs] at hw'
      simp only [Node.stepTask, hs]
      split
      · refine ⟨_, _, .goTo hn.numbered ht, .rest fun x hx => ?_⟩
        obtain rfl := Option.some.inj hx
        exact hw'
      · refine ⟨_, _, .refl hn.numbered ht, .rest fun x hx => ?_⟩
        obtain rfl := Option.some.inj hx
        exact hw
    | received request => simp only [Works, hs] at hw'
    | summing s => simp only [Works, hs] at hw'
    | ending result => simp only [Works, hs] at hw'
  | conclude result =>
    simp only [Node.stepTask, hs]
    cases result with
    | ok _ => exact ⟨none, _, .remove, .rest fun _ hx => by cases hx⟩
    | error e =>
      simp only [Works, hs] at hw'
      have hrefuse : ∃ metrics, n.conclude t (.error e) =
          ({ n with metrics } : Node (counter settings)).goTo t.id (.refuse e.toRpcError) := by
        simp only [Node.conclude, NodeError.toRpcError]
        cases e.rpcError? <;> exact ⟨_, rfl⟩
      obtain ⟨metrics, hrefuse⟩ := hrefuse
      rw [hrefuse]
      refine ⟨_, _, .goTo hn.numbered ht, .rest fun x hx => ?_⟩
      obtain rfl := Option.some.inj hx
      exact hw'
  | refuse e =>
    simp only [Works, hs] at hw'
    simp only [Node.stepTask, hs]
    cases hid : t.message.msgId? with
    | none =>
      rw [Node.reply_unnumbered hid]
      exact ⟨none, _, .remove, .rest fun _ hx => by cases hx⟩
    | some id =>
      rw [Payload.encode, Node.reply_working hn.working hid, hn.name_eq]
      exact ⟨none, _, .remove rfl, .report hid hw'⟩
  | adopt => simp only [Works, hs] at hw'
  | post dest id body next => simp only [Works, hs] at hw'
  | confirm => simp only [Works, hs] at hw'
  | hand task id => simp only [Works, hs] at hw'

end Outcome

end Workload.Counter

end ClusterNode
