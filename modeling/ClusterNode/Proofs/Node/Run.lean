import ClusterNode.Proofs.Node.Frame
import ClusterNode.Proofs.Pending

/-!
Runs of a node: lines that arrive, steps of tasks in any order and at any instants, and what the
host of the node does to it.
-/

set_option autoImplicit false

namespace ClusterNode

variable {w : Workload}

/-- What a line is to a node: nothing, an end of the reading, or a message. -/
inductive Reading where
  | blank
  | refused (e : NodeError)
  | message (m : Message) (line : String)

namespace Reading

def ofText (line : String) : Reading :=
  let line := Text.trim line
  if line.isEmpty then .blank
  else
    match Message.decode line with
    | .error e => .refused (.codec e)
    | .ok m => .message m line

def ofBytes (line : List UInt8) : Reading :=
  match Text.Utf8.decode (Input.withoutEnd line) with
  | .ok text => ofText text
  | .error fault => .refused (.io fault.message)

end Reading

namespace Node

def take (n : Node w) : Reading → Node w
  | .blank => n
  | .refused e => n.stop e
  | .message m line =>
    let n := { n with metrics := n.metrics.countReceived }
    match m.inReplyTo? with
    | some id => n.receiveReply id m
    | none => n.receiveRequest m line

section Replies

variable {n : Node w} {id : UInt64} {m : Message}

theorem receiveReply_of_none (h : n.pending.get? id = none) : n.receiveReply id m =
    { n with pending := n.pending.erase id, metrics := n.metrics.countReplyDropped } := by
  simp only [receiveReply, Pending.take, h, Pending.erase_of_get?_eq_none h]

theorem receiveReply_of_some {callback : Callback w.Job} (h : n.pending.get? id = some callback) :
    n.receiveReply id m = ({ n with
      pending := n.pending.erase id
      metrics := n.metrics.countReplyMatched } : Node w).spawn .callback m
        (match callback with
        | .deliver task => .hand task id
        | .start onReply => .work (onReply m)) := by
  simp only [receiveReply, Pending.take, h]
  cases callback <;> rfl

end Replies

private theorem receive_eq_take (n : Node w) (line : String) :
    n.receive line = if n.verdict.isSome then n else n.take (.ofText line) := by
  simp only [receive, Reading.ofText]
  split
  · rfl
  · split
    · rfl
    · cases Message.decode (Text.trim line) <;> rfl

theorem receiveBytes_eq_take (n : Node w) (line : List UInt8) :
    n.receiveBytes line = if n.verdict.isSome then n else n.take (.ofBytes line) := by
  simp only [receiveBytes, Reading.ofBytes]
  split
  · rfl
  · cases Text.Utf8.decode (Input.withoutEnd line) with
    | ok text => simp [receive_eq_take, *]
    | error fault => rfl

theorem receiveBytes_handler {n : Node w} {line : List UInt8} {m : Message} {text : String}
    {handler : Message → w.Job} (reading : n.verdict = none)
    (hread : Reading.ofBytes line = .message m text)
    (hreply : m.inReplyTo? = none) (hinit : m.kind ≠ "init")
    (hhandler : w.handlers.get? m.kind = some handler) :
    n.receiveBytes line = ({ n with metrics := n.metrics.countReceived } : Node w).spawn .handle m
      (.fresh (some (handler m))) := by
  rw [receiveBytes_eq_take, if_neg (by simp [reading]), hread]
  simp only [take, hreply, receiveRequest, hhandler]
  rw [if_neg hinit]

/-- What can happen to a node. -/
inductive Event (w : Workload) where
  | line (bytes : List UInt8)
  | step (now : Nat) (stamp : Stamp) (id : Nat)
  /-- The input has ended, and the reading is over if its tasks are. -/
  | settle
  /-- Calls that wait until they are cancelled are to give up. -/
  | cancel
  | setMode (mode : WriteMode)
  /-- A caller inside the program begins. -/
  | client (job : w.Job)

def apply (n : Node w) : Event w → Node w
  | .line bytes => n.receiveBytes bytes
  | .step now stamp id => n.step now stamp id
  | .settle => n.settle
  | .cancel => { n with cancelled := true }
  | .setMode mode => { n with mode }
  | .client job => n.spawnClient job

def run (n : Node w) (events : List (Event w)) : Node w :=
  events.foldl apply n

@[simp] theorem run_nil (n : Node w) : n.run [] = n := rfl

@[simp] theorem run_cons (n : Node w) (e : Event w) (events : List (Event w)) :
    n.run (e :: events) = (n.apply e).run events := rfl

theorem run_append (n : Node w) (first second : List (Event w)) :
    n.run (first ++ second) = (n.run first).run second :=
  List.foldl_append

/-- What each event of a run keeps holds after the run. -/
theorem run_induction {P : Node w → Prop} {n : Node w} {events : List (Event w)} (start : P n)
    (keep : ∀ e ∈ events, ∀ n, P n → P (n.apply e)) : P (n.run events) := by
  induction events generalizing n with
  | nil => exact start
  | cons e events ih =>
    have hfirst : P (n.apply e) := keep e List.mem_cons_self n start
    exact ih hfirst fun e' he' => keep e' (List.mem_cons_of_mem _ he')

section Stop

private theorem foldl_post_lost (dropped : List (Task w.Job)) (n : Node w) :
    ∃ g : Task w.Job → Task w.Job, (∀ x, g x = x ∨ g x = { x with mailbox := .lost }) ∧
      dropped.foldl (fun n t =>
        match t.stage with
        | .hand task id => n.post task id .lost
        | _ => n) n = { n with tasks := n.tasks.map g } := by
  induction dropped generalizing n with
  | nil => exact ⟨fun x => x, fun x => .inl rfl, by simp⟩
  | cons t dropped ih =>
    rw [List.foldl_cons]
    by_cases ht : ∃ task id, t.stage = .hand task id
    · obtain ⟨task, id, hs⟩ := ht
      simp only [hs]
      obtain ⟨g, hg, h⟩ := ih (n.post task id .lost)
      refine ⟨fun x => g (if x.id = task then
        (if x.callId? = some id then { x with mailbox := .lost } else x) else x), ?_, ?_⟩
      · intro x
        dsimp only
        split
        · split
          · rcases hg { x with mailbox := .lost } with h | h <;> exact .inr h
          · exact hg x
        · exact hg x
      · rw [h]
        simp [post, update, List.map_map, Function.comp_def]
    · have hs : (match t.stage with
          | .hand task id => n.post task id .lost
          | _ => n) = n := by
        split
        · rename_i hs
          exact absurd ⟨_, _, hs⟩ ht
        · rfl
      rw [hs]
      exact ih n

/-- An end of the reading leaves the callers inside the program, some of which have lost the reply
to their call, and nothing else is changed. -/
theorem stop_eq (n : Node w) (e : NodeError) :
    ∃ g : Task w.Job → Task w.Job, (∀ x, g x = x ∨ g x = { x with mailbox := .lost }) ∧
      n.stop e = { n with
        tasks := (n.tasks.filter fun t => t.role = .client).map g
        verdict := some (.error e) } := by
  obtain ⟨g, hg, h⟩ := foldl_post_lost n.ownTasks { n with
    tasks := n.tasks.filter fun t => t.role = .client
    verdict := some (.error e) }
  exact ⟨g, hg, h⟩

theorem mem_stop {n : Node w} {e : NodeError} {x : Task w.Job} (hx : x ∈ (n.stop e).tasks) :
    ∃ y ∈ n.tasks, y.role = .client ∧ (x = y ∨ x = { y with mailbox := .lost }) := by
  obtain ⟨g, hg, h⟩ := stop_eq n e
  rw [h] at hx
  obtain ⟨y, hy, rfl⟩ := List.mem_map.mp hx
  obtain ⟨hy, hrole⟩ := List.mem_filter.mp hy
  exact ⟨y, hy, by simpa using hrole, hg y⟩

end Stop

namespace Numbered

variable {n : Node w}

theorem start (w : Workload) (rpcTimeout : Duration) : (Node.start w rpcTimeout).Numbered :=
  ⟨List.nodup_nil, fun _ ht => absurd ht List.not_mem_nil⟩

theorem congr {n' : Node w} (hn : n.Numbered) (ht : n'.tasks = n.tasks := by rfl)
    (hnext : n'.nextTask = n.nextTask := by rfl) : n'.Numbered := by
  refine ⟨ht ▸ hn.nodup, fun t h => ?_⟩
  rw [hnext]
  exact hn.below t (ht ▸ h)

theorem spawn (hn : n.Numbered) (role : Role) (m : Message) (stage : Stage w.Job) :
    (n.spawn role m stage).Numbered := by
  constructor
  · exact nodup_map_concat hn.nodup fun t ht => Nat.ne_of_lt (hn.below t ht)
  · intro t ht
    rcases mem_spawn.mp ht with ht | rfl
    · exact Nat.lt_succ_of_lt (hn.below t ht)
    · exact Nat.lt_succ_self _

theorem stop (hn : n.Numbered) (e : NodeError) : (n.stop e).Numbered := by
  obtain ⟨g, hg, h⟩ := stop_eq n e
  have hid : ∀ x, (g x).id = x.id := fun x => by rcases hg x with h | h <;> rw [h]
  rw [h]
  constructor
  · have hmap : ((n.tasks.filter fun t => t.role = .client).map g).map Task.id =
        (n.tasks.filter fun t => t.role = .client).map Task.id := by
      rw [List.map_map]
      exact List.map_congr_left fun x _ => hid x
    rw [hmap]
    exact hn.nodup.sublist (List.filter_sublist.map _)
  · intro t ht
    obtain ⟨x, hx, rfl⟩ := List.mem_map.mp ht
    rw [hid]
    exact hn.below x (List.mem_of_mem_filter hx)

private theorem receiveReply (hn : n.Numbered) (id : UInt64) (m : Message) :
    (n.receiveReply id m).Numbered := by
  simp only [Node.receiveReply]
  split
  · split <;> exact spawn (hn.congr) _ _ _
  · exact hn.congr

private theorem receiveRequest (hn : n.Numbered) (m : Message) (line : String) :
    (n.receiveRequest m line).Numbered := by
  simp only [Node.receiveRequest]
  split
  · exact hn.spawn _ _ _
  · split
    · exact hn.spawn _ _ _
    · exact hn.stop _

private theorem take (hn : n.Numbered) (r : Reading) : (n.take r).Numbered := by
  cases r with
  | blank => exact hn
  | refused e => exact hn.stop e
  | message m line =>
    simp only [Node.take]
    split
    · exact receiveReply (hn.congr) _ _
    · exact receiveRequest (hn.congr) _ _

theorem step (hn : n.Numbered) (now : Nat) (stamp : Stamp) (id : Nat) :
    (n.step now stamp id).Numbered := by
  simp only [Node.step]
  cases h : n.task? id with
  | none => exact hn
  | some t => exact hn.stepTask now stamp (mem_of_task? h).1

theorem apply (hn : n.Numbered) (e : Event w) : (n.apply e).Numbered := by
  cases e with
  | line bytes =>
    simp only [Node.apply, receiveBytes_eq_take]
    split
    · exact hn
    · exact hn.take _
  | step now stamp id => exact hn.step now stamp id
  | settle =>
    simp only [Node.apply, Node.settle]
    split <;> exact hn.congr
  | cancel => exact hn.congr
  | setMode mode => exact hn.congr
  | client job => exact hn.spawn _ _ _

theorem run (hn : n.Numbered) (events : List (Event w)) : (n.run events).Numbered :=
  run_induction hn fun e _ _ hn => hn.apply e

end Numbered

section Survival

variable {n : Node w} {x : Task w.Job}

private theorem mem_take {r : Reading} (hx : x ∈ (n.take r).tasks) :
    (∃ y ∈ n.tasks, x = y ∨ x = { y with mailbox := .lost }) ∨ x.id = n.nextTask := by
  have hstop : ∀ (m : Node w) (e : NodeError), m.tasks = n.tasks → x ∈ (m.stop e).tasks →
      ∃ y ∈ n.tasks, x = y ∨ x = { y with mailbox := .lost } := by
    intro m e hm hx
    obtain ⟨y, hy, -, hxy⟩ := mem_stop hx
    exact ⟨y, hm ▸ hy, hxy⟩
  have hspawn : ∀ {m : Node w} {role message stage}, m.tasks = n.tasks → m.nextTask = n.nextTask →
      x ∈ (m.spawn role message stage).tasks → x ∈ n.tasks ∨ x.id = n.nextTask := by
    intro m role message stage hm hnext hx
    rcases mem_spawn.mp hx with hx | rfl
    · exact .inl (hm ▸ hx)
    · exact .inr hnext
  have hsame : x ∈ n.tasks ∨ x.id = n.nextTask →
      (∃ y ∈ n.tasks, x = y ∨ x = { y with mailbox := .lost }) ∨ x.id = n.nextTask :=
    fun h => h.imp (fun hx => ⟨x, hx, .inl rfl⟩) id
  cases r with
  | blank => exact hsame (.inl hx)
  | refused e => exact .inl (hstop _ _ (by rfl) hx)
  | message m line =>
    simp only [take] at hx
    split at hx
    · simp only [receiveReply] at hx
      split at hx
      · split at hx <;> exact hsame (hspawn rfl rfl hx)
      · exact hsame (.inl hx)
    · simp only [receiveRequest] at hx
      split at hx
      · exact hsame (hspawn rfl rfl hx)
      · split at hx
        · exact hsame (hspawn rfl rfl hx)
        · exact .inl (hstop _ _ (by rfl) hx)

private theorem nextTask_stop (n : Node w) (e : NodeError) : (n.stop e).nextTask = n.nextTask := by
  obtain ⟨g, -, h⟩ := stop_eq n e
  rw [h]

private theorem nextTask_le_take (n : Node w) (r : Reading) : n.nextTask ≤ (n.take r).nextTask := by
  cases r with
  | blank => exact Nat.le_refl _
  | refused e => exact Nat.le_of_eq (nextTask_stop n e).symm
  | message m line =>
    simp only [take]
    split
    · simp only [receiveReply]
      split
      · split <;> exact Nat.le_succ _
      · exact Nat.le_refl _
    · simp only [receiveRequest]
      split
      · exact Nat.le_succ _
      · split
        · exact Nat.le_succ _
        · exact Nat.le_of_eq
            (nextTask_stop { n with metrics := n.metrics.countReceived }
              (.noHandler m.kind line)).symm

theorem nextTask_le_apply (n : Node w) (e : Event w) : n.nextTask ≤ (n.apply e).nextTask := by
  cases e with
  | line bytes =>
    simp only [apply, receiveBytes_eq_take]
    split
    · exact Nat.le_refl _
    · exact nextTask_le_take n _
  | step now stamp id =>
    simp only [apply, step]
    cases n.task? id with
    | none => exact Nat.le_refl _
    | some t => exact Nat.le_of_eq (SameCourse.stepTask n now stamp t).nextTask.symm
  | settle =>
    simp only [apply, settle]
    split <;> exact Nat.le_refl _
  | client job => exact Nat.le_succ _
  | _ => exact Nat.le_refl _

theorem nextTask_le_run (n : Node w) (events : List (Event w)) :
    n.nextTask ≤ (n.run events).nextTask :=
  run_induction (Nat.le_refl _) fun e _ m hm => Nat.le_trans hm (nextTask_le_apply m e)

theorem stage_of_mem_apply (hn : n.Numbered) {e : Event w} (hx : x ∈ (n.apply e).tasks)
    (hlt : x.id < n.nextTask) (still : ∀ now stamp, e ≠ .step now stamp x.id) :
    ∃ y ∈ n.tasks, y.id = x.id ∧ y.role = x.role ∧ y.stage = x.stage := by
  have hsame : x ∈ n.tasks → ∃ y ∈ n.tasks, y.id = x.id ∧ y.role = x.role ∧ y.stage = x.stage :=
    fun hx => ⟨x, hx, rfl, rfl, rfl⟩
  cases e with
  | line bytes =>
    simp only [apply, receiveBytes_eq_take] at hx
    split at hx
    · exact hsame hx
    · rcases mem_take hx with ⟨y, hy, rfl | rfl⟩ | hid
      · exact hsame hy
      · exact ⟨y, hy, rfl, rfl, rfl⟩
      · omega
  | step now stamp id =>
    simp only [apply, step] at hx
    cases ht : n.task? id with
    | none =>
      rw [ht] at hx
      exact hsame hx
    | some t =>
      rw [ht] at hx
      obtain ⟨hmem, rfl⟩ := mem_of_task? ht
      have hne : x.id ≠ t.id := fun heq => still now stamp (by rw [heq])
      obtain ⟨y, hy, -, rfl⟩ := (mem_stepTask_iff_of_ne now stamp hn hmem hne).mp hx
      exact ⟨y, hy, by simp, by simp, by simp⟩
  | settle =>
    simp only [apply, settle] at hx
    split at hx <;> exact hsame hx
  | client job =>
    rcases mem_spawn.mp hx with hx | rfl
    · exact hsame hx
    · exact absurd hlt (Nat.lt_irrefl _)
  | _ => exact hsame hx

/-- A task that was there before an event stays at its stage, or is what its own step has left. -/
theorem mem_apply_cases (hn : n.Numbered) {e : Event w} (hx : x ∈ (n.apply e).tasks)
    (hlt : x.id < n.nextTask) :
    (∃ y ∈ n.tasks, y.id = x.id ∧ y.role = x.role ∧ y.stage = x.stage) ∨
      ∃ now stamp, ∃ t ∈ n.tasks, t.id = x.id ∧ x ∈ (n.stepTask now stamp t).tasks := by
  by_cases hmoves : ∃ now stamp, e = .step now stamp x.id
  · obtain ⟨now, stamp, rfl⟩ := hmoves
    simp only [apply, step] at hx
    cases ht : n.task? x.id with
    | none =>
      rw [ht] at hx
      exact .inl ⟨x, hx, rfl, rfl, rfl⟩
    | some t =>
      rw [ht] at hx
      obtain ⟨hmem, hid⟩ := mem_of_task? ht
      exact .inr ⟨now, stamp, t, hmem, hid, hx⟩
  · exact .inl (stage_of_mem_apply hn hx hlt fun now stamp he => hmoves ⟨now, stamp, he⟩)

theorem exists_of_mem_apply (hn : n.Numbered) {e : Event w} (hx : x ∈ (n.apply e).tasks)
    (hlt : x.id < n.nextTask) : ∃ y ∈ n.tasks, y.id = x.id := by
  rcases mem_apply_cases hn hx hlt with ⟨y, hy, hid, -⟩ | ⟨-, -, t, ht, hid, -⟩
  · exact ⟨y, hy, hid⟩
  · exact ⟨t, ht, hid⟩

end Survival

end Node

end ClusterNode
