import ClusterNode.Proofs.Gossip.Flow
import Mathlib.Data.Fintype.Defs
import Mathlib.Logic.Relation

/-!
Clusters of nodes that broadcast: what each node writes to a node is on the wire until it arrives,
in any order. A cluster accounts for each value: where it came from, and where it is on its way.
-/

set_option autoImplicit false

namespace ClusterNode.Workload.Broadcast

/-- The nodes of a cluster, and the messages between them that have not arrived. -/
structure Cluster (ι : Type) where
  nodes : ι → Node broadcast
  wire : List Message

/-- What can happen in a cluster. -/
inductive Move (ι : Type) where
  | client (i : ι) (line : List UInt8)
  | step (i : ι) (now : Nat) (stamp : Stamp) (task : Nat)
  | deliver (i : ι) (position : Nat)

def lineValue? (line : List UInt8) : Option BroadcastValue :=
  match Reading.ofBytes line with
  | .message m _ => m.carried?
  | _ => none

/-- The values that clients ask to broadcast, and the nodes that they ask. -/
def asked {ι : Type} (moves : List (Move ι)) : List (ι × BroadcastValue) :=
  moves.filterMap fun
    | .client i line => (lineValue? line).map fun v => (i, v)
    | _ => none

/-- Lines of clients, which are no nodes: requests to broadcast a number that is read back from its
text. -/
def Move.FromClient {ι : Type} (name : ι → String) : Move ι → Prop
  | .client _ line => ∃ m text v, Reading.ofBytes line = .message m text ∧ (∀ j, m.src ≠ name j) ∧
      m.inReplyTo? = none ∧ m.carried? = some v ∧ v.number.Survives
  | _ => True

namespace Cluster

variable {ι : Type} [Fintype ι] [DecidableEq ι]

/-- A node becomes another one, and what it has written to nodes is on the wire. -/
def change (name : ι → String) (c : Cluster ι) (i : ι) (n : Node broadcast) : Cluster ι where
  nodes := Function.update c.nodes i n
  wire := c.wire ++
    (n.written.drop (c.nodes i).written.length).filter fun m => ∃ j, m.dest = name j

def apply (name : ι → String) (c : Cluster ι) : Move ι → Cluster ι
  | .client i line => c.change name i ((c.nodes i).receiveBytes line)
  | .step i now stamp task => c.change name i ((c.nodes i).step now stamp task)
  | .deliver i position =>
    match c.wire[position]? with
    | some m =>
      if m.dest = name i then
        ({ c with wire := c.wire.eraseIdx position } : Cluster ι).change name i
          ((c.nodes i).receiveBytes (Bench.Session.lineBytes m.encode))
      else c
    | none => c

def run (name : ι → String) (c : Cluster ι) (moves : List (Move ι)) : Cluster ι :=
  moves.foldl (apply name) c

end Cluster

/-- A node has another one among its neighbors. -/
def Leads {ι : Type} (name : ι → String) (neighbors : ι → List String) (i j : ι) : Prop :=
  name j ∈ neighbors i

/-- A value has come to a node along neighbors, from one that a client asked. -/
def Came {ι : Type} (name : ι → String) (neighbors : ι → List String)
    (done : List (ι × BroadcastValue))
    (j : ι) (v : BroadcastValue) : Prop :=
  ∃ i, (i, v) ∈ done ∧ Relation.ReflTransGen (Leads name neighbors) i j

def Due {ι : Type} (name : ι → String) (c : Cluster ι) (j : ι) (v : BroadcastValue) : Prop :=
  (∃ m ∈ c.wire, m.dest = name j ∧ m.carries v = true) ∨ Waits (c.nodes j) v ∨
    (c.nodes j).shared.Holds v

/-- A node that spreads values that have come to it, and answers nobody but clients. -/
structure Home {ι : Type} (name : ι → String) (neighbors : ι → List String)
    (done : List (ι × BroadcastValue)) (i : ι) (n : Node broadcast) : Prop where
  spreading : Spreading n (name i) (neighbors i)
  tasks : ∀ t ∈ n.tasks, ∀ v, t.message.carried? = some v →
    Came name neighbors done i v ∧ (t.message.msgId? = none ∨ ∀ j, t.message.src ≠ name j)
  log : ∀ v ∈ n.shared.log, Came name neighbors done i v

/-- What a node holds it is still to send to a neighbor, or it has come there or is on its way. -/
def PassedOn {ι : Type} (name : ι → String) (neighbors : ι → List String) (c : Cluster ι) (i : ι)
    (n : Node broadcast) : Prop :=
  ∀ j v, n.shared.Holds v → name j ∈ neighbors i → name j ∈ toForward v n ∨ Due name c j v

/-- A cluster whose nodes spread values, and that accounts for each value. -/
structure Accounts {ι : Type} (name : ι → String) (neighbors : ι → List String) (c : Cluster ι)
    (done : List (ι × BroadcastValue)) : Prop where
  node : ∀ i, Home name neighbors done i (c.nodes i)
  survives : ∀ e ∈ done, e.2.number.Survives
  wire : ∀ m ∈ c.wire, ∃ i j v, m = forward (name i) (name j) v ∧ Came name neighbors done j v
  arrived : ∀ e ∈ done, Due name c e.1 e.2
  passed : ∀ i, PassedOn name neighbors c i (c.nodes i)

section Accounts

variable {ι : Type} {name : ι → String} {neighbors : ι → List String} {c c' : Cluster ι}
  {done more : List (ι × BroadcastValue)}

private theorem Came.append {j : ι} {v : BroadcastValue} (h : Came name neighbors done j v) :
    Came name neighbors (done ++ more) j v := by
  obtain ⟨i, hi, hreach⟩ := h
  exact ⟨i, List.mem_append_left _ hi, hreach⟩

private theorem Came.next {i j : ι} {v : BroadcastValue} (h : Came name neighbors done i v)
    (hij : name j ∈ neighbors i) : Came name neighbors done j v := by
  obtain ⟨k, hk, hreach⟩ := h
  exact ⟨k, hk, hreach.tail hij⟩

private theorem Spreading.name_eq {n : Node broadcast} {name : String} {neighbors : List String}
    (hs : Spreading n name neighbors) : n.name = name := by
  obtain ⟨peers, h⟩ := hs.identity
  simp [Node.name, h]

variable [DecidableEq ι]

theorem forall_nodes {P : ι → Node broadcast → Prop} {i : ι} {n : Node broadcast}
    (hc : c'.nodes = Function.update c.nodes i n) (own : P i n) (others : ∀ j, P j (c.nodes j)) :
    ∀ j, P j (c'.nodes j) := by
  rw [hc]
  exact (Function.forall_update_iff c.nodes P).mpr ⟨own, fun j _ => others j⟩

private theorem Due.change {i : ι} {n : Node broadcast}
    (hc : c'.nodes = Function.update c.nodes i n)
    (waits : ∀ v, Waits (c.nodes i) v → Waits n v ∨ n.shared.Holds v)
    (held : ∀ v, (c.nodes i).shared.Holds v → n.shared.Holds v)
    (wire : ∀ m ∈ c.wire, m ∈ c'.wire ∨
      ∀ j, m.dest = name j → j = i ∧ ∀ v, m.carries v = true → Waits n v) {j : ι}
    {v : BroadcastValue} (h : Due name c j v) : Due name c' j v := by
  have hwaits : ∀ j v, Waits (c.nodes j) v → Waits (c'.nodes j) v ∨ (c'.nodes j).shared.Holds v :=
    forall_nodes (P := fun j n => ∀ v, Waits (c.nodes j) v → Waits n v ∨ n.shared.Holds v) hc
      waits fun _ _ h => .inl h
  have hheld : ∀ j v, (c.nodes j).shared.Holds v → (c'.nodes j).shared.Holds v :=
    forall_nodes (P := fun j n => ∀ v, (c.nodes j).shared.Holds v → n.shared.Holds v) hc
      held fun _ _ h => h
  rcases h with ⟨m, hm, hdest, hv⟩ | h | h
  · rcases wire m hm with hm | hm
    · exact .inl ⟨m, hm, hdest, hv⟩
    · obtain ⟨rfl, hn⟩ := hm j hdest
      refine .inr (.inl ?_)
      rw [hc, Function.update_self]
      exact hn v hv
  · exact .inr (hwaits j v h)
  · exact .inr (.inr (hheld j v h))

private theorem Accounts.receive (ha : Accounts name neighbors c done) {i : ι} {line : List UInt8}
    {m : Message}
    {text : String} {v : BroadcastValue} (hread : Reading.ofBytes line = .message m text)
    (hreply : m.inReplyTo? = none) (hcarried : m.carried? = some v)
    (hcame : Came name neighbors (done ++ more) i v)
    (hanswer : m.msgId? = none ∨ ∀ j, m.src ≠ name j) (hmore : ∀ e ∈ more, e = (i, v))
    (hsurvives : v.number.Survives)
    (hnodes : c'.nodes = Function.update c.nodes i ((c.nodes i).receiveBytes line))
    (hwire : ∀ x ∈ c'.wire, x ∈ c.wire)
    (hleft : ∀ x ∈ c.wire, x ∈ c'.wire ∨ (x.carried? = some v ∧ ∀ j, x.dest = name j → j = i)) :
    Accounts name neighbors c' (done ++ more) := by
  have hhome := ha.node i
  have hspreading := hhome.spreading.receive hread hreply hcarried
  rw [receiveBytes_request hhome.spreading.reading hread hreply hcarried] at hnodes hspreading
  generalize hn : ({ c.nodes i with metrics := (c.nodes i).metrics.countReceived } :
    Node broadcast).spawn
    .handle m (.fresh (some (.received m))) = n' at hnodes hspreading
  have hshared : n'.shared = (c.nodes i).shared := by rw [← hn]; rfl
  have htasks : ∀ {t}, t ∈ n'.tasks ↔ t ∈ (c.nodes i).tasks ∨
      t = ⟨(c.nodes i).nextTask, .handle, m, .fresh (some (.received m)), .empty⟩ := by
    rw [← hn]
    exact Node.mem_spawn
  have hforward : ∀ u, toForward u n' = toForward u (c.nodes i) := by
    intro u
    rw [← hn]
    simp [toForward, Node.spawn, share, ahead]
  have hwaits : ∀ u, (v == u) = true → Waits n' u := fun u hu =>
    ⟨_, htasks.mpr (.inr rfl), trivial, by rw [Message.carries_of_carried? hcarried, hu]⟩
  have hdue : ∀ {j u}, Due name c j u → Due name c' j u := by
    refine Due.change hnodes ?_ (fun u h => by rwa [hshared]) fun x hx => (hleft x hx).imp id ?_
    · rintro u ⟨t, ht, h⟩
      exact .inl ⟨t, htasks.mpr (.inl ht), h⟩
    · rintro ⟨hx, hdest⟩ j hj
      exact ⟨hdest j hj, fun u hu => hwaits u (by rwa [Message.carries_of_carried? hx] at hu)⟩
  have hold : ∀ j, Home name neighbors (done ++ more) j (c.nodes j) := fun j =>
    ⟨(ha.node j).spreading,
      fun t ht u hu => ⟨((ha.node j).tasks t ht u hu).1.append, ((ha.node j).tasks t ht u hu).2⟩,
      fun u hu => ((ha.node j).log u hu).append⟩
  have hnew : Home name neighbors (done ++ more) i n' := by
    refine ⟨hspreading, fun t ht u hu => ?_, by rw [hshared]; exact (hold i).log⟩
    rcases htasks.mp ht with ht | rfl
    · exact (hold i).tasks t ht u hu
    · obtain rfl := Option.some.inj (hcarried.symm.trans hu)
      exact ⟨hcame, hanswer⟩
  have hpassed : PassedOn name neighbors c' i n' := by
    intro j u hu hj
    rw [hshared] at hu
    rw [hforward]
    exact (ha.passed i j u hu hj).imp id hdue
  refine ⟨forall_nodes hnodes hnew hold, fun e he => ?_, fun x hx => ?_, fun e he => ?_,
    forall_nodes hnodes hpassed fun k j u hu hj => (ha.passed k j u hu hj).imp id hdue⟩
  · rcases List.mem_append.mp he with he | he
    · exact ha.survives e he
    · rw [hmore e he]
      exact hsurvives
  · obtain ⟨k, j, u, hx, hu⟩ := ha.wire x (hwire x hx)
    exact ⟨k, j, u, hx, hu.append⟩
  · rcases List.mem_append.mp he with he | he
    · exact hdue (ha.arrived e he)
    · rw [hmore e he]
      refine .inr (.inl ?_)
      rw [hnodes, Function.update_self]
      exact hwaits v BEq.rfl

variable [Fintype ι]

private theorem Accounts.step (ha : Accounts name neighbors c done) (i : ι) (now : Nat)
    (stamp : Stamp)
    (task : Nat) : Accounts name neighbors (c.apply name (.step i now stamp task)) done := by
  have hhome := ha.node i
  obtain ⟨hspreading, ms, hp⟩ := hhome.spreading.step now stamp task
  have hnodes : (c.apply name (.step i now stamp task)).nodes =
      Function.update c.nodes i ((c.nodes i).step now stamp task) := rfl
  have hwire : (c.apply name (.step i now stamp task)).wire =
      c.wire ++ ms.filter fun m => ∃ j, m.dest = name j := by
    simp only [Cluster.apply, Cluster.change, hp.written, List.drop_left]
  generalize c.apply name (.step i now stamp task) = c' at hnodes hwire ⊢
  generalize (c.nodes i).step now stamp task = n' at hspreading hp hnodes
  have hdue : ∀ {j v}, Due name c j v → Due name c' j v :=
    Due.change hnodes hp.waits hp.held fun m hm => .inl (by simp [hwire, hm])
  have hnew : Home name neighbors done i n' := by
    refine ⟨hspreading, fun t ht v hv => ?_, fun v hv => ?_⟩
    · obtain ⟨t', ht', hmessage⟩ := hp.tasks t ht
      rw [hmessage] at hv ⊢
      exact hhome.tasks t' ht' v hv
    · rcases hp.log v hv with hv | ⟨t, ht, hu⟩
      · exact hhome.log v hv
      · exact (hhome.tasks t ht v hu).1
  have hpassed : PassedOn name neighbors c' i n' := by
    intro j v hv hj
    rcases hp.newly v hv with hv | hall
    · rcases ha.passed i j v hv hj with hforward | h
      · rcases hp.still v _ hforward with hforward | ⟨m, hm, hdest, hcarries⟩
        · exact .inl hforward
        · refine .inr (.inl ⟨m, ?_, hdest, hcarries⟩)
          rw [hwire]
          exact List.mem_append_right _ (List.mem_filter.mpr ⟨hm, by simpa using ⟨j, hdest⟩⟩)
      · exact .inr (hdue h)
    · exact .inl (hall _ hj)
  refine ⟨forall_nodes hnodes hnew ha.node, ha.survives, fun m hm => ?_,
    fun e he => hdue (ha.arrived e he), forall_nodes hnodes hpassed
      fun k j v hv hj => (ha.passed k j v hv hj).imp id hdue⟩
  rw [hwire] at hm
  rcases List.mem_append.mp hm with hm | hm
  · exact ha.wire m hm
  obtain ⟨hm, hbetween⟩ := List.mem_filter.mp hm
  obtain ⟨j, hj⟩ : ∃ j, m.dest = name j := by simpa using hbetween
  rcases hp.emits m hm with ⟨t, ht, hasked, hdest⟩ | ⟨t, ht, u, hu, d, hd, rfl⟩
  · obtain ⟨u, hbears⟩ := hhome.spreading.bears t ht
    rcases (hhome.tasks t ht u hbears.carried).2 with hnone | hclient
    · simp [hnone] at hasked
    · exact absurd (hdest.symm.trans hj) (hclient j)
  · obtain rfl : d = name j := hj
    exact ⟨i, j, u, by rw [hhome.spreading.name_eq], (hhome.tasks t ht u hu).1.next hd⟩

private theorem change_wire {i : ι} {n : Node broadcast} (h : n.written = (c.nodes i).written) :
    (c.change name i n).wire = c.wire := by
  simp [Cluster.change, h]

private theorem written_receiveBytes {n : Node broadcast} {line : List UInt8} {m : Message}
    {text : String}
    {v : BroadcastValue} (hn : n.verdict = none) (hread : Reading.ofBytes line = .message m text)
    (hreply : m.inReplyTo? = none) (hcarried : m.carried? = some v) :
    (n.receiveBytes line).written = n.written := by
  rw [receiveBytes_request hn hread hreply hcarried]
  rfl

private theorem Accounts.client (ha : Accounts name neighbors c done) {i : ι} {line : List UInt8}
    (hclient : (Move.client i line).FromClient name) :
    Accounts name neighbors (c.apply name (.client i line)) (done ++ asked [.client i line]) := by
  obtain ⟨m, text, v, hread, hsrc, hreply, hcarried, hsurvives⟩ := hclient
  have hasked : asked [.client i line] = [(i, v)] := by
    simp [asked, lineValue?, hread, hcarried]
  have hwire : (c.apply name (.client i line)).wire = c.wire :=
    change_wire (written_receiveBytes (ha.node i).spreading.reading hread hreply hcarried)
  rw [hasked]
  refine ha.receive hread hreply hcarried ⟨i, by simp, .refl⟩ (.inr hsrc)
    (by simp) hsurvives rfl ?_ ?_
  · rw [hwire]
    exact fun _ hx => hx
  · rw [hwire]
    exact fun _ hx => .inl hx

private theorem Accounts.deliver (ha : Accounts name neighbors c done)
    (distinct : Function.Injective name)
    (i : ι) (position : Nat) :
    Accounts name neighbors (c.apply name (.deliver i position)) done := by
  rw [Cluster.apply]
  cases hposition : c.wire[position]? with
  | none => exact ha
  | some m =>
    dsimp only
    split
    · rename_i hdest
      obtain ⟨k, j, v, rfl, hcame⟩ := ha.wire m (List.mem_of_getElem? hposition)
      obtain rfl : j = i := distinct hdest
      have hsurvives : v.number.Survives := by
        obtain ⟨origin, horigin, -⟩ := hcame
        exact ha.survives _ horigin
      have hplain := plain_broadcast hsurvives
      have hcarried := carried?_forward (name k) (name j) v
      have hlegible : (forward (name k) (name j) v).Legible := hplain.legible
      have hread := ofBytes_encode hlegible
      have hreply : (forward (name k) (name j) v).inReplyTo? = none := hplain.inReplyTo?
      have hmsgId : (forward (name k) (name j) v).msgId? = none := hplain.msgId?
      have hwire : (({ c with wire := c.wire.eraseIdx position } : Cluster ι).change name j
          ((c.nodes j).receiveBytes
            (Bench.Session.lineBytes (forward (name k) (name j) v).encode))).wire =
            c.wire.eraseIdx position :=
        change_wire (written_receiveBytes (ha.node j).spreading.reading hread hreply hcarried)
      rw [← List.append_nil done]
      refine ha.receive hread hreply hcarried (by simpa using hcame) (.inl hmsgId)
        (by simp) hsurvives
        rfl (fun x hx => ?_) fun x hx => ?_
      · rw [hwire] at hx
        exact List.mem_of_mem_eraseIdx hx
      · rw [hwire]
        obtain ⟨position', hx⟩ := List.mem_iff_getElem?.mp hx
        by_cases hne : position' = position
        · subst hne
          obtain rfl := Option.some.inj (hposition.symm.trans hx)
          exact .inr ⟨hcarried, fun j' hj' => distinct hj'.symm⟩
        · exact .inl (List.mem_eraseIdx_iff_getElem?.mpr ⟨position', hne, hx⟩)
    · exact ha

private theorem Accounts.apply (ha : Accounts name neighbors c done)
    (distinct : Function.Injective name)
    {move : Move ι} (hmove : move.FromClient name) :
    Accounts name neighbors (c.apply name move) (done ++ asked [move]) := by
  cases move with
  | client i line => exact ha.client hmove
  | step i now stamp task => simpa [asked] using ha.step i now stamp task
  | deliver i position => simpa [asked] using ha.deliver distinct i position

theorem Accounts.run (ha : Accounts name neighbors c done) (distinct : Function.Injective name)
    {moves : List (Move ι)} (clients : ∀ move ∈ moves, move.FromClient name) :
    Accounts name neighbors (c.run name moves) (done ++ asked moves) := by
  induction moves generalizing c done with
  | nil =>
    show Accounts name neighbors c (done ++ [])
    rwa [List.append_nil]
  | cons move moves ih =>
    have hstep := ha.apply distinct (clients move List.mem_cons_self)
    have hrest := ih hstep fun m hm => clients m (List.mem_cons_of_mem _ hm)
    have hasked : asked (move :: moves) = asked [move] ++ asked moves := by
      rw [asked, ← List.singleton_append, List.filterMap_append]
      rfl
    rw [hasked, ← List.append_assoc]
    exact hrest

end Accounts

end ClusterNode.Workload.Broadcast
