import ClusterNode.Proofs.Counter.Cluster

/-!
The accounts of a cluster of counter nodes: for each node what its tasks are doing, for each message
under way what it is about, and for each key the additions that make up its value. What happens to a
node keeps them.
-/

set_option autoImplicit false

namespace ClusterNode.Workload.Counter

open ClusterNode.Counter (Account Add keyOf)

variable {ι : Type} [DecidableEq ι] {l : Layout ι}

/-- A cluster that has kept account of every addition, from given values on. -/
structure Accounts (c : Cluster l) (initial : ι → Int) : Prop where
  home : ∀ i, Home (c.sight i) (l.name i) (c.nodes i) (c.history i)
  serving : c.service.mode = .serve
  distinct : (c.adds.map Addition.tag).Nodup
  adds : ∀ a ∈ c.adds, a.task < (c.nodes a.node).nextTask ∧ a.request.src ≠ l.service ∧
    a.request.kind = "add"
  once : (c.applied ++ c.swapping).Nodup
  known : ∀ tag ∈ c.applied ++ c.swapping, ∃ a ∈ c.adds, a.tag = tag
  value : ∀ i, c.value i = initial i + c.total i
  requests : ∀ p ∈ c.requests, c.Sends p
  replies : ∀ p ∈ c.replies, Cluster.Returns l p
  answers : ∀ p ∈ c.answers, c.Reports p

section Event

variable {c c' : Cluster l} {initial : ι → Int} {i : ι} {e : Node.Event (counter (l.settings i))}

theorem forall_event {P : (j : ι) → Node (counter (l.settings j)) → History → Prop}
    (own : P i ((c.nodes i).apply e) (c.history i ++ (c.nodes i).occurrences e))
    (others : ∀ j, j ≠ i → P j (c.nodes j) (c.history j)) (j : ι) :
    P j ((c.event i e).nodes j) ((c.event i e).history j) := by
  by_cases hj : j = i
  · subst hj
    simpa only [Cluster.event, Function.update_self] using own
  · simpa only [Cluster.event, Function.update_of_ne hj] using others j hj

private theorem mem_history_event {o : Occurrence} {j : ι} (ho : o ∈ c.history j) :
    o ∈ (c.event i e).history j :=
  forall_event (P := fun j _ h => ∀ o ∈ c.history j, o ∈ h)
    (fun _ ho => List.mem_append_left _ ho) (fun _ _ _ ho => ho) j o ho

private theorem nextTask_le_event (j : ι) :
    (c.nodes j).nextTask ≤ ((c.event i e).nodes j).nextTask :=
  forall_event (P := fun j n _ => (c.nodes j).nextTask ≤ n.nextTask) (Node.nextTask_le_apply _ e)
    (fun _ _ => Nat.le_refl _) j

private theorem Accounts.gone_event (ha : Accounts c initial) {tag : Tag ι}
    (known : ∃ a ∈ c.adds, a.tag = tag)
    (gone : c.Gone tag) : (c.event i e).Gone tag := by
  obtain ⟨a, hadd, rfl⟩ := known
  have hlt := (ha.adds a hadd).1
  have hall := forall_event (c := c) (i := i) (e := e)
    (P := fun j n _ => ∀ x ∈ n.tasks, x.id < (c.nodes j).nextTask →
      ∃ y ∈ (c.nodes j).tasks, y.id = x.id)
    (fun x hx => Node.exists_of_mem_apply (ha.home i).correlated.numbered hx)
    fun _ _ x hx _ => ⟨x, hx, rfl⟩
  intro x hx hid
  obtain ⟨y, hy, hyid⟩ := hall a.node x hx (hid ▸ hlt)
  exact gone y hy (hyid.trans hid)

section After

variable {request : Option (Parcel ι)} {taken : Option (Addition ι)}
  {replies answers : List (Parcel ι)}

/-- A cluster after something has happened to a node, which has taken on at most one addition, has
sent at most one request, and has answered some. -/
structure After (c c' : Cluster l) (i : ι) (e : Node.Event (counter (l.settings i)))
    (request : Option (Parcel ι)) (taken : Option (Addition ι))
      (replies answers : List (Parcel ι)) :
    Prop where
  nodes : c'.nodes = (c.event i e).nodes
  service : c'.service = c.service
  requests : c'.requests = c.requests ++ request.toList
  replies : c'.replies = replies
  history : c'.history = (c.event i e).history
  adds : c'.adds = c.adds ++ taken.toList
  applied : c'.applied = c.applied
  answers : c'.answers = c.answers ++ answers
  fresh : ∀ p ∈ request, Cluster.Fresh c c' i p
  comes : ∀ a ∈ taken, Cluster.Comes c c' a

private theorem After.mem_adds (h : After c c' i e request taken replies answers) {a : Addition ι}
    (ha : a ∈ c.adds) : a ∈ c'.adds := by
  rw [h.adds]
  exact List.mem_append_left _ ha

private theorem After.swapping (h : After c c' i e request taken replies answers) :
    c'.applied ++ c'.swapping = c.applied ++ c.swapping ++ swaps request.toList := by
  rw [Cluster.swapping, h.applied, h.requests, swaps_append, List.append_assoc]
  rfl

private theorem After.spent (h : After c c' i e request taken replies answers) {tag : Tag ι}
    (hspent : tag ∈ c'.applied ++ c'.swapping) :
    tag ∈ c.applied ++ c.swapping ∨ ∃ p ∈ request, p.tag = tag := by
  rw [h.swapping] at hspent
  exact (List.mem_append.mp hspent).imp_right mem_swaps_toList

private theorem After.present (h : After c c' i e request taken replies answers) (j : ι)
    (task : Nat) :
    (c'.account j task).present = (c.account j task).present := by
  simp only [Cluster.account, h.service]

private theorem After.ages (h : After c c' i e request taken replies answers) {j : ι} (hj : j ≠ i)
    (task : Nat) :
    (c.account j task).Ages (c'.account j task) where
  present hpresent := h.present j task ▸ hpresent
  spent hspent := by
    rcases h.spent hspent with hold | ⟨p, hp, htag⟩
    · exact hold
    · exact absurd ((Prod.mk.inj htag).1.symm.trans (h.fresh p hp).node) hj
  landed hlanded := by
    show (j, task) ∈ c'.applied
    rw [h.applied]
    exact hlanded

private theorem After.unknown (h : After c c' i e request taken replies answers)
    (ha : Accounts c initial) :
    ∀ a ∈ taken, a.tag ∉ c.adds.map Addition.tag := by
  intro a htaken hold
  obtain ⟨b, hb, htag⟩ := List.mem_map.mp hold
  obtain ⟨hnode, htask⟩ := Prod.mk.inj htag
  have hlt := (ha.adds b hb).1
  have hnext := (h.comes a htaken).task
  rw [hnode] at hlt
  omega

private theorem After.distinct (h : After c c' i e request taken replies answers)
    (ha : Accounts c initial) :
    (c'.adds.map Addition.tag).Nodup := by
  rw [h.adds, List.map_append]
  refine List.nodup_append.mpr ⟨ha.distinct, by cases taken <;> simp, ?_⟩
  rintro tag htag _ htaken rfl
  obtain ⟨a, ha', rfl⟩ := List.mem_map.mp htaken
  exact h.unknown ha a (by simpa using ha') htag

private theorem After.once (h : After c c' i e request taken replies answers)
    (ha : Accounts c initial) :
    (c'.applied ++ c'.swapping).Nodup := by
  rw [h.swapping]
  refine List.nodup_append.mpr ⟨ha.once, nodup_swaps_toList request, ?_⟩
  rintro tag hold _ hnew rfl
  obtain ⟨p, hp, rfl⟩ := mem_swaps_toList hnew
  exact (h.fresh p hp).unspent hold

private theorem After.value (h : After c c' i e request taken replies answers)
    (ha : Accounts c initial) (j : ι) :
    c'.value j = initial j + c'.total j := by
  have hvalue : c'.value j = c.value j := by simp only [Cluster.value, h.service]
  have hnone : (taken.toList.filter fun a => a.node = j ∧ a.tag ∈ c.applied) = [] := by
    refine List.filter_eq_nil_iff.mpr fun a htaken happ => ?_
    obtain ⟨b, hb, htag⟩ := ha.known a.tag (List.mem_append_left _ (by simp_all))
    exact h.unknown ha a (by simpa using htaken) (List.mem_map.mpr ⟨b, hb, htag⟩)
  have htotal : c'.total j = c.total j := by
    simp only [Cluster.total, h.adds, h.applied, List.filter_append, hnone, List.append_nil]
  rw [hvalue, htotal]
  exact ha.value j

private theorem After.reports (h : After c c' i e request taken replies answers)
    (ha : Accounts c initial)
    {p : Parcel ι} (hp : c.Reports p) : c'.Reports p := by
  refine hp.mono (fun _ => h.mem_adds) (fun _ happlied => h.applied ▸ happlied)
    fun hknown hunspent hgone => ⟨fun hspent => ?_, ?_⟩
  · rcases h.spent hspent with hold | ⟨q, hq, htag⟩
    · exact hunspent hold
    · exact (h.fresh q hq).live (htag ▸ hgone)
  · have hover := ha.gone_event (i := i) (e := e) hknown hgone
    simpa only [Cluster.Gone, h.nodes] using hover

end After

private theorem Accounts.event (ha : Accounts c initial) (i : ι)
    (e : Node.Event (counter (l.settings i)))
    (request : Option (Parcel ι)) (taken : Option (Addition ι)) (replies answers : List (Parcel ι))
    (hc : c' = { c.event i e with
      requests := c.requests ++ request.toList
      replies
      adds := c.adds ++ taken.toList
      answers := c.answers ++ answers })
    (own : Home (c'.sight i) (l.name i) ((c.nodes i).apply e)
      (c.history i ++ (c.nodes i).occurrences e))
    (fresh : ∀ p ∈ request, Cluster.Fresh c c' i p) (comes : ∀ a ∈ taken, Cluster.Comes c c' a)
    (fewer : ∀ p ∈ replies, p ∈ c.replies) (reports : ∀ p ∈ answers, c'.Reports p) :
    Accounts c' initial := by
  have h : After c c' i e request taken replies answers := by
    refine ⟨?_, ?_, ?_, ?_, ?_, ?_, ?_, ?_, fresh, comes⟩ <;> rw [hc] <;> rfl
  clear hc
  refine ⟨?_, h.service ▸ ha.serving, h.distinct ha, ?_, h.once ha, ?_, h.value ha, ?_, ?_, ?_⟩
  · rw [h.nodes, h.history]
    refine forall_event (P := fun j n h => Home (c'.sight j) (l.name j) n h) own fun j hj =>
      (ha.home j).ages (fun _ _ _ hadd => h.mem_adds hadd) (h.ages hj) fun task id reply hreply =>
        .inl ?_
    exact ⟨fewer _ (h.replies ▸ hreply.1), hreply.2⟩
  · intro a hadd
    rw [h.adds] at hadd
    rcases List.mem_append.mp hadd with hadd | hadd
    · obtain ⟨hlt, hrest⟩ := ha.adds a hadd
      refine ⟨Nat.lt_of_lt_of_le hlt ?_, hrest⟩
      rw [h.nodes]
      exact nextTask_le_event a.node
    · have hcomes := comes a (by simpa using hadd)
      exact ⟨hcomes.below, hcomes.outside, hcomes.kind⟩
  · intro tag hspent
    have hknown : ∃ a ∈ c.adds, a.tag = tag := by
      rcases h.spent hspent with hold | ⟨p, hp, rfl⟩
      · exact ha.known tag hold
      · exact (fresh p hp).known
    obtain ⟨a, hadd, htag⟩ := hknown
    exact ⟨a, h.mem_adds hadd, htag⟩
  · intro p hp
    rw [h.requests] at hp
    rcases List.mem_append.mp hp with hp | hp
    · refine (ha.requests p hp).mono ?_ (fun _ => h.mem_adds) fun hpresent => ?_
      · rw [h.history]
        exact fun _ ho => mem_history_event ho
      · rwa [h.present]
    · exact (fresh p (by simpa using hp)).sends
  · intro p hp
    rw [h.replies] at hp
    exact ha.replies p (fewer p hp)
  · intro p hp
    rw [h.answers] at hp
    rcases List.mem_append.mp hp with hp | hp
    · exact h.reports ha (ha.answers p hp)
    · exact reports p hp

end Event

section Moves

variable {c : Cluster l} {initial : ι → Int}

private theorem Accounts.unspent_nextTask (ha : Accounts c initial) (i : ι) :
    ¬ (c.account i (c.nodes i).nextTask).spent := by
  intro hspent
  obtain ⟨a, hadd, htag⟩ := ha.known _ hspent
  obtain ⟨hnode, htask⟩ := Prod.mk.inj htag
  have hlt := (ha.adds a hadd).1
  rw [hnode] at hlt
  omega

theorem Accounts.client (ha : Accounts c initial) {i : ι} {line : List UInt8}
    (hclient : (Move.client i line).FromClient l) :
    Accounts (c.apply (.client i line)) initial := by
  obtain ⟨m, text, delta, hread, hsrc, hreply, hpayload⟩ := hclient
  have hline : lineAdd? line = some (m, delta) := by simp only [lineAdd?, hread, hpayload]
  obtain ⟨fields, hbody⟩ := Reading.body_of_ofBytes hread
  have hadds : (c.apply (.client i line)).adds = c.adds ++
      [⟨i, (c.nodes i).nextTask, m, delta⟩] := by
    simp only [Cluster.apply, hline, Option.map_some, Option.toList_some]
  refine ha.event i (.line line) none (some ⟨i, (c.nodes i).nextTask, m, delta⟩) c.replies []
    (by simp [Cluster.apply, Cluster.event, hline]) ?_ (by simp) ?_ (fun _ h => h) (by simp)
  · refine (ha.home i).client hread hreply hpayload ⟨fun u request d h => ?_, fun _ _ => .refl _,
      fun _ _ _ h => h⟩ ?_ (ha.unspent_nextTask i)
    · show _ ∈ (c.apply (.client i line)).adds
      rw [hadds]
      exact List.mem_append_left _ h
    · show _ ∈ (c.apply (.client i line)).adds
      rw [hadds]
      exact List.mem_append_right _ List.mem_cons_self
  · intro a ha'
    obtain rfl := Option.some.inj ha'
    have hnode : (c.apply (.client i line)).nodes i = (c.nodes i).receiveBytes line :=
      Function.update_self _ _ _
    refine ⟨rfl, ?_, hsrc, kind_of_add hpayload hbody⟩
    rw [hnode, receiveBytes_add (ha.home i).reading hread hreply hpayload]
    exact Nat.lt_succ_self _

theorem Accounts.deliver (ha : Accounts c initial) (i : ι) (position : Nat) :
    Accounts (c.apply (.deliver i position)) initial := by
  cases hp : c.replies[position]? with
  | none => simpa only [Cluster.apply, hp] using ha
  | some p =>
    by_cases hdest : p.message.dest = l.name i
    · have hmem : p ∈ c.replies := List.mem_of_getElem? hp
      have hreturns := ha.replies p hmem
      obtain ⟨id, hid⟩ := Option.isSome_iff_exists.mp hreturns.number
      have hnode : p.node = i := l.distinct (hreturns.dest.symm.trans hdest)
      subst hnode
      have happly : c.apply (.deliver p.node position) =
          { c.event p.node (.line (Bench.Session.lineBytes p.message.encode)) with
            replies := c.replies.eraseIdx position } := by
        simp only [Cluster.apply, hp, hdest, if_true]
      refine ha.event p.node (.line (Bench.Session.lineBytes p.message.encode)) none none
        (c.replies.eraseIdx position) [] (by simp [happly, Cluster.event]) ?_ (by simp) (by simp)
        (fun _ h => List.mem_of_mem_eraseIdx h) (by simp)
      rw [happly]
      exact (ha.home p.node).deliver (ofBytes_encode hreturns.legible) hid ⟨hmem, hid⟩
        ⟨fun _ _ _ h => h, fun _ _ => .refl _,
          fun _ _ _ h => ⟨List.mem_of_mem_eraseIdx h.1, h.2⟩⟩
    · simpa only [Cluster.apply, hp, hdest, if_false] using ha

section Steps

variable {i : ι} {now : Nat} {stamp : Stamp} {task : Nat}

private theorem sight_step (hrequests : (c.apply (.step i now stamp task)).requests = c.requests)
    (j : ι) :
    (c.apply (.step i now stamp task)).sight j = c.sight j := by
  have haccount : (c.apply (.step i now stamp task)).account j = c.account j := by
    funext u
    simp only [Cluster.account, Cluster.swapping, hrequests]
    rfl
  simp only [Cluster.sight, haccount]
  rfl

private theorem Accounts.stepAnswers (ha : Accounts c initial) {answers : List (Parcel ι)}
    (hwritten : c.written i now stamp task = answers)
    (outside : ∀ p ∈ answers, p.message.dest ≠ l.service)
    (home : Home (c.sight i) (l.name i) ((c.nodes i).step now stamp task)
      (c.history i ++ (c.nodes i).occurrences (.step now stamp task)))
    (reports : ∀ p ∈ answers, (c.apply (.step i now stamp task)).Reports p) :
    Accounts (c.apply (.step i now stamp task)) initial := by
  have hnone : (answers.filter fun p => p.message.dest = l.service) = [] := by
    simpa using outside
  have hall : (answers.filter fun p => p.message.dest ≠ l.service) = answers := by
    simpa using outside
  have hrequests : (c.apply (.step i now stamp task)).requests = c.requests := by
    simp only [Cluster.apply, hwritten, hnone, List.append_nil]
  refine ha.event i (.step now stamp task) none none c.replies answers ?_ ?_ (by simp) (by simp)
    (fun _ h => h) reports
  · simp only [Cluster.apply, Cluster.event, hwritten, hnone, hall, Option.toList_none]
    simp
  · rw [sight_step hrequests]
    exact home

private theorem Accounts.stepAsks (ha : Accounts c initial) {request : Message} {delta : Int64}
    {call : StoreCall} {id : UInt64}
    (hwritten : c.written i now stamp task =
      [⟨i, task, KvClient.message call (l.name i) l.service id⟩])
    (live : ¬ c.Gone (i, task)) (adds : ⟨i, task, request, delta⟩ ∈ c.adds)
    (unspent : ¬ (c.account i task).spent)
    (asks : (addition (l.settings i) (l.name i) delta).Asks (c.account i task) call)
    (requested : .requested task id (KvClient.message call (l.name i) l.service id) ∈
      c.history i ++ (c.nodes i).occurrences (.step now stamp task))
    (home : ∀ σ, (c.sight i).Shifts σ (some task) → (σ.account task).Awaits call →
      Home σ (l.name i) ((c.nodes i).step now stamp task)
        (c.history i ++ (c.nodes i).occurrences (.step now stamp task))) :
    Accounts (c.apply (.step i now stamp task)) initial := by
  have hrequests : (c.apply (.step i now stamp task)).requests =
      c.requests ++ [⟨i, task, KvClient.message call (l.name i) l.service id⟩] := by
    simp [Cluster.apply, hwritten]
  have hspent : ∀ u, ((c.apply (.step i now stamp task)).account i u).spent →
    (c.account i u).spent ∨
      u = task ∧ (KvClient.message call (l.name i) l.service id).kind = "cas" := by
    intro u hu
    simp only [Cluster.account, Cluster.swapping, hrequests, swaps_append,
      ← List.append_assoc] at hu
    rcases List.mem_append.mp hu with hu | hu
    · exact .inl hu
    · obtain ⟨p, hp, htag⟩ := List.mem_map.mp hu
      obtain ⟨hp, hkind⟩ := List.mem_filter.mp hp
      rw [List.mem_singleton.mp hp] at hkind htag
      exact .inr ⟨(Prod.mk.inj htag).2.symm, of_decide_eq_true hkind⟩
  have hawaits : ((c.apply (.step i now stamp task)).account i task).Awaits call := by
    cases asks with
    | read =>
      intro h
      rcases hspent task h with h | ⟨-, hkind⟩
      · exact unspent h
      · rw [KvClient.kind_message] at hkind
        exact absurd (show "read" = "cas" from hkind) (by decide)
    | swap hsum hfound => trivial
  have hsends : (c.apply (.step i now stamp task)).Sends
      ⟨i, task, KvClient.message call (l.name i) l.service id⟩ := by
    refine ⟨call, id, rfl, ?_, _, adds, rfl, asks.mono fun h => h⟩
    have hhistory : (c.apply (.step i now stamp task)).history i =
        c.history i ++ (c.nodes i).occurrences (.step now stamp task) := Function.update_self _ _ _
    rw [hhistory]
    exact requested
  refine ha.event i (.step now stamp task)
    (some ⟨i, task, KvClient.message call (l.name i) l.service id⟩) none c.replies []
    (by simp [Cluster.apply, Cluster.event, hwritten])
    (home _ ⟨fun _ _ _ h => h, fun u hu => ⟨fun h => h, ?_, fun h => h⟩, fun _ _ _ h => h⟩ hawaits)
      ?_
    (by simp) (fun _ h => h) (by simp)
  · exact fun h => (hspent u h).resolve_right fun h => hu (congrArg some h.1.symm)
  · intro p hp
    obtain rfl := Option.some.inj hp
    exact ⟨rfl, live, unspent, ⟨_, adds, rfl⟩, hsends⟩

end Steps

private theorem plain_addOk : Payload.Plain Payload.Counter.addOk "add_ok" :=
  ⟨[], rfl, by simp⟩

private theorem answers_message {α : Type} [Payload α] {answer : α} {tag : String}
    {request : Message} {id : UInt64}
    (src : String) (hplain : Payload.Plain answer tag) (asked : request.msgId? = some id)
    (hkind : tag = "error" ∨ tag = request.kind ++ "_ok") :
    (Payload.Plain.message answer src request.src none (some id)).Answers request where
  dest := rfl
  number := (answers?_insert _ _ id _).trans asked.symm
  kind := by rwa [hplain.kind]

/-- A step of a task keeps the accounts, as long as the numbers of its node do not run out. -/
theorem Accounts.step (ha : Accounts c initial) (i : ι) (now : Nat) (stamp : Stamp) (task : Nat)
    (few : ((c.apply (.step i now stamp task)).history i).takenIds.length < UInt64.size) :
    Accounts (c.apply (.step i now stamp task)) initial := by
  have hhistory : (c.apply (.step i now stamp task)).history i =
      c.history i ++ (c.nodes i).occurrences (.step now stamp task) := Function.update_self _ _ _
  rw [hhistory] at few
  obtain ⟨ms, hwritten, hlive, hemits⟩ := (ha.home i).step now stamp task few
  have hparcels : c.written i now stamp task = ms.map fun m => ⟨i, task, m⟩ := by
    rw [Cluster.written, hwritten, List.drop_left]
  cases hemits with
  | nothing home => exact ha.stepAnswers hparcels (by simp) home (by simp)
  | question adds unspent asks requested home =>
    refine ha.stepAsks hparcels (fun hgone => ?_) adds unspent asks requested home
    rcases hlive with hnone | ⟨x, hx, hid⟩
    · cases hnone
    · exact hgone x hx hid
  | @success request delta id adds payload asked landed home =>
    obtain ⟨-, hsrc, hkind⟩ := ha.adds _ adds
    have hanswers : (Payload.Plain.message Payload.Counter.addOk (l.name i) request.src none
        (some id)).Answers request := by
      refine answers_message _ plain_addOk asked (.inr ?_)
      rw [show request.kind = "add" from hkind]
      rfl
    refine ha.stepAnswers hparcels ?_ home ?_
    · rintro p hp
      rw [List.mem_singleton.mp hp]
      exact hsrc
    · intro p hp
      rw [List.mem_singleton.mp hp]
      exact ⟨_, adds, rfl, hanswers, Option.isSome_iff_exists.mpr ⟨id, asked⟩,
        .inl ⟨plain_addOk.kind, landed⟩⟩
  | @failure request delta id e adds asked excused gone home =>
    obtain ⟨-, hsrc, hkind⟩ := ha.adds _ adds
    have hdest : (Payload.Plain.message e (l.name i) request.src none (some id)).dest ≠ l.service :=
      hsrc
    have hsight : (c.apply (.step i now stamp task)).sight i = c.sight i :=
      sight_step (by simp [Cluster.apply, hparcels, hdest]) i
    have hnode : (c.apply (.step i now stamp task)).nodes i = (c.nodes i).step now stamp task :=
      Function.update_self _ _ _
    refine ha.stepAnswers hparcels ?_ home ?_
    · intro p hp
      rw [List.mem_singleton.mp hp]
      exact hsrc
    · intro p hp
      rw [List.mem_singleton.mp hp]
      refine ⟨_, adds, rfl, answers_message _ e.plain asked (.inl rfl),
        Option.isSome_iff_exists.mpr ⟨id, asked⟩, .inr ⟨_, e.rpcError?_message, ?_⟩⟩
      rw [ErrorCode.toInt64_ofInt64]
      refine excused.imp (fun h => h) fun hunspent => ⟨fun h => ?_, ?_⟩
      · have hspent : (((c.apply (.step i now stamp task)).sight i).account task).spent := h
        rw [hsight] at hspent
        exact hunspent hspent
      · show ∀ x ∈ ((c.apply (.step i now stamp task)).nodes i).tasks, x.id ≠ task
        rw [hnode]
        exact gone

end Moves

end ClusterNode.Workload.Counter
