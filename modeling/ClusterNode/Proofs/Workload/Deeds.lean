import ClusterNode.Proofs.Node.Conduct
import ClusterNode.Proofs.Workload.Identity
import ClusterNode.Proofs.Workload.Labels

/-!
What is done about ids: a task takes a sequence number from its handler, makes an id from it, and
tells the id. Each number is taken by one task, which makes one id from it and tells that at most
once.
-/

set_option autoImplicit false

namespace ClusterNode.Workload.UniqueIds

/-- What a task does about an id: it takes a sequence number, makes the id, or tells it. -/
inductive Deed where
  | takes (task : Nat)
  | makes (task : Nat) (label : Label)
  | tells (task : Nat) (id : String)

def Deed.task : Deed → Nat
  | .takes task | .makes task _ | .tells task _ => task

def deed? (n : Node uniqueIds) (t : Task uniqueIds.Job) (stamp : Stamp) : Option Deed :=
  match t.stage with
  | .work (.received request) =>
    match (begin n.view n.shared request).1 with
    | .proceed _ => some (.takes t.id)
    | _ => none
  | .work (.numbered node sequence) => some (.makes t.id ⟨node, sequence, stamp⟩)
  | _ => none

def deeds (n : Node uniqueIds) : Node.Event uniqueIds → List Deed
  | .step now stamp id =>
    match n.task? id with
    | some t => (deed? n t stamp).toList ++
        (((n.stepTask now stamp t).written.drop n.written.length).filterMap Message.generated?).map
          (.tells id)
    | none => []
  | _ => []

section History

variable {ι κ : Type} [DecidableEq κ] (handler : ι → κ)

/-- The tasks that have taken a sequence number from a handler, in order. -/
def calls (k : κ) (history : List (ι × Deed)) : List (ι × Nat) :=
  history.filterMap fun
    | (i, .takes task) => if handler i = k then some (i, task) else none
    | _ => none

/-- The ids that were made, and the tasks that they were made for. -/
def made (history : List (ι × Deed)) : List ((ι × Nat) × Label) :=
  history.filterMap fun
    | (i, .makes task label) => some ((i, task), label)
    | _ => none

/-- The ids that were told, and the tasks that told them. -/
def told (history : List (ι × Deed)) : List ((ι × Nat) × String) :=
  history.filterMap fun
    | (i, .tells task id) => some ((i, task), id)
    | _ => none

end History

inductive Acts (n : Node uniqueIds) (t : Task uniqueIds.Job) (stamp : Stamp) : List Deed → Prop
  | takes (request : Message) (identity : Identity) (next : UInt64)
    (stage : t.stage = .work (.received request))
      (known : n.identity = some identity) (shared : n.shared = next)
      (first : begin n.view next request = (.proceed (.numbered identity.id next), next + 1)) :
      Acts n t stamp [.takes t.id]
  | makes (node : String) (sequence : UInt64) (stage : t.stage = .work (.numbered node sequence)) :
      Acts n t stamp [.makes t.id ⟨node, sequence, stamp⟩]
  | tells (id : String) (stage : t.stage = .work (.answering id)) : Acts n t stamp [.tells t.id id]
  | rests (calm : ∀ job, t.stage = .work job →
    (∃ result, step n.view n.shared job = (.finish result, n.shared)) ∨
      ∃ id, job = .answering id) : Acts n t stamp []

section Acts

variable {n : Node uniqueIds} {t : Task uniqueIds.Job} {stamp : Stamp} {o : Outcome uniqueIds}

private theorem begin_cases (view : View) (next : UInt64) (request : Message) :
    (∃ identity, view.identity = some identity ∧
      begin view next request = (.proceed (.numbered identity.id next), next + 1)) ∨
      ∃ result, begin view next request = (.finish result, next) := by
  unfold begin
  cases (request.payload : Except RpcError Payload.Generate) with
  | error e => exact .inr ⟨_, rfl⟩
  | ok p =>
    cases p with
    | generate =>
      cases hidentity : view.identity with
      | none => exact .inr ⟨.error .notInitialized, by simp only [View.identify, hidentity]⟩
      | some identity => exact .inl ⟨identity, rfl, by simp only [View.identify, hidentity]⟩
    | generateOk id => exact .inr ⟨_, rfl⟩

theorem plain_step (view : View) (next : UInt64) (job : Job) : (step view next job).1.Plain := by
  cases job with
  | received request =>
    show (begin view next request).1.Plain
    rcases begin_cases view next request with ⟨_, -, hbegin⟩ | ⟨_, hbegin⟩ <;>
      rw [hbegin] <;> trivial
  | _ => trivial

private theorem generated_of_moves (hm : n.Moves t stamp o) :
    o.lines.filterMap Message.generated? = [] ∨
    ∃ id, t.stage = .work (.answering id) ∧ o.lines.filterMap Message.generated? = [id] := by
  have hother : ∀ {dest payload inReplyTo lines}, n.MayWrite dest payload inReplyTo lines →
      kindOf payload ≠ "generate_ok" → lines.filterMap Message.generated? = [] := by
    intro dest payload inReplyTo lines wrote kind
    refine List.filterMap_eq_nil_iff.mpr fun line hline => ?_
    obtain ⟨hkind, fields, -, rfl⟩ := wrote.line_eq line hline
    cases hid : Message.generated? ⟨n.name, dest, .object (stamped none inReplyTo fields)⟩ with
    | none => rfl
    | some id => exact absurd (hkind.symm.trans (Message.kind_of_generated? hid rfl)) kind
  cases hm with
  | sends job dest payload next shared result lines hs hstep wrote succeeds =>
    cases job with
    | received request =>
      rcases begin_cases n.view n.shared request with ⟨_, -, hbegin⟩ | ⟨_, hbegin⟩ <;>
        cases hbegin.symm.trans hstep
    | _ => cases hstep
  | replies job payload next shared result lines hs hstep wrote succeeds =>
    cases job with
    | received request =>
      rcases begin_cases n.view n.shared request with ⟨_, -, hbegin⟩ | ⟨_, hbegin⟩ <;>
        cases hbegin.symm.trans hstep
    | answering id =>
      cases hstep
      cases wrote with
      | nothing => exact .inl rfl
      | line body stamped =>
        obtain rfl := Except.ok.inj stamped
        exact .inr ⟨id, hs, congrArg Option.toList
          (Message.generated?_message n.name t.message.src none _ id)⟩
    | _ => cases hstep
  | confirms result lines hs wrote succeeds =>
    exact .inl (hother wrote (by rw [kindOf_encode Payload.Init.initOk rfl (by simp)]; decide))
  | reported e lines hs wrote =>
    exact .inl (hother wrote (by rw [kindOf_encode e rfl (by simp)]; decide))
  | _ => exact .inl rfl

theorem deeds_of_moves (hn : n.Numbered) (ht : t ∈ n.tasks) {now : Nat}
    (hchanges : n.Changes t o (n.stepTask now stamp t)) : deeds n (.step now stamp t.id) =
      (deed? n t stamp).toList ++ (o.lines.filterMap Message.generated?).map (.tells t.id) := by
  simp only [deeds, hn.task? ht, hchanges.written, List.drop_left]

theorem acts_of_moves (hm : n.Moves t stamp o) :
    Acts n t stamp ((deed? n t stamp).toList ++
      (o.lines.filterMap Message.generated?).map (.tells t.id)) := by
  rcases generated_of_moves hm with hnone | ⟨id, hs, hid⟩
  · rw [hnone, List.map_nil, List.append_nil]
    cases hs : t.stage with
    | work job =>
      have hcalm : (∃ result, step n.view n.shared job = (.finish result, n.shared)) ∨
        (∃ id, job = .answering id) →
          Acts n t stamp [] := fun h => .rests fun job' hs' =>
            Stage.work.inj (hs.symm.trans hs') ▸ h
      cases job with
      | received request =>
        rcases begin_cases n.view n.shared request with
            ⟨identity, known, hbegin⟩ | ⟨result, hbegin⟩ <;>
          simp only [deed?, hs, hbegin]
        · exact .takes request identity n.shared hs known rfl hbegin
        · exact hcalm (.inl ⟨result, hbegin⟩)
      | numbered node sequence =>
        simp only [deed?, hs]
        exact .makes node sequence hs
      | answering id =>
        simp only [deed?, hs]
        exact hcalm (.inr ⟨id, rfl⟩)
      | ending result =>
        simp only [deed?, hs]
        exact hcalm (.inl ⟨result, rfl⟩)
    | _ =>
      simp only [deed?, hs]
      exact .rests fun job hs' => by simp [hs] at hs'
  · simp only [hid, deed?, hs]
    exact .tells id hs

theorem Acts.task {ds : List Deed} (h : Acts n t stamp ds) : ∀ deed ∈ ds, deed.task = t.id := by
  cases h with
  | rests calm => exact fun _ hdeed => absurd hdeed List.not_mem_nil
  | _ => exact List.forall_mem_singleton.mpr rfl

theorem Acts.idle {ds : List Deed} (h : Acts n t stamp ds) (idle : ∀ job, t.stage ≠ .work job) :
    ds = [] := by
  cases h with
  | takes request identity next hs => exact absurd hs (idle _)
  | makes node sequence hs => exact absurd hs (idle _)
  | tells id hs => exact absurd hs (idle _)
  | rests calm => rfl

end Acts

section Known

variable {ι κ : Type} [DecidableEq κ] (handler : ι → κ) {h more : List (ι × Deed)} {i : ι}
  {identity identity' : Option Identity} {id : Nat} {job : Job}

/-- What is known of a job of a node in view of what was done and of the identity of the node. -/
def Known (h : List (ι × Deed)) (i : ι) (identity : Option Identity) (id : Nat) : Job → Prop
  | .received _ => ∀ x ∈ made h, x.1 ≠ (i, id)
  | .numbered node sequence => (calls handler (handler i) h)[sequence.toNat]? = some (i, id) ∧
      identity.map Identity.id = some node ∧ ∀ x ∈ made h, x.1 ≠ (i, id)
  | .answering text =>
    (∃ label, ((i, id), label) ∈ made h ∧ label.text = text) ∧ ∀ x ∈ told h, x.1 ≠ (i, id)
  | .ending _ => True

def conduct (h : List (ι × Deed)) (i : ι) (identity : Option Identity) : Conduct uniqueIds where
  Seeks _ _ := True
  Fits id _ job := Known handler h i identity id job
  Fails _ _ := True
  refusable _ _ _ _ _ := trivial

theorem calls_append (k : κ) (h more : List (ι × Deed)) :
    calls handler k (h ++ more) = calls handler k h ++ calls handler k more := List.filterMap_append

private theorem made_append (h more : List (ι × Deed)) : made (h ++ more) = made h ++ made more :=
    List.filterMap_append

theorem told_append (h more : List (ι × Deed)) : told (h ++ more) = told h ++ told more :=
    List.filterMap_append

private theorem calls_concat (k : κ) (h : List (ι × Deed)) (i : ι) (deed : Deed) :
    calls handler k (h ++ [(i, deed)]) = calls handler k h ++
      match deed with
      | .takes task => if handler i = k then [(i, task)] else []
      | _ => [] := by
  rw [calls_append]
  cases deed with
  | takes task => by_cases hk : handler i = k <;> simp [calls, hk]
  | _ => rfl

private theorem made_concat (h : List (ι × Deed)) (i : ι) (deed : Deed) :
    made (h ++ [(i, deed)]) = made h ++
      match deed with
      | .makes task label => [((i, task), label)]
      | _ => [] := by
  rw [made_append]
  cases deed <;> rfl

private theorem told_concat (h : List (ι × Deed)) (i : ι) (deed : Deed) :
    told (h ++ [(i, deed)]) = told h ++
      match deed with
      | .tells task id => [((i, task), id)]
      | _ => [] := by
  rw [told_append]
  cases deed <;> rfl

private theorem tag_of_made {x : (ι × Nat) × Label} (hx : x ∈ made h) :
    ∃ deed, (x.1.1, deed) ∈ h ∧ deed.task = x.1.2 := by
  obtain ⟨⟨i, deed⟩, hmem, heq⟩ := List.mem_filterMap.mp hx
  cases deed with
  | makes task label =>
    obtain rfl := Option.some.inj heq
    exact ⟨_, hmem, rfl⟩
  | _ => cases heq

theorem tag_of_told {x : (ι × Nat) × String} (hx : x ∈ told h) :
    ∃ deed, (x.1.1, deed) ∈ h ∧ deed.task = x.1.2 := by
  obtain ⟨⟨i, deed⟩, hmem, heq⟩ := List.mem_filterMap.mp hx
  cases deed with
  | tells task id =>
    obtain rfl := Option.some.inj heq
    exact ⟨_, hmem, rfl⟩
  | _ => cases heq

theorem told_map_deeds (i : ι) (n : Node uniqueIds) (t : Task uniqueIds.Job) (stamp : Stamp)
    (ids : List String) :
    (told (((deed? n t stamp).toList ++ ids.map (Deed.tells t.id)).map
      fun deed => (i, deed))).map Prod.snd = ids := by
  have hnone : told ((deed? n t stamp).toList.map fun deed => (i, deed)) = [] := by
    simp only [deed?]
    split
    · split <;> rfl
    · rfl
    · rfl
  rw [List.map_append, told_append, hnone, List.nil_append]
  induction ids with
  | nil => rfl
  | cons id ids ih => exact congrArg (id :: ·) ih

theorem Known.mono {handler : ι → κ} (hk : Known handler h i identity id job)
    (others : ∀ x ∈ more, (x.1, x.2.task) ≠ (i, id))
    (kept : ∀ a, identity = some a → identity' = some a) :
    Known handler (h ++ more) i identity' id job := by
  have hmade : (∀ x ∈ made h, x.1 ≠ (i, id)) → ∀ x ∈ made (h ++ more), x.1 ≠ (i, id) := by
    intro hnone x hx
    rw [made_append] at hx
    rcases List.mem_append.mp hx with hx | hx
    · exact hnone x hx
    · obtain ⟨deed, hdeed, htask⟩ := tag_of_made hx
      exact fun heq => others _ hdeed (by rw [htask, ← heq])
  cases job with
  | received request => exact hmade hk
  | numbered node sequence =>
    obtain ⟨hcall, hname, hnone⟩ := hk
    refine ⟨?_, ?_, hmade hnone⟩
    · rw [calls_append, List.getElem?_append_left (List.getElem?_eq_some_iff.mp hcall).1, hcall]
    · obtain ⟨a, ha, hid⟩ := Option.map_eq_some_iff.mp hname
      rw [kept a ha, Option.map_some, hid]
  | answering text =>
    obtain ⟨⟨label, hlabel, htext⟩, hnone⟩ := hk
    refine ⟨⟨label, by rw [made_append]; exact List.mem_append_left _ hlabel, htext⟩,
      fun x hx => ?_⟩
    rw [told_append] at hx
    rcases List.mem_append.mp hx with hx | hx
    · exact hnone x hx
    · obtain ⟨deed, hdeed, htask⟩ := tag_of_told hx
      exact fun heq => others _ hdeed (by rw [htask, ← heq])
  | ending result => trivial

end Known

/-- What was done agrees with the identities of the nodes, the numbers of their tasks, and the
counts of the handlers. -/
structure Agrees {ι κ : Type} [DecidableEq κ] (handler : ι → κ) (h : List (ι × Deed))
    (nodes : ι → Node uniqueIds)
    (next : κ → UInt64) : Prop where
  counted : ∀ k, next k = UInt64.ofNat (calls handler k h).length
  origin : ∀ x ∈ made h, (calls handler (handler x.1.1) h)[x.2.sequence.toNat]? = some x.1 ∧
    (nodes x.1.1).identity.map Identity.id = some x.2.node
  begun : ∀ x ∈ made h, x.1.2 < (nodes x.1.1).nextTask
  once : ((made h).map Prod.fst).Nodup
  sources : ∀ x ∈ told h, ∃ label, (x.1, label) ∈ made h ∧ label.text = x.2
  heard : ((told h).map Prod.fst).Nodup

section Agrees

variable {ι κ : Type} [DecidableEq κ] {handler : ι → κ} {h : List (ι × Deed)}
  {nodes nodes' : ι → Node uniqueIds} {next : κ → UInt64} {i : ι} {id : Nat}

theorem Agrees.update [DecidableEq ι] (ha : Agrees handler h nodes next) {n : Node uniqueIds}
    (kept : ∀ a, (nodes i).identity = some a → n.identity = some a)
    (later : (nodes i).nextTask ≤ n.nextTask) :
    Agrees handler h (Function.update nodes i n) next where
  counted := ha.counted
  origin x hx := by
    obtain ⟨hcall, hname⟩ := ha.origin x hx
    refine ⟨hcall, ?_⟩
    by_cases hi : x.1.1 = i
    · rw [hi] at hname ⊢
      obtain ⟨a, hidentity, hid⟩ := Option.map_eq_some_iff.mp hname
      rw [Function.update_self, kept a hidentity, Option.map_some, hid]
    · rw [Function.update_of_ne hi, hname]
  begun x hx := by
    by_cases hi : x.1.1 = i
    · have hbegun := ha.begun x hx
      rw [hi] at hbegun ⊢
      rw [Function.update_self]
      exact Nat.lt_of_lt_of_le hbegun later
    · rw [Function.update_of_ne hi]
      exact ha.begun x hx
  once := ha.once
  sources := ha.sources
  heard := ha.heard

private theorem Agrees.takes (ha : Agrees handler h nodes next) (i : ι) (id : Nat) :
    Agrees handler (h ++ [(i, .takes id)]) nodes
      (Function.update next (handler i) (next (handler i) + 1)) := by
  constructor <;> simp only [calls_concat, made_concat, told_concat, List.append_nil]
  case counted =>
    intro k
    by_cases hk : handler i = k
    · subst hk
      rw [Function.update_self, ha.counted]
      simp
    · rw [Function.update_of_ne (Ne.symm hk), ha.counted, if_neg hk, List.append_nil]
  case origin =>
    intro x hx
    obtain ⟨hcall, hname⟩ := ha.origin x hx
    exact ⟨by rw [List.getElem?_append_left (List.getElem?_eq_some_iff.mp hcall).1, hcall], hname⟩
  case begun => exact ha.begun
  case once => exact ha.once
  case sources => exact ha.sources
  case heard => exact ha.heard

private theorem Agrees.makes (ha : Agrees handler h nodes next) {node : String} {sequence : UInt64}
    (hk : Known handler h i (nodes i).identity id (.numbered node sequence))
    (hid : id < (nodes i).nextTask)
    (stamp : Stamp) : Agrees handler
      (h ++ [(i, .makes id ⟨node, sequence, stamp⟩)]) nodes next := by
  obtain ⟨hcall, hname, hnone⟩ := hk
  constructor <;> simp only [calls_concat, made_concat, told_concat, List.append_nil]
  case counted => exact ha.counted
  case origin =>
    exact List.forall_mem_append.mpr ⟨ha.origin, List.forall_mem_singleton.mpr ⟨hcall, hname⟩⟩
  case begun => exact List.forall_mem_append.mpr ⟨ha.begun, List.forall_mem_singleton.mpr hid⟩
  case once => exact nodup_map_concat ha.once hnone
  case sources =>
    intro x hx
    obtain ⟨label, hlabel, htext⟩ := ha.sources x hx
    exact ⟨label, List.mem_append_left _ hlabel, htext⟩
  case heard => exact ha.heard

private theorem Agrees.tells (ha : Agrees handler h nodes next) {text : String}
    (hk : Known handler h i (nodes i).identity id (.answering text)) :
    Agrees handler (h ++ [(i, .tells id text)]) nodes next := by
  obtain ⟨hsource, hnone⟩ := hk
  constructor <;> simp only [calls_concat, made_concat, told_concat, List.append_nil]
  case counted => exact ha.counted
  case origin => exact ha.origin
  case begun => exact ha.begun
  case once => exact ha.once
  case sources =>
    exact List.forall_mem_append.mpr ⟨ha.sources, List.forall_mem_singleton.mpr hsource⟩
  case heard => exact nodup_map_concat ha.heard hnone

theorem Agrees.acts (ha : Agrees handler h nodes next) {n : Node uniqueIds} {t : Task uniqueIds.Job}
    {stamp : Stamp}
    {o : Outcome uniqueIds} {ds : List Deed} (hacts : Acts n t stamp ds) (hm : n.Moves t stamp o)
    (shared : n.shared = next (handler i)) (begun : t.id < (nodes i).nextTask)
    (known : ∀ job, t.stage = .work job → Known handler h i (nodes i).identity t.id job) :
    Agrees handler (h ++ ds.map fun deed => (i, deed)) nodes
      (Function.update next (handler i) o.shared) := by
  have hsame : o.shared = n.shared → Function.update next (handler i) o.shared = next :=
      fun hshared => by
    rw [hshared, shared, Function.update_eq_self]
  cases hacts with
  | takes request identity count hs hidentity hcount first =>
    obtain rfl : next (handler i) = count := shared.symm.trans hcount
    obtain ⟨-, hshared, -⟩ :=
      hm.of_work hs (show begin n.view n.shared request = _ by rw [hcount]; exact first)
    rw [hshared]
    exact ha.takes i t.id
  | makes node sequence hs =>
    obtain ⟨-, hshared, -⟩ := hm.of_work hs rfl
    rw [hsame hshared]
    exact ha.makes (known _ hs) begun stamp
  | tells id hs =>
    obtain ⟨-, hshared, -⟩ := hm.of_work hs rfl
    rw [hsame hshared]
    exact ha.tells (known _ hs)
  | rests calm =>
    have hshared : o.shared = n.shared := by
      rcases hm.shared_cases with ⟨job, hs, hshared⟩ | ⟨-, hshared⟩
      · rcases calm job hs with ⟨result, hstep⟩ | ⟨id, rfl⟩
        · exact hshared.trans (congrArg Prod.snd hstep)
        · exact hshared
      · exact hshared
    rw [hsame hshared, List.map_nil, List.append_nil]
    exact ha

theorem Agrees.allows (ha : Agrees handler h nodes next) {n : Node uniqueIds}
    {t : Task uniqueIds.Job} {stamp : Stamp}
    {ds : List Deed} (hacts : Acts n t stamp ds) (shared : n.shared = next (handler i))
    (known : ∀ job, t.stage = .work job → Known handler h i n.identity t.id job)
    (few : (calls handler (handler i) (h ++ ds.map fun deed => (i, deed))).length ≤ 2 ^ 64) :
    ∀ job, t.stage = .work job →
      (conduct handler (h ++ ds.map fun deed => (i, deed)) i n.identity).Allows t.id t.message stamp
        (uniqueIds.step n.view n.shared job).1 := by
  intro job hs
  cases hacts with
  | takes request identity count hs' hidentity hcount first =>
    obtain rfl := Stage.work.inj (hs'.symm.trans hs)
    show (conduct _ _ _ _).Allows _ _ _ (begin n.view n.shared request).1
    rw [hcount, first]
    simp only [List.map_singleton, calls_concat, if_true, List.length_append,
      List.length_singleton] at few
    refine ⟨?_, by rw [hidentity, Option.map_some], ?_⟩
    · simp only [List.map_singleton, calls_concat, if_true]
      rw [← hcount, shared, ha.counted, UInt64.toNat_ofNat_of_lt' few]
      exact List.getElem?_concat_length
    · simp only [List.map_singleton, made_concat, List.append_nil]
      exact known _ hs
  | makes node sequence hs' =>
    obtain rfl := Stage.work.inj (hs'.symm.trans hs)
    obtain ⟨-, -, hnone⟩ := known _ hs
    refine ⟨⟨⟨node, sequence, stamp⟩, by simp [made_concat], rfl⟩, fun x hx => ?_⟩
    simp only [List.map_singleton, told_concat, List.append_nil] at hx
    obtain ⟨label, hlabel, -⟩ := ha.sources x hx
    exact hnone _ hlabel
  | tells id hs' =>
    obtain rfl := Stage.work.inj (hs'.symm.trans hs)
    exact ⟨⟨_, rfl⟩, fun _ _ => trivial⟩
  | rests calm =>
    rcases calm job hs with ⟨result, hstep⟩ | ⟨id, rfl⟩
    · rw [show uniqueIds.step n.view n.shared job = _ from hstep]
      cases result <;> trivial
    · exact ⟨⟨_, rfl⟩, fun _ _ => trivial⟩

/-- All ids that were made are different, if nodes with different handlers bear different names. -/
theorem Agrees.nodup (ha : Agrees handler h nodes next)
    (names : ∀ i j a b, handler i ≠ handler j → (nodes i).identity = some a →
      (nodes j).identity = some b →
      a.id ≠ b.id) : ((made h).map fun x => x.2.text).Nodup := by
  refine (List.nodup_map_iff_inj_on ha.once.of_map).mpr fun x hx y hy htext => ?_
  obtain ⟨hnode, hsequence⟩ := Label.of_text htext
  obtain ⟨hcall, hname⟩ := ha.origin x hx
  obtain ⟨hcall', hname'⟩ := ha.origin y hy
  have hhandler : handler x.1.1 = handler y.1.1 := by
    by_contra hne
    obtain ⟨a, ha', hid⟩ := Option.map_eq_some_iff.mp hname
    obtain ⟨b, hb, hid'⟩ := Option.map_eq_some_iff.mp hname'
    exact names x.1.1 y.1.1 a b hne ha' hb (by rw [hid, hid', hnode])
  rw [hsequence, hhandler, hcall'] at hcall
  exact List.inj_on_of_nodup_map ha.once hx hy (Option.some.inj hcall).symm

end Agrees

end ClusterNode.Workload.UniqueIds
