import ClusterNode.Proofs.Counter.Accounts
import Mathlib.Data.List.Perm.Basic

/-!
What happens outside of the nodes of a cluster keeps its accounts: the service answers a request,
and requests and replies are lost.
-/

set_option autoImplicit false

namespace ClusterNode.Workload.Counter

open ClusterNode.Counter (Account Add keyOf keyOf_injective)

/-- What a store does with a call of an addition: it tells the value, takes the exact sum, or
refuses. -/
inductive Served (a : Add) (store : KvStore) : StoreCall → StoreAnswer → KvStore → Bool → Prop
  | read : Served a store (.read a.key) (.ok (Dictionary.get? a.key store)) store false
  | swapped {current next : Int64}
      (sum : next.toInt = ((Dictionary.get? a.key store).getD 0).toInt + a.delta.toInt) :
      Served a store (.cas a.key current next true) (.ok none)
        (Dictionary.insert a.key next store) true
  | lost {current next : Int64} {actual : Option Int64} :
      Served a store (.cas a.key current next true)
        (.error (.preconditionFailed a.key current actual))
        store false

section Served

variable {a : Add} {f : Account} {store store' : KvStore} {call : StoreCall} {answer : StoreAnswer}
  {taken : Bool}

/-- A store serves every call of an addition. A swap of a value that it has read before replaces the
same value, and so makes the sum exact, be it that the key was absent or that the value has come
back. -/
theorem served (h : a.Asks f call) (hf : f.present → (Dictionary.get? a.key store).isSome) :
    Served a store call (store.perform call).1 (store.perform call).2 (store.takes call) := by
  cases h with
  | read => exact .read
  | @swap current next hsum hfound =>
    simp only [KvStore.perform, KvStore.takes, KvStore.swap]
    cases hget : Dictionary.get? a.key store with
    | none =>
      have hzero : current = 0 := hfound.resolve_left fun h => by simp [hget] at hf; exact hf h
      refine .swapped ?_
      rw [hget, hsum, hzero]
      rfl
    | some actual =>
      by_cases heq : actual = current
      · simp only [heq, if_true]
        refine .swapped ?_
        rw [hget, hsum, heq]
        rfl
      · simp only [heq, if_false]
        exact .lost

theorem Served.present (h : Served a store call answer store' taken) {key : String}
    (hkey : (Dictionary.get? key store).isSome) : (Dictionary.get? key store').isSome := by
  cases h with
  | read => exact hkey
  | lost => exact hkey
  | swapped sum =>
    rw [Dictionary.get?_insert]
    split
    · rfl
    · exact hkey

theorem Served.value (h : Served a store call answer store' taken) (key : String) :
    ((Dictionary.get? key store').getD 0).toInt =
      ((Dictionary.get? key store).getD 0).toInt + if taken ∧
        key = a.key then a.delta.toInt else 0 := by
  cases h with
  | read => simp
  | lost => simp
  | swapped sum =>
    rw [Dictionary.get?_insert]
    by_cases hkey : key = a.key
    · subst hkey
      simpa using sum
    · simp [hkey]

private theorem Served.kind (h : Served a store call answer store' true) :
    (KvClient.request call).tag = "cas" := by
  cases h
  rfl

private theorem Served.admits (h : Served a store call answer store' taken) {f : Account}
    (present : (Dictionary.get? a.key store).isSome → f.present) (landed : taken → f.landed)
    (refused : (KvClient.request call).tag = "cas" → taken = false → ¬ f.spent) :
    f.Admits call (answer.mapError StoreError.heard) := by
  cases h with
  | read => exact ⟨_, rfl, present⟩
  | swapped sum => exact .inl ⟨rfl, landed rfl⟩
  | lost => exact .inr ⟨⟨_, _, _, rfl⟩, refused rfl rfl⟩

end Served

section Total

variable {ι : Type} [DecidableEq ι] {adds : List (Addition ι)} {applied : List (Tag ι)}
  {a : Addition ι}

private theorem sum_applied (distinct : (adds.map Addition.tag).Nodup) (ha : a ∈ adds)
    (hnew : a.tag ∉ applied)
    (j : ι) :
    ((adds.filter fun b => b.node = j ∧ b.tag ∈ applied ++ [a.tag]).map fun b =>
      b.delta.toInt).sum =
      ((adds.filter fun b => b.node = j ∧ b.tag ∈ applied).map fun b => b.delta.toInt).sum +
        if a.node = j then a.delta.toInt else 0 := by
  obtain ⟨before, after, rfl⟩ := List.append_of_mem ha
  rw [List.map_append, List.map_cons, List.nodup_middle, List.nodup_cons,
    ← List.map_append] at distinct
  have hother : ∀ b ∈ before ++ after, b.tag ≠ a.tag := fun b hb htag =>
    distinct.1 (htag ▸ List.mem_map_of_mem hb)
  have hsame : ∀ bs : List (Addition ι), (∀ b ∈ bs, b ∈ before ++ after) →
      bs.filter (fun b => b.node = j ∧ b.tag ∈ applied ++ [a.tag]) =
        bs.filter fun b => b.node = j ∧ b.tag ∈ applied := by
    intro bs hbs
    refine List.filter_congr fun b hb => ?_
    simp [hother b (hbs b hb)]
  simp only [List.filter_append, List.filter_cons, List.map_append, List.sum_append]
  rw [hsame before fun b hb => List.mem_append_left _ hb,
    hsame after fun b hb => List.mem_append_right _ hb]
  by_cases hnode : a.node = j
  · simp [hnode, hnew]
    omega
  · simp [hnode]

end Total

section Swaps

variable {ι : Type}

private theorem swaps_eraseIdx (ps : List (Parcel ι)) (position : Nat) :
    (swaps (ps.eraseIdx position)).Sublist (swaps ps) :=
  ((List.eraseIdx_sublist ps position).filter _).map _

private theorem swaps_perm {ps : List (Parcel ι)} {position : Nat} {p : Parcel ι}
    (hp : ps[position]? = some p) :
    (swaps ps).Perm (swaps [p] ++ swaps (ps.eraseIdx position)) := by
  obtain ⟨hlt, rfl⟩ := List.getElem?_eq_some_iff.mp hp
  rw [← swaps_append, List.singleton_append]
  exact (((List.getElem_cons_eraseIdx_perm hlt).filter _).map _).symm

private theorem swaps_of_kind {p : Parcel ι} (hkind : p.message.kind = "cas") :
    swaps [p] = [p.tag] := by
  simp [swaps, hkind]

end Swaps

section Elapse

variable {ι : Type} {l : Layout ι} {c c' : Cluster l} {initial : ι → Int} {p : Parcel ι}
  {rest : List (Parcel ι)} {a : Addition ι} {call : StoreCall} {id : UInt64} {answer : StoreAnswer}
  {taken : Bool}

/-- A reply to a request that was made, which tells the truth to the task that waits for it. -/
structure Truthful (c c' : Cluster l) (p : Parcel ι) : Prop where
  returns : Cluster.Returns l p
  requested : ∀ id, p.message.inReplyTo? = some id →
    ∃ request, .requested p.task id request ∈ c.history p.node
  admits : ∀ id call, p.message.inReplyTo? = some id →
    .requested p.task id (KvClient.message call (l.name p.node) l.service id) ∈ c.history p.node →
      (c'.account p.node p.task).Admits call (KvClient.answer (History.outcome p.message) call)

/-- The service has carried out the call that a request asks for, and the others are still on their
way. -/
structure Carries (c c' : Cluster l) (p : Parcel ι) (rest : List (Parcel ι)) (a : Addition ι)
    (call : StoreCall) (id : UInt64) (answer : StoreAnswer) (taken : Bool) : Prop where
  message : p.message = KvClient.message call (l.name p.node) l.service id
  requested : .requested p.task id p.message ∈ c.history p.node
  known : a ∈ c.adds
  tag : a.tag = p.tag
  others : c.swapping.Perm (swaps [p] ++ swaps rest)
  served : Served (addition (l.settings p.node) (l.name p.node) a.delta) c.service.store call answer
    c'.service.store taken
  adds : c'.adds = c.adds
  applied : c'.applied = c.applied ++ if taken then [p.tag] else []
  swapping : c'.swapping = swaps rest

private theorem Carries.swaps_of_cas (h : Carries c c' p rest a call id answer taken)
    (hcall : (KvClient.request call).tag = "cas") : swaps [p] = [p.tag] :=
  swaps_of_kind (by rw [h.message, KvClient.kind_message, hcall])

private theorem Carries.sublist (h : Carries c c' p rest a call id answer taken) :
    (c'.applied ++ c'.swapping).Sublist (c.applied ++ (swaps [p] ++ swaps rest)) := by
  rw [h.applied, h.swapping, List.append_assoc]
  refine (List.Sublist.append_right ?_ _).append_left _
  cases taken with
  | false => exact List.nil_sublist _
  | true =>
    rw [h.swaps_of_cas h.served.kind]
    exact List.Sublist.refl _

private theorem Carries.ages (h : Carries c c' p rest a call id answer taken) (i : ι) (task : Nat) :
    (c.account i task).Ages (c'.account i task) where
  present := h.served.present
  spent hspent := (h.others.append_left c.applied).symm.subset (h.sublist.subset hspent)
  landed hlanded := by
    show (i, task) ∈ c'.applied
    rw [h.applied]
    exact List.mem_append_left _ hlanded

variable [DecidableEq ι]

private theorem Accounts.elapse (ha : Accounts c initial) (service : Bench.Service)
    (requests replies : List (Parcel ι)) (applied : List (Tag ι))
    (hc : c' = { c with service, requests, replies, applied }) (serving : service.mode = .serve)
    (ages : ∀ i task, (c.account i task).Ages (c'.account i task))
    (once : (c'.applied ++ c'.swapping).Nodup) (value : ∀ i, c'.value i = initial i + c'.total i)
    (fewer : ∀ p ∈ requests, p ∈ c.requests)
    (truthful : ∀ p ∈ replies, p ∈ c.replies ∨ Truthful c c' p) : Accounts c' initial := by
  have hspent : ∀ {tag : Tag ι}, tag ∈ c'.applied ++ c'.swapping → tag ∈ c.applied ++ c.swapping :=
    fun {tag} h => (ages tag.1 tag.2).spent h
  refine ⟨fun i => ?_, ?_, ?_, ?_, once, fun tag h => ?_, value, fun p h => ?_, fun p h =>
    ?_, fun p h => ?_⟩
  · subst hc
    refine (ha.home i).ages (fun _ _ _ h => h) (ages i) fun task id reply hreply => ?_
    obtain ⟨hmem, hid⟩ := hreply
    rcases truthful _ hmem with h | h
    · exact .inl ⟨h, hid⟩
    · exact .inr ⟨h.requested id hid, fun call => h.admits id call hid⟩
  · rw [hc]
    exact serving
  · rw [hc]
    exact ha.distinct
  · subst hc
    exact ha.adds
  · obtain ⟨a, hadd, htag⟩ := ha.known tag (hspent h)
    exact ⟨a, by rw [hc]; exact hadd, htag⟩
  · rw [hc] at h
    refine (ha.requests p (fewer p h)).mono ?_ ?_ (ages p.node p.task).present
    · rw [hc]
      exact fun _ ho => ho
    · rw [hc]
      exact fun _ h => h
  · rw [hc] at h
    exact (truthful p h).elim (ha.replies p) Truthful.returns
  · rw [hc] at h
    refine (ha.answers p h).mono ?_ (fun tag => (ages tag.1 tag.2).landed) fun _ hunspent hgone =>
      ⟨?_, ?_⟩
    · rw [hc]
      exact fun _ h => h
    · exact fun h => hunspent (hspent h)
    · subst hc
      exact hgone

theorem Accounts.loseRequest (ha : Accounts c initial) (position : Nat) :
    Accounts (c.apply (.loseRequest position)) initial := by
  have hsub : (c.applied ++ swaps (c.requests.eraseIdx position)).Sublist
      (c.applied ++ c.swapping) :=
    (swaps_eraseIdx c.requests position).append_left _
  exact ha.elapse c.service (c.requests.eraseIdx position) c.replies c.applied rfl ha.serving
    (fun i task => ⟨fun h => h, fun h => hsub.subset h, fun h => h⟩) (ha.once.sublist hsub) ha.value
    (fun _ h => List.mem_of_mem_eraseIdx h) fun _ h => .inl h

theorem Accounts.loseReply (ha : Accounts c initial) (position : Nat) :
    Accounts (c.apply (.loseReply position)) initial :=
  ha.elapse c.service c.requests (c.replies.eraseIdx position) c.applied rfl ha.serving
    (fun _ _ => .refl _) ha.once ha.value (fun _ h => h) fun _ h =>
      .inl (List.mem_of_mem_eraseIdx h)

private theorem Carries.nodup (h : Carries c c' p rest a call id answer taken)
    (ha : Accounts c initial) :
    (c.applied ++ (swaps [p] ++ swaps rest)).Nodup :=
  (h.others.append_left c.applied).nodup_iff.mp ha.once

private theorem Carries.value (h : Carries c c' p rest a call id answer taken)
    (ha : Accounts c initial) (j : ι) :
    c'.value j = initial j + c'.total j := by
  have hkey : keyOf (l.name j) = keyOf (l.name p.node) ↔ a.node = j := by
    rw [keyOf_injective.eq_iff, l.distinct.eq_iff, (Prod.mk.inj h.tag).1, eq_comm]
  have hvalue : c'.value j = c.value j + if taken ∧ a.node = j then a.delta.toInt else 0 := by
    simp only [← hkey]
    exact h.served.value (keyOf (l.name j))
  have htotal : c'.total j = c.total j + if taken ∧ a.node = j then a.delta.toInt else 0 := by
    cases taken with
    | false => simp [Cluster.total, h.adds, h.applied]
    | true =>
      have hnew : a.tag ∉ c.applied := by
        have hnodup := h.nodup ha
        rw [h.swaps_of_cas h.served.kind, ← h.tag] at hnodup
        exact fun hold => (List.nodup_append.mp hnodup).2.2 _ hold _ List.mem_cons_self rfl
      simpa [Cluster.total, h.adds, h.applied, ← h.tag] using sum_applied ha.distinct h.known hnew j
  have hbefore := ha.value j
  omega

private theorem Carries.truthful (h : Carries c c' p rest a call id answer taken)
    (ha : Accounts c initial) {reply : Message} (hdest : reply.dest = l.name p.node)
    (htells : KvClient.Tells reply id call answer) :
    Truthful c c' ⟨p.node, p.task, reply⟩ := by
  have hsound := (ha.home p.node).correlated.sound
  have hid : id ≠ 0 := by
    rintro rfl
    exact absurd (hsound.one_le_of_requested h.requested) (by decide)
  have hnumber : reply.inReplyTo? = some id := by
    rw [htells.number]
    simp [hid]
  refine ⟨⟨hdest, htells.legible, by rw [hnumber]; rfl⟩, fun id' hid' => ?_, ?_⟩
  · obtain rfl := Option.some.inj (hnumber.symm.trans hid')
    exact ⟨p.message, h.requested⟩
  · intro id' call' hid' hrequested
    obtain rfl := Option.some.inj (hnumber.symm.trans hid')
    obtain rfl : call = call' := by
      have hsame := hsound.requested_unique h.requested hrequested
      rw [h.message] at hsame
      exact KvClient.call_of_message hsame
    rw [htells.heard]
    refine h.served.admits (h.ages p.node p.task).present
      (fun htaken => ?_) fun hcas htaken hspent => ?_
    · show p.tag ∈ c'.applied
      rw [h.applied, if_pos htaken]
      exact List.mem_append_right _ List.mem_cons_self
    · have hnodup := h.nodup ha
      rw [h.swaps_of_cas hcas, List.singleton_append, List.nodup_middle] at hnodup
      refine (List.nodup_cons.mp hnodup).1 ?_
      have hspent' : p.tag ∈ c'.applied ++ c'.swapping := hspent
      simpa [h.applied, h.swapping, htaken] using hspent'

/-- An answer of the service keeps the accounts. -/
theorem Accounts.serve (ha : Accounts c initial) (position : Nat) :
    Accounts (c.apply (.serve position)) initial := by
  cases hp : c.requests[position]? with
  | none => simpa only [Cluster.apply, hp] using ha
  | some p =>
    obtain ⟨call, id, hmessage, hrequested, a, hadd, htag, hasks⟩ :=
      ha.requests p (List.mem_of_getElem? hp)
    obtain ⟨reply, hrespond, hdest, htells⟩ :=
      Bench.Service.respond_message ha.serving call (l.name p.node) l.service id
    have htakes := Bench.Service.takes_message c.service call (l.name p.node) l.service id
    rw [← hmessage] at hrespond htakes
    have hserved : Served _ c.service.store call _ _ _ := served hasks fun hpresent => hpresent
    have happly : c.apply (.serve position) = { c with
        service := { c.service with store := (c.service.store.perform call).2 }
        requests := c.requests.eraseIdx position
        replies := c.replies ++ [⟨p.node, p.task, reply⟩]
        applied := c.applied ++ if c.service.store.takes call then [p.tag] else [] } := by
      simp only [Cluster.apply, hp, hrespond, htakes, Option.map_some, Option.toList_some]
    have hcarries : Carries c (c.apply (.serve position)) p
        (c.requests.eraseIdx position) a call id _ _ :=
      ⟨hmessage, hrequested, hadd, htag,
        swaps_perm hp, by rw [happly]; exact hserved, by rw [happly],
        by rw [happly], by rw [happly]; rfl⟩
    refine ha.elapse _ _ _ _ happly ha.serving hcarries.ages
      ((hcarries.nodup ha).sublist hcarries.sublist)
      (hcarries.value ha) (fun _ h => List.mem_of_mem_eraseIdx h) fun q hq => ?_
    rcases List.mem_append.mp hq with hq | hq
    · exact .inl hq
    · rw [List.mem_singleton.mp hq]
      exact .inr (hcarries.truthful ha hdest htells)

end Elapse

end ClusterNode.Workload.Counter
