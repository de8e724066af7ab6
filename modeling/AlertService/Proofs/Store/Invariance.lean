import AlertService.Proofs.Store.Restriction

/-!
# Every call keeps the store coherent

That owners agree is watched over by no constraint. It rests on the template being looked up among
those of the caller when a group is confirmed or changed, on both ends of a new membership being the
caller's, and, for the notifications that a batch makes, on memberships being coherent already.

* `Coherent.apply`: every successful call preserves coherence.
* `coherent_run`: so does every run.
* `coherent_after`: every run on a new database leaves a coherent store.
-/

namespace AlertService

namespace Store

variable {s t : Store} {k : Kind} {owner id new : Uuid} {now expiry : Int}

/-- A target of a batch is a member of a group of the caller. -/
theorem mem_targets {x : Target} (hx : x ∈ s.targets owner) :
    s.owns owner .group x.group = true ∧ ⟨x.group, x.recipient⟩ ∈ s.memberships := by
  obtain ⟨g, hg, hx⟩ := List.mem_flatMap.mp hx
  obtain ⟨hg, ho⟩ := List.mem_filter.mp hg
  unfold groupTargets at hx
  split at hx
  · exact absurd hx List.not_mem_nil
  · obtain ⟨r, hr, hx⟩ := List.mem_filterMap.mp hx
    obtain ⟨chat, -, rfl⟩ := Option.map_eq_some_iff.mp hx
    obtain ⟨m, hm, hr⟩ := List.mem_filterMap.mp hr
    obtain ⟨hm, hgroup⟩ := List.mem_filter.mp hm
    have hid : r.id = m.recipient := by simpa using List.find?_some hr
    have hgroup : m.group = g.id := by simpa using hgroup
    refine ⟨owns_iff.mpr ⟨g, hg, rfl, by simpa using ho⟩, ?_⟩
    rw [hid, ← hgroup]
    exact hm

theorem ownsNotification_markSent {batch : Uuid} {n : Notification} :
    (s.markSent batch).ownsNotification owner n = s.ownsNotification owner n := by
  simp only [ownsNotification, markSent, List.any_map]
  refine congrArg s.batches.any (funext fun b => ?_)
  simp only [Function.comp_apply]
  split <;> rfl

namespace Coherent

/-! ## Users -/

theorem createUser (h : s.Coherent) {name hash : String}
    (ht : s.createUser id name hash = .ok t) : t.Coherent := by
  obtain ⟨hname, hid, rfl⟩ := createUser_eq_ok.mp ht
  refine h.withUsers ?_ (nodup_map_concat h.userIds ?_) (nodup_map_concat h.userNames ?_) ?_
  · exact List.forall_mem_append.mpr ⟨h.userKeys, List.forall_mem_singleton.mpr ⟨id, rfl⟩⟩
  · simpa [hasUser] using hid
  · simpa using hname
  · intro i hi
    obtain ⟨u, hu, hi⟩ := hasUser_iff.mp hi
    exact hasUser_iff.mpr ⟨u, List.mem_append_left _ hu, hi⟩

theorem updateUser (h : s.Coherent) {name hash : String}
    (ht : s.updateUser id name hash = .ok t) : t.Coherent := by
  obtain ⟨-, hname, rfl⟩ := updateUser_eq_ok.mp ht
  have hkey : ∀ u : User, (if u.id = .value id then
      { u with name := name, passwordHash := hash } else u).id = u.id := by
    intro u
    split <;> rfl
  -- nobody else has the new name
  have hfree : ∀ u ∈ s.users, u.name = name → u.id = .value id := by
    simpa using hname
  refine h.withUsers ?_ ?_ ?_ ?_
  · intro u hu
    obtain ⟨v, hv, rfl⟩ := List.mem_map.mp hu
    rw [hkey]
    exact h.userKeys v hv
  · rw [map_key_map hkey]
    exact h.userIds
  · have hids : s.users.Pairwise fun a b => a.id ≠ b.id := List.pairwise_map.mp h.userIds
    have hnames : s.users.Pairwise fun a b => a.name ≠ b.name := List.pairwise_map.mp h.userNames
    rw [List.map_map, List.Nodup, List.pairwise_map]
    refine (hids.and hnames).imp_of_mem fun {a b} ha hb hab => ?_
    by_cases hA : a.id = .value id
    · have hB : b.id ≠ .value id := fun hB => hab.1 (hA.trans hB.symm)
      simp only [Function.comp_apply, hA, hB, if_true, if_false]
      exact fun he => hB (hfree b hb he.symm)
    · by_cases hB : b.id = .value id
      · simp only [Function.comp_apply, hA, hB, if_true, if_false]
        exact fun he => hA (hfree a ha he)
      · simpa only [Function.comp_apply, hA, hB, if_false] using hab.2
  · intro i hi
    obtain ⟨u, hu, hi⟩ := hasUser_iff.mp hi
    exact hasUser_iff.mpr ⟨_, List.mem_map_of_mem hu, (hkey u).trans hi⟩

theorem deleteUser (h : s.Coherent) (ht : s.deleteUser id = .ok t) : t.Coherent := by
  obtain ⟨-, rfl⟩ := h.deleteUser_eq_ok.mp ht
  exact h.restrict _

/-! ## Sessions -/

theorem filterSessions (h : s.Coherent) (p : Session → Bool) :
    Coherent { s with sessions := s.sessions.filter p } :=
  { h with
    sessionIds := nodup_map_filter p h.sessionIds
    sessionOwners := fun x hx => h.sessionOwners x (List.mem_of_mem_filter hx) }

theorem insertSession (h : s.Coherent) (ht : s.insertSession id owner expiry = .ok t) :
    t.Coherent := by
  obtain ⟨hid, howner, rfl⟩ := insertSession_eq_ok.mp ht
  exact { h with
    sessionIds := nodup_map_concat h.sessionIds (by simpa using hid)
    sessionOwners :=
      List.forall_mem_append.mpr ⟨h.sessionOwners, List.forall_mem_singleton.mpr howner⟩ }

theorem createSession (h : s.Coherent) (ht : s.createSession now id owner expiry = .ok t) :
    t.Coherent :=
  (h.filterSessions _).insertSession ht

theorem rotateSession (h : s.Coherent) {old : Uuid}
    (ht : s.rotateSession now old owner new expiry = .ok t) : t.Coherent := by
  obtain ⟨-, ht⟩ := rotateSession_eq_ok.mp ht
  exact ((h.filterSessions _).filterSessions _).insertSession ht

/-! ## Drafts and entities -/

theorem insertDraft (h : s.Coherent) {fields : k.Fields}
    (ht : s.insertDraft k id owner fields = .ok t) : t.Coherent := by
  obtain ⟨hid, howner, rfl⟩ := insertDraft_eq_ok.mp ht
  refine h.withDrafts (nodup_map_concat (h.draftIds k) (find?_key_eq_none.mp hid)) ?_
  exact List.forall_mem_append.mpr ⟨h.draftOwners k, List.forall_mem_singleton.mpr howner⟩

/-- What a checked group refers to is the caller's. -/
theorem references_of_check (h : s.Coherent) {rows : List (Owned k.Fields)}
    (hrows : ∀ e ∈ rows, e ∈ s.entities.get k ∨ s.checkReferences e.owner k e.fields = .ok ()) :
    ∀ g ∈ (s.entities.set k rows).group, ∀ id, g.fields.template = some id →
      s.owns g.owner .template id = true := by
  intro g hg id hid
  cases k with
  | recipient => exact h.references g hg id hid
  | template => exact h.references g hg id hid
  | group =>
    rcases hrows g hg with hg | hg
    · exact h.references g hg id hid
    · exact checkReferences_group_eq_ok.mp hg id hid

theorem confirmDraft (h : s.Coherent) {e : Owned k.Fields}
    (ht : s.confirmDraft k owner id new = .ok (e, t)) : t.Coherent := by
  obtain ⟨d, fields, -, -, -, hrefs, hnew, howner, rfl, rfl⟩ := confirmDraft_eq_ok.mp ht
  refine (h.withDrafts (nodup_map_filter _ (h.draftIds k)) ?_).withEntities
    (nodup_map_concat (h.entityIds k) (find?_key_eq_none.mp hnew)) ?_ ?_
    (h.references_of_check ?_)
  · exact fun d hd => h.draftOwners k d (List.mem_of_mem_filter hd)
  · exact List.forall_mem_append.mpr ⟨h.entityOwners k, List.forall_mem_singleton.mpr howner⟩
  · exact fun e he => ⟨e, List.mem_append_left _ he, rfl, rfl⟩
  · exact List.forall_mem_append.mpr
      ⟨fun e he => Or.inl he, List.forall_mem_singleton.mpr (Or.inr hrefs)⟩

theorem updateEntity (h : s.Coherent) {fields : k.Fields} {e : Owned k.Fields}
    (ht : s.updateEntity k owner id fields = .ok (e, t)) : t.Coherent := by
  obtain ⟨⟨old, hold, howner⟩, hrefs, rfl, rfl⟩ := updateEntity_eq_ok.mp ht
  obtain ⟨hold, hid⟩ := h.entity?_eq_some.mp hold
  have hkey : ∀ e : Owned k.Fields,
      (if e.id = id then { e with fields := fields } else e).id = e.id ∧
        (if e.id = id then { e with fields := fields } else e).owner = e.owner := by
    intro e
    split <;> exact ⟨rfl, rfl⟩
  refine h.withEntities ?_ ?_ ?_ (h.references_of_check ?_)
  · rw [map_key_map fun e => (hkey e).1]
    exact h.entityIds k
  · intro e he
    obtain ⟨x, hx, rfl⟩ := List.mem_map.mp he
    rw [(hkey x).2]
    exact h.entityOwners k x hx
  · exact fun e he => ⟨_, List.mem_map_of_mem he, hkey e⟩
  · intro e he
    obtain ⟨x, hx, rfl⟩ := List.mem_map.mp he
    by_cases hi : x.id = id
    · -- the changed row is the one that was looked up, so the check was made for its owner
      rw [if_pos hi, h.entity_ext hx hold (hi.trans hid.symm), howner]
      exact Or.inr hrefs
    · rw [if_neg hi]
      exact Or.inl hx

theorem deleteEntity (h : s.Coherent) (ht : s.deleteEntity k owner id = .ok t) : t.Coherent := by
  obtain ⟨-, rfl⟩ := deleteEntity_eq_ok.mp ht
  exact h.dropEntities k [id]

/-! ## Memberships -/

theorem addMember (h : s.Coherent) {group recipient : Uuid}
    (ht : s.addMember owner group recipient = .ok t) : t.Coherent := by
  obtain ⟨hg, hr, hnew, rfl⟩ := addMember_eq_ok.mp ht
  exact { h with
    pairs := by simpa [List.nodup_append] using ⟨h.pairs, fun m hm he => hnew (he ▸ hm)⟩
    members :=
      List.forall_mem_append.mpr ⟨h.members, List.forall_mem_singleton.mpr ⟨owner, hg, hr⟩⟩ }

theorem removeMember (h : s.Coherent) {group recipient : Uuid}
    (ht : s.removeMember owner group recipient = .ok t) : t.Coherent := by
  obtain ⟨-, -, -, rfl⟩ := removeMember_eq_ok.mp ht
  exact { h with
    pairs := h.pairs.filter _
    members := fun m hm => h.members m (List.mem_of_mem_filter hm) }

/-! ## Batches and notifications -/

theorem createBatch (h : s.Coherent) (ht : s.createBatch id owner = .ok t) : t.Coherent := by
  obtain ⟨hid, howner, rfl⟩ := createBatch_eq_ok.mp ht
  refine { h with
    batchIds := nodup_map_concat h.batchIds (by simpa using hid)
    batchOwners :=
      List.forall_mem_append.mpr ⟨h.batchOwners, List.forall_mem_singleton.mpr howner⟩
    notifications := ?_ }
  intro n hn
  obtain ⟨o, hb, hgr⟩ := h.notifications n hn
  obtain ⟨b, hb, hb'⟩ := ownsNotification_iff.mp hb
  exact ⟨o, ownsNotification_iff.mpr ⟨b, List.mem_append_left _ hb, hb'⟩, hgr⟩

theorem markSent (h : s.Coherent) (batch : Uuid) : (s.markSent batch).Coherent := by
  have hkey : ∀ b : Batch, (if b.id = batch then { b with sent := .value true } else b).id = b.id ∧
      (if b.id = batch then { b with sent := .value true } else b).owner = b.owner := by
    intro b
    split <;> exact ⟨rfl, rfl⟩
  refine { h with
    batchIds := ?_
    batchOwners := ?_
    notifications := ?_ }
  · refine Eq.mpr (congrArg List.Nodup (map_key_map fun b => (hkey b).1)) h.batchIds
  · intro b hb
    obtain ⟨x, hx, rfl⟩ := List.mem_map.mp hb
    rw [(hkey x).2]
    exact h.batchOwners x hx
  · intro n hn
    obtain ⟨o, hb, hgr⟩ := h.notifications n hn
    exact ⟨o, ownsNotification_markSent.trans hb, hgr⟩

theorem startBatch (h : s.Coherent) {batch : Uuid} {time : Instant} {fresh : Nat → Uuid}
    {ds : List Delivery} (ht : s.startBatch owner batch time fresh = .ok (ds, t)) :
    t.Coherent := by
  obtain ⟨hunsent, hids, -, rfl⟩ := (startBatch_eq_ok h.notificationIds).mp ht
  refine { h.markSent batch with
    notificationIds := hids
    notifications := ?_ }
  intro n hn
  rcases List.mem_append.mp hn with hn | hn
  · exact (h.markSent batch).notifications n hn
  · obtain ⟨⟨x, j⟩, hx, rfl⟩ := List.mem_map.mp hn
    obtain ⟨hg, hm⟩ := mem_targets (List.fst_mem_of_mem_zipIdx hx)
    -- the other end of the membership has the same owner as the group
    obtain ⟨o, hgo, hro⟩ := h.members _ hm
    obtain rfl := h.owner_unique hg hgo
    refine ⟨owner, ownsNotification_markSent.trans ?_, hg, hro⟩
    obtain ⟨b, hb, hb'⟩ := List.any_eq_true.mp hunsent
    simp only [Bool.and_eq_true, decide_eq_true_eq] at hb'
    exact ownsNotification_iff.mpr ⟨b, hb, hb'.1⟩

theorem completeNotification (h : s.Coherent) {time : Instant}
    (ht : s.completeNotification id time = .ok t) : t.Coherent := by
  obtain ⟨-, rfl⟩ := completeNotification_eq_ok.mp ht
  refine { h with
    notificationIds := ?_
    notifications := ?_ }
  · rw [map_key_map]
    · exact h.notificationIds
    · intro n
      split <;> rfl
  · intro n hn
    obtain ⟨x, hx, rfl⟩ := List.mem_map.mp hn
    split <;> exact h.notifications x hx

theorem cancelNotification (h : s.Coherent) (ht : s.cancelNotification owner id = .ok t) :
    t.Coherent := by
  obtain ⟨-, rfl⟩ := cancelNotification_eq_ok.mp ht
  exact { h with
    notificationIds := nodup_map_filter _ h.notificationIds
    notifications := fun n hn => h.notifications n (List.mem_of_mem_filter hn) }

/-! ## Contacts -/

theorem setContact (h : s.Coherent) (chat : Int64) (active : Bool) :
    (s.setContact chat active).Coherent := by
  refine { h with contactIds := ?_ }
  refine Eq.mpr (congrArg List.Nodup (map_key_map fun c => ?_)) h.contactIds
  split <;> rfl

theorem activateContact (h : s.Coherent) (chat : Int64) : (s.activateContact chat).2.Coherent := by
  unfold Store.activateContact
  split
  · exact h
  · split
    · exact h.setContact chat true
    · rename_i hchat
      exact { h with contactIds := nodup_map_concat h.contactIds (by simpa using hchat) }

theorem deactivateContact (h : s.Coherent) (chat : Int64) :
    (s.deactivateContact chat).2.Coherent := by
  unfold Store.deactivateContact
  split
  · exact h.setContact chat false
  · exact h

/-! ## Runs -/

theorem apply {op : Operation} (h : s.Coherent) (ht : op.apply s = .ok t) : t.Coherent := by
  cases op with
  | createUser id name hash => exact h.createUser ht
  | updateUser id name hash => exact h.updateUser ht
  | deleteUser id => exact h.deleteUser ht
  | createSession now new user expiry => exact h.createSession ht
  | rotateSession now old user new expiry => exact h.rotateSession ht
  | insertDraft k new owner fields => exact h.insertDraft ht
  | confirmDraft k owner draft new =>
    obtain ⟨⟨e, t⟩, hok, rfl⟩ := map_eq_ok.mp ht
    exact h.confirmDraft hok
  | updateEntity k owner id fields =>
    obtain ⟨⟨e, t⟩, hok, rfl⟩ := map_eq_ok.mp ht
    exact h.updateEntity hok
  | deleteEntity k owner id => exact h.deleteEntity ht
  | addMember owner group recipient => exact h.addMember ht
  | removeMember owner group recipient => exact h.removeMember ht
  | createBatch new owner => exact h.createBatch ht
  | startBatch owner batch now fresh =>
    obtain ⟨⟨ds, t⟩, hok, rfl⟩ := map_eq_ok.mp ht
    exact h.startBatch hok
  | completeNotification id time => exact h.completeNotification ht
  | cancelNotification owner id => exact h.cancelNotification ht
  | activateContact chat =>
    obtain rfl := Except.ok.inj ht
    exact h.activateContact chat
  | deactivateContact chat =>
    obtain rfl := Except.ok.inj ht
    exact h.deactivateContact chat

end Coherent

end Store

namespace Database

theorem coherent_fresh : fresh.store.Coherent := Store.coherent_empty

theorem coherent_run {d : Database} (h : d.store.Coherent) (ops : List Operation) :
    (d.run ops).store.Coherent :=
  run_preserves h fun _ _ _ _ h ht => h.apply ht

/-- Whatever calls are made on a new database, in any order and whether or not they succeed, the
rows of the store belong together. -/
theorem coherent_after (ops : List Operation) : (after ops).store.Coherent :=
  coherent_run coherent_fresh ops

end Database

end AlertService
