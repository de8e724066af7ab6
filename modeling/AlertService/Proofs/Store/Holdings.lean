import AlertService.Proofs.Store.Invariance

/-!
# What a user owns

The rows of one user, in their order. A call on behalf of another user leaves them as they are. For
most calls this is a matter of the rows that they look for; those that take along dependent rows
rely on the store being coherent.

* `Operation.Spares`: the call has nothing to do with a user.
* `Coherent.holdings_apply`: then it leaves alone what the user owns.
* `holdings_run`: so does a run of such calls.
-/

namespace AlertService

/-! ## Filtered rows -/

section Rows

variable {α : Type} {rows : List α} {p q : α → Bool}

/-- Rows that are dropped do not count if they were filtered out anyway. -/
theorem filter_filter_of_imp (h : ∀ x ∈ rows, p x = true → q x = true) :
    (rows.filter q).filter p = rows.filter p := by
  rw [List.filter_filter]
  refine List.filter_congr fun x hx => ?_
  by_cases hp : p x = true
  · rw [hp, h x hx hp, Bool.and_self]
  · rw [Bool.eq_false_iff.mpr hp, Bool.false_and]

/-- Rows that are changed do not count if they were, and still are, filtered out. -/
theorem filter_map_of_fixed {f : α → α} (hp : ∀ x ∈ rows, p (f x) = p x)
    (hf : ∀ x ∈ rows, p x = true → f x = x) : (rows.map f).filter p = rows.filter p := by
  have hcomp : rows.filter (p ∘ f) = rows.filter p := List.filter_congr hp
  rw [List.filter_map, hcomp]
  refine (List.map_congr_left fun x hx => ?_).trans (List.map_id _)
  obtain ⟨hx, hpx⟩ := List.mem_filter.mp hx
  exact hf x hx hpx

theorem filter_append_of_none {new : List α} (h : ∀ x ∈ new, p x = false) :
    (rows ++ new).filter p = rows.filter p := by
  have hnone : new.filter p = [] := by simpa [List.filter_eq_nil_iff] using h
  rw [List.filter_append, hnone, List.append_nil]

theorem filter_concat_of_neg {x : α} (h : p x = false) :
    (rows ++ [x]).filter p = rows.filter p :=
  filter_append_of_none (List.forall_mem_singleton.mpr h)

theorem filter_concat_of_pos {x : α} (h : p x = true) :
    (rows ++ [x]).filter p = rows.filter p ++ [x] := by
  rw [List.filter_append, List.filter_cons_of_pos h, List.filter_nil]

/-- Whether there is a row with `p` can be told from the rows with `p`. -/
theorem any_and_congr {rows' : List α} (h : rows'.filter p = rows.filter p) (q : α → Bool) :
    (rows'.any fun x => q x && p x) = rows.any fun x => q x && p x := by
  have hany : ∀ l : List α, (l.any fun x => q x && p x) = (l.filter p).any q := by
    intro l
    rw [List.any_filter]
    exact congrArg l.any (funext fun x => Bool.and_comm _ _)
  rw [hany, hany, h]

end Rows

/-! ## Holdings -/

/-- The rows that belong to a user. Memberships belong to the owner of the group, notifications to
the owner of the batch. -/
@[ext]
structure Holdings where
  users : List User
  sessions : List Session
  drafts : PerKind fun k => List (Draft k.Fields)
  entities : PerKind fun k => List (Owned k.Fields)
  memberships : List Membership
  batches : List Batch
  notifications : List Notification

namespace Store

def holdings (s : Store) (user : Uuid) : Holdings where
  users := s.users.filter fun u => u.id = .value user
  sessions := s.sessions.filter fun x => x.user = user
  drafts := s.drafts.map fun _ rows => rows.filter fun d => d.owner = user
  entities := s.entities.map fun _ rows => rows.filter fun e => e.owner = user
  memberships := s.memberships.filter fun m => s.owns user .group m.group
  batches := s.batches.filter fun b => b.owner = user
  notifications := s.notifications.filter fun n => s.ownsNotification user n

variable {s t : Store} {k : Kind} {user owner id new : Uuid} {now expiry : Int}

/-! ## Users and sessions -/

theorem holdings_createUser {name hash : String} (hne : id ≠ user)
    (ht : s.createUser id name hash = .ok t) : t.holdings user = s.holdings user := by
  obtain ⟨-, -, rfl⟩ := createUser_eq_ok.mp ht
  refine Holdings.ext (filter_concat_of_neg ?_) rfl rfl rfl rfl rfl rfl
  simp [hne]

theorem holdings_updateUser {name hash : String} (hne : id ≠ user)
    (ht : s.updateUser id name hash = .ok t) : t.holdings user = s.holdings user := by
  obtain ⟨-, -, rfl⟩ := updateUser_eq_ok.mp ht
  refine Holdings.ext (filter_map_of_fixed ?_ ?_) rfl rfl rfl rfl rfl rfl
  · intro u _
    split <;> rfl
  · intro u _ hu
    have hid : u.id = .value user := by simpa using hu
    rw [if_neg]
    rw [hid]
    exact fun he => hne (Stored.value.inj he).symm

theorem holdings_restrict {p : Uuid → Bool} (hp : p user = true) :
    (s.restrict p).holdings user = s.holdings user := by
  refine Holdings.ext ?_ ?_ ?_ ?_ ?_ ?_ ?_
  · refine filter_filter_of_imp fun u _ hu => ?_
    have hid : u.id = .value user := by simpa using hu
    simpa [User.hasId, hid] using hp
  · refine filter_filter_of_imp fun x _ hx => ?_
    rwa [of_decide_eq_true hx]
  · refine PerKind.ext ?_ ?_ ?_ <;>
    · refine filter_filter_of_imp fun d _ hd => ?_
      rwa [of_decide_eq_true hd]
  · refine PerKind.ext ?_ ?_ ?_ <;>
    · refine filter_filter_of_imp fun e _ he => ?_
      rwa [of_decide_eq_true he]
  · have howns : ∀ id, (s.restrict p).owns user .group id = s.owns user .group id := by
      intro id
      rw [Bool.eq_iff_iff, owns_restrict]
      exact and_iff_left hp
    show (s.restrict p).memberships.filter _ = s.memberships.filter _
    simp only [howns]
    refine filter_filter_of_imp fun m _ hm => ?_
    obtain ⟨g, hg, hid, rfl⟩ := owns_iff.mp hm
    exact List.any_eq_true.mpr ⟨g, hg, by simp [hid, hp]⟩
  · refine filter_filter_of_imp fun b _ hb => ?_
    rwa [of_decide_eq_true hb]
  · have howns : ∀ n, (s.restrict p).ownsNotification user n = s.ownsNotification user n := by
      intro n
      rw [Bool.eq_iff_iff, ownsNotification_restrict]
      exact and_iff_left hp
    show (s.restrict p).notifications.filter _ = s.notifications.filter _
    simp only [howns]
    refine filter_filter_of_imp fun n _ hn => ?_
    obtain ⟨b, hb, hid, rfl⟩ := ownsNotification_iff.mp hn
    exact List.any_eq_true.mpr ⟨b, hb, by simp [hid, hp]⟩

theorem Coherent.holdings_deleteUser (h : s.Coherent) (hne : id ≠ user)
    (ht : s.deleteUser id = .ok t) : t.holdings user = s.holdings user := by
  obtain ⟨-, rfl⟩ := h.deleteUser_eq_ok.mp ht
  exact holdings_restrict (decide_eq_true hne.symm)

/-- Sessions of others may go. -/
theorem holdings_filterSessions {p : Session → Bool} (hp : ∀ x, x.user = user → p x = true) :
    ({ s with sessions := s.sessions.filter p } : Store).holdings user = s.holdings user :=
  Holdings.ext rfl (filter_filter_of_imp fun x _ hx => hp x (of_decide_eq_true hx)) rfl rfl rfl rfl
    rfl

theorem holdings_insertSession (hne : owner ≠ user)
    (ht : s.insertSession id owner expiry = .ok t) : t.holdings user = s.holdings user := by
  obtain ⟨-, -, rfl⟩ := insertSession_eq_ok.mp ht
  exact Holdings.ext rfl (filter_concat_of_neg (decide_eq_false hne)) rfl rfl rfl rfl rfl

theorem holdings_pruneSessions (hne : owner ≠ user) :
    (s.pruneSessions now owner).holdings user = s.holdings user := by
  refine holdings_filterSessions fun x hx => ?_
  have hother : x.user ≠ owner := fun he => hne (he.symm.trans hx)
  simp [hother]

theorem holdings_createSession (hne : owner ≠ user)
    (ht : s.createSession now id owner expiry = .ok t) : t.holdings user = s.holdings user :=
  (holdings_insertSession hne ht).trans (holdings_pruneSessions hne)

theorem holdings_rotateSession {old : Uuid} (hne : owner ≠ user)
    (ht : s.rotateSession now old owner new expiry = .ok t) :
    t.holdings user = s.holdings user := by
  obtain ⟨-, ht⟩ := rotateSession_eq_ok.mp ht
  refine (holdings_insertSession hne ht).trans ?_
  refine (holdings_filterSessions fun x hx => ?_).trans (holdings_pruneSessions hne)
  have hother : x.user ≠ owner := fun he => hne (he.symm.trans hx)
  simp [hother]

/-! ## Drafts and entities -/

theorem holdings_setDrafts {rows : List (Draft k.Fields)}
    (hrows : (rows.filter fun d => d.owner = user) =
      (s.drafts.get k).filter fun d => d.owner = user) :
    ({ s with drafts := s.drafts.set k rows } : Store).holdings user = s.holdings user := by
  refine Holdings.ext rfl rfl ?_ rfl rfl rfl rfl
  cases k with
  | recipient => exact PerKind.ext hrows rfl rfl
  | template => exact PerKind.ext rfl hrows rfl
  | group => exact PerKind.ext rfl rfl hrows

theorem holdings_insertDraft {fields : k.Fields} (hne : owner ≠ user)
    (ht : s.insertDraft k id owner fields = .ok t) : t.holdings user = s.holdings user := by
  obtain ⟨-, -, rfl⟩ := insertDraft_eq_ok.mp ht
  exact holdings_setDrafts (filter_concat_of_neg (decide_eq_false hne))

/-- Which groups a user owns decides about memberships, so that they have to be looked at as well
when rows of entities change. -/
theorem holdings_setEntities {rows : List (Owned k.Fields)}
    (hrows : (rows.filter fun e => e.owner = user) =
      (s.entities.get k).filter fun e => e.owner = user) :
    ({ s with entities := s.entities.set k rows } : Store).holdings user = s.holdings user := by
  have howns : ∀ id, ({ s with entities := s.entities.set k rows } : Store).owns user .group id =
      s.owns user .group id := by
    intro id
    cases k with
    | recipient => rfl
    | template => rfl
    | group => exact any_and_congr hrows fun e => e.id = id
  refine Holdings.ext rfl rfl rfl ?_ ?_ rfl rfl
  · cases k with
    | recipient => exact PerKind.ext hrows rfl rfl
    | template => exact PerKind.ext rfl hrows rfl
    | group => exact PerKind.ext rfl rfl hrows
  · exact List.filter_congr fun m _ => howns m.group

theorem Coherent.holdings_confirmDraft (h : s.Coherent) {e : Owned k.Fields} (hne : owner ≠ user)
    (ht : s.confirmDraft k owner id new = .ok (e, t)) : t.holdings user = s.holdings user := by
  obtain ⟨d, fields, hd, ho, -, -, -, -, rfl, rfl⟩ := confirmDraft_eq_ok.mp ht
  obtain ⟨hd, hid⟩ := h.draft?_eq_some.mp hd
  refine (holdings_setEntities (s := { s with
    drafts := s.drafts.set k ((s.drafts.get k).filter fun d => d.id ≠ id) })
    (filter_concat_of_neg (decide_eq_false hne))).trans
      (holdings_setDrafts (filter_filter_of_imp ?_))
  intro x hx hxu
  refine decide_eq_true fun hxid => hne ?_
  rw [← ho, ← of_decide_eq_true hxu]
  rw [List.inj_on_of_nodup_map (h.draftIds k) hd hx (hid.trans hxid.symm)]

theorem Coherent.holdings_updateEntity (h : s.Coherent) {fields : k.Fields} {e : Owned k.Fields}
    (hne : owner ≠ user) (ht : s.updateEntity k owner id fields = .ok (e, t)) :
    t.holdings user = s.holdings user := by
  obtain ⟨⟨old, hold, ho⟩, -, -, rfl⟩ := updateEntity_eq_ok.mp ht
  obtain ⟨hold, hid⟩ := h.entity?_eq_some.mp hold
  refine holdings_setEntities (filter_map_of_fixed ?_ ?_)
  · intro x _
    split <;> rfl
  · intro x hx hxu
    refine if_neg fun hxid => hne ?_
    rw [← ho, ← of_decide_eq_true hxu, h.entity_ext hold hx (hid.trans hxid.symm)]

/-- What goes with the entities of one user belongs to that user. -/
theorem Coherent.holdings_dropEntities (h : s.Coherent) {ids : List Uuid} (hne : owner ≠ user)
    (hids : ∀ id ∈ ids, s.owns owner k id = true) :
    (s.dropEntities k ids).holdings user = s.holdings user := by
  have hkeep : ∀ id, s.owns user k id = true → (!ids.contains id) = true := by
    intro id ho
    rw [Bool.not_eq_true', List.contains_eq_mem, decide_eq_false_iff_not]
    exact fun hid => hne (h.owner_unique (hids id hid) ho)
  have hrows : ((s.entities.get k).filter fun e => !ids.contains e.id).filter
      (fun e => e.owner = user) = (s.entities.get k).filter fun e => e.owner = user := by
    refine filter_filter_of_imp fun e he hu => hkeep e.id ?_
    exact owns_iff.mpr ⟨e, he, rfl, of_decide_eq_true hu⟩
  have hgroups : ∀ id, (s.dropEntities k ids).owns user .group id = s.owns user .group id := by
    intro id
    rw [Bool.eq_iff_iff, owns_dropEntities]
    refine and_iff_left_of_imp fun ho hk => ?_
    subst hk
    simpa using hkeep id ho
  have hmembers : (s.dropEntities k ids).memberships.filter
      (fun m => (s.dropEntities k ids).owns user .group m.group) =
        s.memberships.filter fun m => s.owns user .group m.group := by
    simp only [hgroups]
    have hends : ∀ m ∈ s.memberships, s.owns user .group m.group = true →
        s.owns user .recipient m.recipient = true := by
      intro m hm ho
      obtain ⟨o, hg, hr⟩ := h.members m hm
      rwa [h.owner_unique ho hg]
    cases k with
    | recipient => exact filter_filter_of_imp fun m hm ho => hkeep _ (hends m hm ho)
    | template => rfl
    | group => exact filter_filter_of_imp fun m _ ho => hkeep _ ho
  have hnotifications : (s.dropEntities k ids).notifications.filter
      (fun n => (s.dropEntities k ids).ownsNotification user n) =
        s.notifications.filter fun n => s.ownsNotification user n := by
    simp only [ownsNotification, batches_dropEntities]
    have hends : ∀ n ∈ s.notifications, s.ownsNotification user n = true →
        s.owns user .group n.group = true ∧ s.owns user .recipient n.recipient = true := by
      intro n hn ho
      obtain ⟨o, hb, hg, hr⟩ := h.notifications n hn
      rw [h.batch_owner_unique ho hb]
      exact ⟨hg, hr⟩
    cases k with
    | recipient => exact filter_filter_of_imp fun n hn ho => hkeep _ (hends n hn ho).2
    | template => rfl
    | group => exact filter_filter_of_imp fun n hn ho => hkeep _ (hends n hn ho).1
  refine Holdings.ext ?_ ?_ ?_ ?_ hmembers ?_ hnotifications
  · cases k <;> rfl
  · cases k <;> rfl
  · cases k <;> rfl
  · cases k with
    | recipient => exact PerKind.ext hrows rfl rfl
    | group => exact PerKind.ext rfl rfl hrows
    | template =>
      refine PerKind.ext rfl hrows (filter_map_of_fixed (fun _ _ => rfl) ?_)
      intro g hg hu
      have hsame : (g.fields.template.filter fun t => !ids.contains t) = g.fields.template := by
        cases ht : g.fields.template with
        | none => rfl
        | some t =>
          refine Option.filter_some_pos (hkeep t ?_)
          rw [← of_decide_eq_true hu]
          exact h.references g hg t ht
      rw [hsame]
  · cases k <;> rfl

theorem Coherent.holdings_deleteEntity (h : s.Coherent) (hne : owner ≠ user)
    (ht : s.deleteEntity k owner id = .ok t) : t.holdings user = s.holdings user := by
  obtain ⟨⟨e, he, ho⟩, rfl⟩ := deleteEntity_eq_ok.mp ht
  obtain ⟨he, hid⟩ := h.entity?_eq_some.mp he
  refine h.holdings_dropEntities hne fun i hi => ?_
  rw [List.mem_singleton.mp hi]
  exact owns_iff.mpr ⟨e, he, hid, ho⟩

/-! ## Memberships -/

theorem Coherent.holdings_addMember (h : s.Coherent) {group recipient : Uuid} (hne : owner ≠ user)
    (ht : s.addMember owner group recipient = .ok t) : t.holdings user = s.holdings user := by
  obtain ⟨hg, -, -, rfl⟩ := addMember_eq_ok.mp ht
  have hother : s.owns user .group group = false :=
    Bool.eq_false_iff.mpr fun ho => hne (h.owner_unique hg ho)
  exact Holdings.ext rfl rfl rfl rfl (filter_concat_of_neg hother) rfl rfl

theorem Coherent.holdings_removeMember (h : s.Coherent) {group recipient : Uuid}
    (hne : owner ≠ user) (ht : s.removeMember owner group recipient = .ok t) :
    t.holdings user = s.holdings user := by
  obtain ⟨hg, -, -, rfl⟩ := removeMember_eq_ok.mp ht
  refine Holdings.ext rfl rfl rfl rfl (filter_filter_of_imp ?_) rfl rfl
  intro m _ ho
  refine decide_eq_true fun hm => hne (h.owner_unique hg ?_)
  rwa [hm] at ho

/-! ## Batches and notifications -/

/-- Which batches a user owns decides about notifications. -/
theorem holdings_setBatches {batches : List Batch}
    (hrows : (batches.filter fun b => b.owner = user) = s.batches.filter fun b => b.owner = user) :
    ({ s with batches := batches } : Store).holdings user = s.holdings user := by
  refine Holdings.ext rfl rfl rfl rfl rfl hrows (List.filter_congr fun n _ => ?_)
  exact any_and_congr hrows fun b => b.id = n.batch

theorem holdings_createBatch (hne : owner ≠ user) (ht : s.createBatch id owner = .ok t) :
    t.holdings user = s.holdings user := by
  obtain ⟨-, -, rfl⟩ := createBatch_eq_ok.mp ht
  exact holdings_setBatches (filter_concat_of_neg (decide_eq_false hne))

theorem Coherent.holdings_startBatch (h : s.Coherent) {batch : Uuid} {time : Instant}
    {fresh : Nat → Uuid} {ds : List Delivery} (hne : owner ≠ user)
    (ht : s.startBatch owner batch time fresh = .ok (ds, t)) :
    t.holdings user = s.holdings user := by
  obtain ⟨hunsent, -, -, rfl⟩ := (startBatch_eq_ok h.notificationIds).mp ht
  obtain ⟨b, hb, hb'⟩ := List.any_eq_true.mp hunsent
  simp only [Bool.and_eq_true, decide_eq_true_eq] at hb'
  obtain ⟨⟨hid, ho⟩, -⟩ := hb'
  have hmarked : (s.markSent batch).holdings user = s.holdings user := by
    refine holdings_setBatches (filter_map_of_fixed ?_ ?_)
    · intro x _
      split <;> rfl
    · intro x hx hu
      refine if_neg fun hxid => hne ?_
      rw [← ho, ← of_decide_eq_true hu,
        List.inj_on_of_nodup_map h.batchIds hb hx (hid.trans hxid.symm)]
  refine Eq.trans ?_ hmarked
  refine Holdings.ext rfl rfl rfl rfl rfl rfl (filter_append_of_none fun n hn => ?_)
  obtain ⟨⟨x, j⟩, -, rfl⟩ := List.mem_map.mp hn
  rw [Bool.eq_false_iff]
  intro hu
  have hu : s.ownsNotification user (queued batch time (fresh j) x) = true :=
    ownsNotification_markSent.symm.trans hu
  exact hne (h.batch_owner_unique (ownsNotification_iff.mpr ⟨b, hb, hid, ho⟩) hu)

/-- No notification from before has the identifier of one that a batch makes. -/
theorem Coherent.ne_of_mem_deliveries (h : s.Coherent) {batch : Uuid} {time : Instant}
    {fresh : Nat → Uuid} {ds : List Delivery}
    (ht : s.startBatch owner batch time fresh = .ok (ds, t)) {d : Delivery} (hd : d ∈ ds)
    {n : Notification} (hn : n ∈ s.notifications) : n.id ≠ d.notification := by
  obtain ⟨-, hids, rfl, -⟩ := (startBatch_eq_ok h.notificationIds).mp ht
  obtain ⟨⟨x, j⟩, hx, rfl⟩ := List.mem_map.mp hd
  rw [List.map_append, List.nodup_append] at hids
  refine hids.2.2 _ (List.mem_map_of_mem hn) _ ?_
  exact List.mem_map_of_mem (f := Notification.id) (List.mem_map_of_mem hx)

theorem holdings_completeNotification {time : Instant}
    (hne : ∀ n ∈ (s.holdings user).notifications, n.id ≠ id)
    (ht : s.completeNotification id time = .ok t) : t.holdings user = s.holdings user := by
  obtain ⟨-, rfl⟩ := completeNotification_eq_ok.mp ht
  refine Holdings.ext rfl rfl rfl rfl rfl rfl (filter_map_of_fixed ?_ ?_)
  · intro n _
    split <;> rfl
  · intro n hn hu
    refine if_neg fun hp => hne n (List.mem_filter.mpr ⟨hn, hu⟩) ?_
    simp only [isPending, Bool.and_eq_true, decide_eq_true_eq] at hp
    exact hp.1

theorem Coherent.holdings_cancelNotification (h : s.Coherent) (hne : owner ≠ user)
    (ht : s.cancelNotification owner id = .ok t) : t.holdings user = s.holdings user := by
  obtain ⟨-, rfl⟩ := cancelNotification_eq_ok.mp ht
  refine Holdings.ext rfl rfl rfl rfl rfl rfl (filter_filter_of_imp fun n _ hu => ?_)
  have hother : s.ownsNotification owner n = false :=
    Bool.eq_false_iff.mpr fun ho => hne (h.batch_owner_unique ho hu)
  rw [hother, Bool.and_false, Bool.not_false]

/-! ## Contacts -/

/-- Contacts belong to nobody. -/
theorem holdings_activateContact (chat : Int64) :
    (s.activateContact chat).2.holdings user = s.holdings user := by
  unfold activateContact
  split
  · rfl
  · split <;> rfl

theorem holdings_deactivateContact (chat : Int64) :
    (s.deactivateContact chat).2.holdings user = s.holdings user := by
  unfold deactivateContact
  split <;> rfl

end Store

/-! ## Calls on behalf of others -/

/-- The call is not on behalf of the user, who owns `own`, and completes none of the user's
notifications. -/
def Operation.Spares (user : Uuid) (own : Holdings) : Operation → Prop
  | .completeNotification id _ => ∀ n ∈ own.notifications, n.id ≠ id
  | op => op.caller? ≠ some user

theorem Store.Coherent.holdings_apply {s t : Store} {op : Operation} {user : Uuid}
    (h : s.Coherent) (hop : op.Spares user (s.holdings user)) (ht : op.apply s = .ok t) :
    t.holdings user = s.holdings user := by
  have hother : ∀ {owner : Uuid}, some owner ≠ some user → owner ≠ user :=
    fun hne he => hne (congrArg some he)
  cases op with
  | createUser id name hash => exact holdings_createUser (hother hop) ht
  | updateUser id name hash => exact holdings_updateUser (hother hop) ht
  | deleteUser id => exact h.holdings_deleteUser (hother hop) ht
  | createSession now new user expiry => exact holdings_createSession (hother hop) ht
  | rotateSession now old user new expiry => exact holdings_rotateSession (hother hop) ht
  | insertDraft k new owner fields => exact holdings_insertDraft (hother hop) ht
  | confirmDraft k owner draft new =>
    obtain ⟨⟨e, t⟩, hok, rfl⟩ := map_eq_ok.mp ht
    exact h.holdings_confirmDraft (hother hop) hok
  | updateEntity k owner id fields =>
    obtain ⟨⟨e, t⟩, hok, rfl⟩ := map_eq_ok.mp ht
    exact h.holdings_updateEntity (hother hop) hok
  | deleteEntity k owner id => exact h.holdings_deleteEntity (hother hop) ht
  | addMember owner group recipient => exact h.holdings_addMember (hother hop) ht
  | removeMember owner group recipient => exact h.holdings_removeMember (hother hop) ht
  | createBatch new owner => exact holdings_createBatch (hother hop) ht
  | startBatch owner batch now fresh =>
    obtain ⟨⟨ds, t⟩, hok, rfl⟩ := map_eq_ok.mp ht
    exact h.holdings_startBatch (hother hop) hok
  | completeNotification id time => exact holdings_completeNotification hop ht
  | cancelNotification owner id => exact h.holdings_cancelNotification (hother hop) ht
  | activateContact chat =>
    obtain rfl := Except.ok.inj ht
    exact holdings_activateContact chat
  | deactivateContact chat =>
    obtain rfl := Except.ok.inj ht
    exact holdings_deactivateContact chat

/-- Nobody but the user changes what the user owns, whatever others do and in any order. -/
theorem Database.holdings_run {d : Database} {ops : List Operation} {user : Uuid}
    (h : d.store.Coherent) (hops : ∀ op ∈ ops, op.Spares user (d.store.holdings user)) :
    (d.run ops).store.Coherent ∧ (d.run ops).store.holdings user = d.store.holdings user := by
  refine run_preserves (P := fun s => s.Coherent ∧ s.holdings user = d.store.holdings user)
    ⟨h, rfl⟩ ?_
  rintro op hop s t ⟨hs, he⟩ ht
  refine ⟨hs.apply ht, (hs.holdings_apply ?_ ht).trans he⟩
  rw [he]
  exact hops op hop

end AlertService
