import AlertService.Proofs.Store.Invariance

/-!
# Where rows come from

Which calls write which tables, and so which calls of a run the rows of its store go back to.

* `same_of_not_writes`: a call leaves alone the tables that it does not write.
* `Leaves.same`: so does a run.
* `generated_of_session`, `insertDraft_of_mem`, `confirmDraft_of_mem`: the call of a run that a row
  goes back to.
* `batch_of_apply`, `notification_of_apply`: what a call may do to a batch and to a notification.
* `eq_of_generated`: where no identifier is generated twice, there is one such call.
-/

namespace AlertService

/-! ## Tables that a call writes -/

inductive Table where
  | users
  | sessions
  | drafts
  | entities
  | memberships
  | batches
  | notifications
  | contacts
deriving DecidableEq

/-- The two stores have the same rows in the table. -/
def Table.Same : Table → Store → Store → Prop
  | .users, s, t => t.users = s.users
  | .sessions, s, t => t.sessions = s.sessions
  | .drafts, s, t => t.drafts = s.drafts
  | .entities, s, t => t.entities = s.entities
  | .memberships, s, t => t.memberships = s.memberships
  | .batches, s, t => t.batches = s.batches
  | .notifications, s, t => t.notifications = s.notifications
  | .contacts, s, t => t.contacts = s.contacts

/-- The tables that a call may change, those included that depend on a deleted row. -/
def Operation.writes : Operation → List Table
  | .createUser .. | .updateUser .. => [.users]
  | .deleteUser _ =>
    [.users, .sessions, .drafts, .entities, .memberships, .batches, .notifications]
  | .createSession .. | .rotateSession .. => [.sessions]
  | .insertDraft .. => [.drafts]
  | .confirmDraft .. => [.drafts, .entities]
  | .updateEntity .. => [.entities]
  | .deleteEntity .. => [.entities, .memberships, .notifications]
  | .addMember .. | .removeMember .. => [.memberships]
  | .createBatch .. => [.batches]
  | .startBatch .. => [.batches, .notifications]
  | .completeNotification .. | .cancelNotification .. => [.notifications]
  | .activateContact _ | .deactivateContact _ => [.contacts]

variable {s t : Store} {op : Operation} {k : Kind} {ops : List Operation} {id : Uuid}

theorem same_of_not_writes (h : s.Coherent) (ht : op.apply s = .ok t) {table : Table}
    (hw : table ∉ op.writes) : table.Same s t := by
  cases op with
  | createUser id name hash =>
    obtain ⟨-, -, rfl⟩ := Store.createUser_eq_ok.mp ht
    cases table <;> first | rfl | simp [Operation.writes] at hw
  | updateUser id name hash =>
    obtain ⟨-, -, rfl⟩ := Store.updateUser_eq_ok.mp ht
    cases table <;> first | rfl | simp [Operation.writes] at hw
  | deleteUser id =>
    obtain ⟨-, rfl⟩ := h.deleteUser_eq_ok.mp ht
    cases table <;> first | rfl | simp [Operation.writes] at hw
  | createSession now new user expiry =>
    obtain ⟨-, -, rfl⟩ := Store.insertSession_eq_ok.mp ht
    cases table <;> first | rfl | simp [Operation.writes] at hw
  | rotateSession now old user new expiry =>
    obtain ⟨-, hok⟩ := Store.rotateSession_eq_ok.mp ht
    obtain ⟨-, -, rfl⟩ := Store.insertSession_eq_ok.mp hok
    cases table <;> first | rfl | simp [Operation.writes] at hw
  | insertDraft k new owner fields =>
    obtain ⟨-, -, rfl⟩ := Store.insertDraft_eq_ok.mp ht
    cases table <;> first | rfl | simp [Operation.writes] at hw
  | confirmDraft k owner draft new =>
    obtain ⟨⟨e, t⟩, hok, rfl⟩ := map_eq_ok.mp ht
    obtain ⟨d, fields, -, -, -, -, -, -, -, rfl⟩ := Store.confirmDraft_eq_ok.mp hok
    cases table <;> first | rfl | simp [Operation.writes] at hw
  | updateEntity k owner id fields =>
    obtain ⟨⟨e, t⟩, hok, rfl⟩ := map_eq_ok.mp ht
    obtain ⟨-, -, -, rfl⟩ := Store.updateEntity_eq_ok.mp hok
    cases table <;> first | rfl | simp [Operation.writes] at hw
  | deleteEntity k owner id =>
    obtain ⟨-, rfl⟩ := Store.deleteEntity_eq_ok.mp ht
    cases table <;> cases k <;> first | rfl | simp [Operation.writes] at hw
  | addMember owner group recipient =>
    obtain ⟨-, -, -, rfl⟩ := Store.addMember_eq_ok.mp ht
    cases table <;> first | rfl | simp [Operation.writes] at hw
  | removeMember owner group recipient =>
    obtain ⟨-, -, -, rfl⟩ := Store.removeMember_eq_ok.mp ht
    cases table <;> first | rfl | simp [Operation.writes] at hw
  | createBatch new owner =>
    obtain ⟨-, -, rfl⟩ := Store.createBatch_eq_ok.mp ht
    cases table <;> first | rfl | simp [Operation.writes] at hw
  | startBatch owner batch now fresh =>
    obtain ⟨⟨ds, t⟩, hok, rfl⟩ := map_eq_ok.mp ht
    obtain ⟨-, -, -, rfl⟩ := (Store.startBatch_eq_ok h.notificationIds).mp hok
    cases table <;> first | rfl | simp [Operation.writes] at hw
  | completeNotification id time =>
    obtain ⟨-, rfl⟩ := Store.completeNotification_eq_ok.mp ht
    cases table <;> first | rfl | simp [Operation.writes] at hw
  | cancelNotification owner id =>
    obtain ⟨-, rfl⟩ := Store.cancelNotification_eq_ok.mp ht
    cases table <;> first | rfl | simp [Operation.writes] at hw
  | activateContact chat =>
    obtain rfl := Except.ok.inj ht
    simp only [Store.activateContact]
    split
    · cases table <;> rfl
    · split <;> cases table <;> first | rfl | simp [Operation.writes] at hw
  | deactivateContact chat =>
    obtain rfl := Except.ok.inj ht
    simp only [Store.deactivateContact]
    split <;> cases table <;> first | rfl | simp [Operation.writes] at hw

theorem Table.Same.trans {u : Store} {table : Table} (h : table.Same s t) (h' : table.Same t u) :
    table.Same s u := by
  cases table <;> exact Eq.trans h' h

/-- Calls that do not write the table lead from the first database to the second. -/
def Database.Leaves (table : Table) (d d' : Database) : Prop :=
  ∃ ops, d' = d.run ops ∧ ∀ op ∈ ops, table ∉ op.writes

namespace Database.Leaves

variable {d d' d'' : Database} {table : Table}

theorem refl (table : Table) (d : Database) : Leaves table d d := ⟨[], rfl, by simp⟩

theorem trans (h : Leaves table d d') (h' : Leaves table d' d'') : Leaves table d d'' := by
  obtain ⟨ops, rfl, hops⟩ := h
  obtain ⟨ops', rfl, hops'⟩ := h'
  exact ⟨ops ++ ops', (run_append _ _ _).symm, List.forall_mem_append.mpr ⟨hops, hops'⟩⟩

theorem call (hp : d.poisoned = false) (hs : op.apply d.store = .ok s) (hw : table ∉ op.writes) :
    Leaves table d { d with store := s } :=
  ⟨[op], (perform_of_ok hp hs).symm, by simpa using hw⟩

theorem poisoned (h : Leaves table d d') : d'.poisoned = d.poisoned := by
  obtain ⟨ops, rfl, -⟩ := h
  exact run_poisoned d ops

theorem same (h : Leaves table d d') (hd : d.store.Coherent) : table.Same d.store d'.store := by
  obtain ⟨ops, rfl, hops⟩ := h
  refine run_keeps (by cases table <;> rfl) ?_
  rintro before op rest s rfl hkept hs
  have hop : op ∈ before ++ op :: rest := List.mem_append_right _ List.mem_cons_self
  exact hkept.trans (same_of_not_writes (coherent_run hd before) hs (hops op hop))

end Database.Leaves

/-! ## Sessions -/

/-- The session that the call opens, if it succeeds. -/
def Operation.opened? : Operation → Option Session
  | .createSession _ new user expiry => some ⟨new, user, .value (some expiry)⟩
  | .rotateSession _ _ user new expiry => some ⟨new, user, .value (some expiry)⟩
  | _ => none

theorem generated_of_opened {x : Session} (h : op.opened? = some x) :
    op.generated? = some x.id := by
  cases op with
  | createSession now new user expiry => exact congrArg (Option.map Session.id) h
  | rotateSession now old user new expiry => exact congrArg (Option.map Session.id) h
  | _ => exact nomatch h

theorem session_of_apply (h : s.Coherent) (ht : op.apply s = .ok t) {x : Session}
    (hx : x ∈ t.sessions) : x ∈ s.sessions ∨ op.opened? = some x := by
  by_cases hw : Table.sessions ∈ op.writes
  · cases op with
    | deleteUser id =>
      obtain ⟨-, rfl⟩ := h.deleteUser_eq_ok.mp ht
      exact Or.inl (List.mem_of_mem_filter hx)
    | createSession now new user expiry =>
      obtain ⟨-, -, rfl⟩ := Store.insertSession_eq_ok.mp ht
      rcases List.mem_append.mp hx with hx | hx
      · exact Or.inl (List.mem_of_mem_filter hx)
      · rw [List.mem_singleton.mp hx]
        exact Or.inr rfl
    | rotateSession now old user new expiry =>
      obtain ⟨-, hok⟩ := Store.rotateSession_eq_ok.mp ht
      obtain ⟨-, -, rfl⟩ := Store.insertSession_eq_ok.mp hok
      rcases List.mem_append.mp hx with hx | hx
      · exact Or.inl (List.mem_of_mem_filter (List.mem_of_mem_filter hx))
      · rw [List.mem_singleton.mp hx]
        exact Or.inr rfl
    | _ => exact absurd hw (by simp [Operation.writes])
  · exact Or.inl ((same_of_not_writes h ht hw) ▸ hx)

/-- A session was there before the run, or goes back to a call that opened it. -/
theorem opened_of_session {d : Database} (hd : d.store.Coherent) {x : Session}
    (hx : x ∈ (d.run ops).store.sessions) :
    x ∈ d.store.sessions ∨ ∃ op ∈ ops, op.opened? = some x := by
  by_cases hold : x ∈ d.store.sessions
  · exact Or.inl hold
  obtain ⟨before, op, rest, s, rfl, hbefore, hs, hx⟩ :=
    Database.exists_step (P := fun s => x ∈ s.sessions) hold hx
  have hopened := (session_of_apply (Database.coherent_run hd before) hs hx).resolve_left hbefore
  exact Or.inr ⟨op, List.mem_append_right _ List.mem_cons_self, hopened⟩

/-- A session goes back to a call that was given its identifier. -/
theorem generated_of_session {x : Session} (hx : x ∈ (Database.after ops).store.sessions) :
    ∃ op ∈ ops, op.generated? = some x.id := by
  obtain ⟨op, hop, hopened⟩ :=
    (opened_of_session Database.coherent_fresh hx).resolve_left List.not_mem_nil
  exact ⟨op, hop, generated_of_opened hopened⟩

/-! ## Drafts -/

theorem draft_of_apply (h : s.Coherent) (ht : op.apply s = .ok t) {d : Draft k.Fields}
    (hd : d ∈ t.drafts.get k) :
    d ∈ s.drafts.get k ∨ op = .insertDraft k d.id d.owner d.fields ∧ d.stray = none := by
  by_cases hw : Table.drafts ∈ op.writes
  · cases op with
    | deleteUser id =>
      obtain ⟨-, rfl⟩ := h.deleteUser_eq_ok.mp ht
      simp only [Store.restrict, PerKind.get_map] at hd
      exact Or.inl (List.mem_of_mem_filter hd)
    | insertDraft j new owner fields =>
      obtain ⟨-, -, rfl⟩ := Store.insertDraft_eq_ok.mp ht
      by_cases hj : k = j
      · subst hj
        rw [PerKind.get_set_self] at hd
        rcases List.mem_append.mp hd with hd | hd
        · exact Or.inl hd
        · rw [List.mem_singleton.mp hd]
          exact Or.inr ⟨rfl, rfl⟩
      · rw [PerKind.get_set_of_ne _ hj] at hd
        exact Or.inl hd
    | confirmDraft j owner draft new =>
      obtain ⟨⟨e, t⟩, hok, rfl⟩ := map_eq_ok.mp ht
      obtain ⟨d, fields, -, -, -, -, -, -, -, rfl⟩ := Store.confirmDraft_eq_ok.mp hok
      by_cases hj : k = j
      · subst hj
        rw [PerKind.get_set_self] at hd
        exact Or.inl (List.mem_of_mem_filter hd)
      · rw [PerKind.get_set_of_ne _ hj] at hd
        exact Or.inl hd
    | _ => exact absurd hw (by simp [Operation.writes])
  · exact Or.inl ((same_of_not_writes h ht hw) ▸ hd)

/-- A draft goes when it is confirmed, or with its owner. -/
theorem draft_stays (h : s.Coherent) (ht : op.apply s = .ok t) {d : Draft k.Fields}
    (hd : d ∈ s.drafts.get k) : d ∈ t.drafts.get k ∨
      (∃ new, op = .confirmDraft k d.owner d.id new) ∨ op = .deleteUser d.owner := by
  by_cases hw : Table.drafts ∈ op.writes
  · cases op with
    | deleteUser id =>
      obtain ⟨-, rfl⟩ := h.deleteUser_eq_ok.mp ht
      by_cases ho : d.owner = id
      · exact Or.inr (Or.inr (congrArg _ ho.symm))
      · refine Or.inl ?_
        simp only [Store.restrict, PerKind.get_map]
        exact List.mem_filter.mpr ⟨hd, decide_eq_true ho⟩
    | insertDraft j new owner fields =>
      obtain ⟨-, -, rfl⟩ := Store.insertDraft_eq_ok.mp ht
      refine Or.inl ?_
      by_cases hj : k = j
      · subst hj
        rw [PerKind.get_set_self]
        exact List.mem_append_left _ hd
      · rwa [PerKind.get_set_of_ne _ hj]
    | confirmDraft j owner draft new =>
      obtain ⟨⟨e, t⟩, hok, rfl⟩ := map_eq_ok.mp ht
      obtain ⟨c, fields, hc, ho, -, -, -, -, -, rfl⟩ := Store.confirmDraft_eq_ok.mp hok
      obtain ⟨hc, hid⟩ := h.draft?_eq_some.mp hc
      by_cases hj : k = j
      · subst hj
        by_cases hdid : d.id = draft
        · obtain rfl := List.inj_on_of_nodup_map (h.draftIds k) hc hd (hid.trans hdid.symm)
          exact Or.inr (Or.inl ⟨new, by rw [ho, hdid]⟩)
        · rw [PerKind.get_set_self]
          exact Or.inl (List.mem_filter.mpr ⟨hd, decide_eq_true hdid⟩)
      · rw [PerKind.get_set_of_ne _ hj]
        exact Or.inl hd
    | _ => exact absurd hw (by simp [Operation.writes])
  · exact Or.inl ((same_of_not_writes h ht hw).symm ▸ hd)

/-- The call succeeds after the other ones. -/
def Operation.SucceedsAfter (op : Operation) (before : List Operation) : Prop :=
  ∃ s, op.apply (Database.after before).store = .ok s

/-- A draft goes back to the call that was given its fields. -/
theorem insertDraft_of_mem {d : Draft k.Fields} (hd : d ∈ (Database.after ops).store.drafts.get k) :
    d.stray = none ∧ ∃ before rest, ops = before ++ .insertDraft k d.id d.owner d.fields :: rest ∧
      (Operation.insertDraft k d.id d.owner d.fields).SucceedsAfter before := by
  have hempty : d ∉ Database.fresh.store.drafts.get k := by
    cases k <;> exact List.not_mem_nil
  obtain ⟨before, op, rest, s, rfl, hbefore, hs, hd⟩ :=
    Database.exists_step (P := fun s => d ∈ s.drafts.get k) hempty hd
  have hcoherent := Database.coherent_run Database.coherent_fresh before
  obtain ⟨rfl, hstray⟩ := (draft_of_apply hcoherent hs hd).resolve_left hbefore
  exact ⟨hstray, before, rest, rfl, s, hs⟩

/-! ## Entities -/

theorem entity_of_apply (h : s.Coherent) (ht : op.apply s = .ok t) {e : Owned k.Fields}
    (he : e ∈ t.entities.get k) :
    (∃ e' ∈ s.entities.get k, e'.id = e.id ∧ e'.owner = e.owner) ∨
      ∃ draft, op = .confirmDraft k e.owner draft e.id := by
  by_cases hw : Table.entities ∈ op.writes
  · cases op with
    | deleteUser id =>
      obtain ⟨-, rfl⟩ := h.deleteUser_eq_ok.mp ht
      simp only [Store.restrict, PerKind.get_map] at he
      exact Or.inl ⟨e, List.mem_of_mem_filter he, rfl, rfl⟩
    | confirmDraft j owner draft new =>
      obtain ⟨⟨e', t⟩, hok, rfl⟩ := map_eq_ok.mp ht
      obtain ⟨d, fields, -, -, -, -, -, -, rfl, rfl⟩ := Store.confirmDraft_eq_ok.mp hok
      by_cases hj : k = j
      · subst hj
        rw [PerKind.get_set_self] at he
        rcases List.mem_append.mp he with he | he
        · exact Or.inl ⟨e, he, rfl, rfl⟩
        · rw [List.mem_singleton.mp he]
          exact Or.inr ⟨draft, rfl⟩
      · rw [PerKind.get_set_of_ne _ hj] at he
        exact Or.inl ⟨e, he, rfl, rfl⟩
    | updateEntity j owner id fields =>
      obtain ⟨⟨e', t⟩, hok, rfl⟩ := map_eq_ok.mp ht
      obtain ⟨-, -, -, rfl⟩ := Store.updateEntity_eq_ok.mp hok
      by_cases hj : k = j
      · subst hj
        rw [PerKind.get_set_self] at he
        obtain ⟨x, hx, rfl⟩ := List.mem_map.mp he
        refine Or.inl ⟨x, hx, ?_⟩
        split <;> exact ⟨rfl, rfl⟩
      · rw [PerKind.get_set_of_ne _ hj] at he
        exact Or.inl ⟨e, he, rfl, rfl⟩
    | deleteEntity j owner id =>
      obtain ⟨-, rfl⟩ := Store.deleteEntity_eq_ok.mp ht
      exact Or.inl (Store.mem_dropEntities he)
    | _ => exact absurd hw (by simp [Operation.writes])
  · exact Or.inl ⟨e, (same_of_not_writes h ht hw) ▸ he, rfl, rfl⟩

/-- An entity goes back to the call that confirmed a draft under its identifier. -/
theorem confirmDraft_of_mem {e : Owned k.Fields}
    (he : e ∈ (Database.after ops).store.entities.get k) :
    ∃ before draft rest, ops = before ++ .confirmDraft k e.owner draft e.id :: rest ∧
      (Operation.confirmDraft k e.owner draft e.id).SucceedsAfter before := by
  have hempty : ¬∃ e' ∈ Database.fresh.store.entities.get k, e'.id = e.id ∧ e'.owner = e.owner := by
    rintro ⟨e', he', -⟩
    cases k <;> exact List.not_mem_nil he'
  obtain ⟨before, op, rest, s, rfl, hbefore, hs, e', he', hid, ho⟩ :=
    Database.exists_step (P := fun s => ∃ e' ∈ s.entities.get k, e'.id = e.id ∧ e'.owner = e.owner)
      hempty ⟨e, he, rfl, rfl⟩
  have hcoherent := Database.coherent_run Database.coherent_fresh before
  rcases entity_of_apply hcoherent hs he' with h | ⟨draft, rfl⟩
  · rw [hid, ho] at h
    exact absurd h hbefore
  · rw [hid, ho] at hs ⊢
    exact ⟨before, draft, rest, rfl, s, hs⟩

/-! ## Batches and notifications -/

/-- A batch is as before, is new and unsent, or was unsent until now. -/
theorem batch_of_apply (h : s.Coherent) (ht : op.apply s = .ok t) {b : Batch}
    (hb : b ∈ t.batches) :
    b ∈ s.batches ∨ op = .createBatch b.id b.owner ∧ b.sent = .value false ∨
      (∃ now fresh, op = .startBatch b.owner b.id now fresh) ∧ b.sent = .value true ∧
        { b with sent := .value false } ∈ s.batches := by
  by_cases hw : Table.batches ∈ op.writes
  · cases op with
    | deleteUser id =>
      obtain ⟨-, rfl⟩ := h.deleteUser_eq_ok.mp ht
      exact Or.inl (List.mem_of_mem_filter hb)
    | createBatch new owner =>
      obtain ⟨-, -, rfl⟩ := Store.createBatch_eq_ok.mp ht
      rcases List.mem_append.mp hb with hb | hb
      · exact Or.inl hb
      · rw [List.mem_singleton.mp hb]
        exact Or.inr (Or.inl ⟨rfl, rfl⟩)
    | startBatch owner batch now fresh =>
      obtain ⟨⟨ds, t⟩, hok, rfl⟩ := map_eq_ok.mp ht
      obtain ⟨hunsent, -, -, rfl⟩ := (Store.startBatch_eq_ok h.notificationIds).mp hok
      obtain ⟨old, hold, rfl, rfl, hsent⟩ := Store.isUnsent_iff.mp hunsent
      obtain ⟨b', hb', rfl⟩ := List.mem_map.mp hb
      by_cases hid : b'.id = old.id
      · -- it is the batch that is sent
        obtain rfl := List.inj_on_of_nodup_map h.batchIds hb' hold hid
        rw [if_pos rfl]
        exact Or.inr (Or.inr ⟨⟨now, fresh, rfl⟩, rfl, hsent ▸ hold⟩)
      · rw [if_neg hid]
        exact Or.inl hb'
    | _ => exact absurd hw (by simp [Operation.writes])
  · exact Or.inl ((same_of_not_writes h ht hw) ▸ hb)

/-- The identifiers of the notifications that the call makes, if it succeeds. -/
def Operation.notifies : Operation → Store → List Uuid
  | .startBatch owner batch now fresh, s =>
    match s.startBatch owner batch now fresh with
    | .ok (ds, _) => ds.map Delivery.notification
    | .error _ => []
  | _, _ => []

/-- A notification is as before, was pending until now, or is new and pending. -/
theorem notification_of_apply (h : s.Coherent) (ht : op.apply s = .ok t) {n : Notification}
    (hn : n ∈ t.notifications) :
    n ∈ s.notifications ∨
      (∃ time, op = .completeNotification n.id time ∧ n.completed = some time ∧
        { n with completed := none } ∈ s.notifications) ∨
      ∃ owner now fresh, op = .startBatch owner n.batch now fresh ∧ n.id ∈ op.notifies s ∧
        n.completed = none ∧ n.created = .value now := by
  by_cases hw : Table.notifications ∈ op.writes
  · cases op with
    | deleteUser id =>
      obtain ⟨-, rfl⟩ := h.deleteUser_eq_ok.mp ht
      exact Or.inl (List.mem_of_mem_filter hn)
    | deleteEntity k owner id =>
      obtain ⟨-, rfl⟩ := Store.deleteEntity_eq_ok.mp ht
      exact Or.inl (Store.notifications_dropEntities hn).1
    | startBatch owner batch now fresh =>
      obtain ⟨⟨ds, t⟩, hok, rfl⟩ := map_eq_ok.mp ht
      have hmade : (Operation.startBatch owner batch now fresh).notifies s =
          ds.map Delivery.notification := by
        simp only [Operation.notifies, hok]
      obtain ⟨-, -, rfl, rfl⟩ := (Store.startBatch_eq_ok h.notificationIds).mp hok
      rcases List.mem_append.mp hn with hn | hn
      · exact Or.inl hn
      · obtain ⟨⟨target, j⟩, hj, rfl⟩ := List.mem_map.mp hn
        refine Or.inr (Or.inr ⟨owner, now, fresh, rfl, ?_, rfl, rfl⟩)
        rw [hmade, Store.queuedDeliveries, List.map_map]
        exact List.mem_map_of_mem (f := fun x : Target × Nat => fresh x.2) hj
    | completeNotification id time =>
      obtain ⟨-, rfl⟩ := Store.completeNotification_eq_ok.mp ht
      obtain ⟨old, hold, rfl⟩ := List.mem_map.mp hn
      by_cases hpending : Store.isPending id old = true
      · obtain ⟨rfl, hnone⟩ := Store.isPending_iff.mp hpending
        rw [if_pos hpending]
        refine Or.inr (Or.inl ⟨time, rfl, rfl, ?_⟩)
        rw [← hnone]
        exact hold
      · rw [if_neg hpending]
        exact Or.inl hold
    | cancelNotification owner id =>
      obtain ⟨-, rfl⟩ := Store.cancelNotification_eq_ok.mp ht
      exact Or.inl (List.mem_of_mem_filter hn)
    | _ => exact absurd hw (by simp [Operation.writes])
  · exact Or.inl ((same_of_not_writes h ht hw) ▸ hn)

/-! ## Fresh identifiers -/

theorem disjoint_generated {ops₁ ops₂ : List Operation} {a b : Operation}
    (h : ((ops₁ ++ ops₂).filterMap Operation.generated?).Nodup) (ha : a ∈ ops₁) (hb : b ∈ ops₂)
    (hid : a.generated? = some id) : b.generated? ≠ some id := by
  intro hid'
  rw [List.filterMap_append, List.nodup_append] at h
  exact h.2.2 id (List.mem_filterMap.mpr ⟨a, ha, hid⟩) id
    (List.mem_filterMap.mpr ⟨b, hb, hid'⟩) rfl

theorem eq_of_generated {a b : Operation} (h : (ops.filterMap Operation.generated?).Nodup)
    (ha : a ∈ ops) (hb : b ∈ ops) (hid : a.generated? = some id) (hid' : b.generated? = some id) :
    a = b := by
  obtain ⟨before, rest, rfl⟩ := List.append_of_mem ha
  rcases List.mem_append.mp hb with hb | hb
  · exact absurd hid (disjoint_generated h hb List.mem_cons_self hid')
  · rcases List.mem_cons.mp hb with rfl | hb
    · rfl
    · rw [← List.singleton_append, ← List.append_assoc] at h
      exact absurd hid' (disjoint_generated h (List.mem_append_right _ List.mem_cons_self) hb hid)

end AlertService
