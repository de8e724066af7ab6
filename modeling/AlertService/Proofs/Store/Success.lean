import AlertService.Proofs.Store.Fields
import AlertService.Store.Notifications
import AlertService.Store.Sessions

/-!
# Successful calls of the store

When a call that changes the store succeeds, and which store it leaves. Everything later that is
said about a call is derived from these equivalences; none of the calls is opened again.

* `createUser_eq_ok` to `cancelNotification_eq_ok`: one for every call that can fail.
* `queue_eq_ok`: a batch is queued as one row for every target, in their order.
-/

namespace AlertService

namespace Store

variable {s t : Store} {k : Kind}

/-! ## Checks -/

theorem refuseTaken_eq_ok {taken : Bool} {columns : String} {u : Unit} :
    refuseTaken taken columns = .ok u ↔ taken = false := by
  cases taken <;> simp [refuseTaken]

theorem requireReference_eq_ok {present : Bool} {u : Unit} :
    requireReference present = .ok u ↔ present = true := by
  cases present <;> simp [requireReference]

theorem requireOwned_eq_ok {owner id : Uuid} {u : Unit} :
    s.requireOwned owner k id = .ok u ↔ s.owns owner k id = true := by
  simp [requireOwned]

theorem requireOwner_eq_ok {α : Type} {row? : Option α} {ownerOf : α → Uuid} {owner : Uuid}
    {label : String} {row : α} :
    requireOwner row? ownerOf owner label = .ok row ↔ row? = some row ∧ ownerOf row = owner := by
  cases row? with
  | none => simp [requireOwner]
  | some r =>
    simp only [requireOwner, ite_ok_eq_ok, Except.ok.injEq, Option.some.injEq]
    constructor
    · rintro ⟨h, rfl⟩
      exact ⟨rfl, h⟩
    · rintro ⟨rfl, h⟩
      exact ⟨h, rfl⟩

theorem getEntity_eq_ok {owner id : Uuid} {e : Owned k.Fields} :
    s.getEntity k owner id = .ok e ↔ s.entity? k id = some e ∧ e.owner = owner :=
  requireOwner_eq_ok

/-! ## Users and sessions -/

theorem createUser_eq_ok {id : Uuid} {name hash : String} :
    s.createUser id name hash = .ok t ↔
      (s.users.any fun u => u.name = name) = false ∧ s.hasUser id = false ∧
        t = { s with users := s.users ++ [⟨.value id, name, hash⟩] } := by
  simp only [createUser, insertUser, mapError_eq_ok, bind_eq_ok, refuseTaken_eq_ok, pure_eq_ok,
    exists_const, eq_comm (a := t)]

theorem updateUser_eq_ok {id : Uuid} {name hash : String} :
    s.updateUser id name hash = .ok t ↔
      s.hasUser id = true ∧ (s.users.any fun u => u.name = name && u.id ≠ .value id) = false ∧
        t = { s with users := s.users.map fun u =>
          if u.id = .value id then { u with name := name, passwordHash := hash } else u } := by
  simp only [updateUser, ite_error_eq_ok, Except.ok.injEq, Bool.not_eq_eq_eq_not, Bool.not_true,
    Bool.not_eq_false, Bool.not_eq_true, eq_comm (a := t)]

theorem insertSession_eq_ok {id user : Uuid} {expiry : Int} :
    s.insertSession id user expiry = .ok t ↔
      (s.sessions.any fun x => x.id = id) = false ∧ s.hasUser user = true ∧
        t = { s with sessions := s.sessions ++ [⟨id, user, .value (some expiry)⟩] } := by
  simp only [insertSession, bind_eq_ok, refuseTaken_eq_ok, requireReference_eq_ok, pure_eq_ok,
    exists_const, eq_comm (a := t)]

theorem createSession_eq_ok {now expiry : Int} {id user : Uuid} :
    s.createSession now id user expiry = .ok t ↔
      (s.pruneSessions now user).insertSession id user expiry = .ok t := Iff.rfl

theorem rotateSession_eq_ok {now expiry : Int} {old user new : Uuid} :
    s.rotateSession now old user new expiry = .ok t ↔
      ((s.pruneSessions now user).sessions.any fun x => x.id = old && x.user = user) = true ∧
        ({ s.pruneSessions now user with
          sessions := (s.pruneSessions now user).sessions.filter fun x =>
            !(x.id = old && x.user = user) } : Store).insertSession new user expiry = .ok t := by
  simp only [rotateSession, ite_ok_eq_ok]

/-! ## Drafts and entities -/

theorem insertDraft_eq_ok {id owner : Uuid} {fields : k.Fields} :
    s.insertDraft k id owner fields = .ok t ↔
      s.draft? k id = none ∧ s.hasUser owner = true ∧
        t = { s with
          drafts := s.drafts.set k (s.drafts.get k ++ [⟨⟨id, owner, fields⟩, none⟩]) } := by
  simp only [insertDraft, bind_eq_ok, refuseTaken_eq_ok, requireReference_eq_ok, pure_eq_ok,
    Option.isSome_eq_false_iff, Option.isNone_iff_eq_none, exists_const, eq_comm (a := t)]

theorem insertEntity_eq_ok {e : Owned k.Fields} :
    s.insertEntity k e = .ok t ↔
      s.entity? k e.id = none ∧ s.hasUser e.owner = true ∧
        t = { s with entities := s.entities.set k (s.entities.get k ++ [e]) } := by
  simp only [insertEntity, bind_eq_ok, refuseTaken_eq_ok, requireReference_eq_ok, pure_eq_ok,
    Option.isSome_eq_false_iff, Option.isNone_iff_eq_none, exists_const, eq_comm (a := t)]

/-- The row that is confirmed is found under the identifier, and it belongs to the caller. -/
theorem confirmDraft_eq_ok {owner id new : Uuid} {e : Owned k.Fields} :
    s.confirmDraft k owner id new = .ok (e, t) ↔
      ∃ d fields, s.draft? k id = some d ∧ d.owner = owner ∧ draftFields k d = .ok fields ∧
        s.checkReferences owner k fields = .ok () ∧ s.entity? k new = none ∧
        s.hasUser owner = true ∧ e = ⟨new, owner, fields⟩ ∧
        t = { s with
          drafts := s.drafts.set k ((s.drafts.get k).filter fun d => d.id ≠ id)
          entities := s.entities.set k (s.entities.get k ++ [e]) } := by
  simp only [confirmDraft, bind_eq_ok, requireOwner_eq_ok, insertEntity_eq_ok, pure_eq_ok,
    deleteDraft]
  constructor
  · rintro ⟨d, ⟨hd, ho⟩, f, hf, u, hr, v, ⟨hn, hu, rfl⟩, h⟩
    cases h
    exact ⟨d, f, hd, ho, hf, hr, hn, hu, rfl, rfl⟩
  · rintro ⟨d, f, hd, ho, hf, hr, hn, hu, rfl, rfl⟩
    exact ⟨d, ⟨hd, ho⟩, f, hf, (), hr, _, ⟨hn, hu, rfl⟩, rfl⟩

theorem updateEntity_eq_ok {owner id : Uuid} {fields : k.Fields} {e : Owned k.Fields} :
    s.updateEntity k owner id fields = .ok (e, t) ↔
      (∃ old, s.entity? k id = some old ∧ old.owner = owner) ∧
        s.checkReferences owner k fields = .ok () ∧ e = ⟨id, owner, fields⟩ ∧
        t = { s with entities := s.entities.set k ((s.entities.get k).map fun e =>
          if e.id = id then { e with fields := fields } else e) } := by
  simp only [updateEntity, bind_eq_ok, getEntity_eq_ok, pure_eq_ok, Prod.mk.injEq]
  constructor
  · rintro ⟨old, ho, u, hr, rfl, rfl⟩
    exact ⟨⟨old, ho⟩, hr, rfl, rfl⟩
  · rintro ⟨⟨old, ho⟩, hr, rfl, rfl⟩
    exact ⟨old, ho, (), hr, rfl, rfl⟩

theorem deleteEntity_eq_ok {owner id : Uuid} :
    s.deleteEntity k owner id = .ok t ↔
      (∃ e, s.entity? k id = some e ∧ e.owner = owner) ∧ t = s.dropEntities k [id] := by
  simp only [deleteEntity, bind_eq_ok, getEntity_eq_ok, pure_eq_ok]
  constructor
  · rintro ⟨e, he, rfl⟩
    exact ⟨⟨e, he⟩, rfl⟩
  · rintro ⟨⟨e, he⟩, rfl⟩
    exact ⟨e, he, rfl⟩

/-- A group's template has to be one of the caller's; nothing else is looked at. -/
theorem checkReferences_group_eq_ok {owner : Uuid} {f : GroupFields} {u : Unit} :
    s.checkReferences owner .group f = .ok u ↔
      ∀ id, f.template = some id → s.owns owner .template id = true := by
  cases h : f.template with
  | none => simp [checkReferences, h]
  | some id => simp [checkReferences, h]

/-! ## Memberships -/

theorem addMember_eq_ok {owner group recipient : Uuid} :
    s.addMember owner group recipient = .ok t ↔
      s.owns owner .group group = true ∧ s.owns owner .recipient recipient = true ∧
        ⟨group, recipient⟩ ∉ s.memberships ∧
        t = { s with memberships := s.memberships ++ [⟨group, recipient⟩] } := by
  simp only [addMember, bind_eq_ok, requireOwned_eq_ok, ite_error_eq_ok, exists_const,
    List.contains_iff_mem, Except.ok.injEq, eq_comm (a := t)]

theorem removeMember_eq_ok {owner group recipient : Uuid} :
    s.removeMember owner group recipient = .ok t ↔
      s.owns owner .group group = true ∧ s.owns owner .recipient recipient = true ∧
        ⟨group, recipient⟩ ∈ s.memberships ∧
        t = { s with memberships := s.memberships.filter fun m => m ≠ ⟨group, recipient⟩ } := by
  simp only [removeMember, bind_eq_ok, requireOwned_eq_ok, ite_ok_eq_ok, exists_const,
    List.contains_iff_mem, Except.ok.injEq, eq_comm (a := t)]

/-! ## Batches and notifications -/

theorem createBatch_eq_ok {id owner : Uuid} :
    s.createBatch id owner = .ok t ↔
      (s.batches.any fun b => b.id = id) = false ∧ s.hasUser owner = true ∧
        t = { s with batches := s.batches ++ [⟨id, owner, .value false⟩] } := by
  simp only [createBatch, bind_eq_ok, refuseTaken_eq_ok, requireReference_eq_ok, pure_eq_ok,
    exists_const, eq_comm (a := t)]

/-- The pending row for a target. -/
def queued (batch : Uuid) (now : Instant) (id : Uuid) (target : Target) : Notification :=
  ⟨id, batch, target.recipient, target.group, Channel.telegram.name, .value now, none⟩

/-- The rows that queueing adds, from the number `i` on. -/
def queuedRows (batch : Uuid) (now : Instant) (fresh : Nat → Uuid) (i : Nat)
    (targets : List Target) : List Notification :=
  (targets.zipIdx i).map fun (target, j) => queued batch now (fresh j) target

/-- What is to be handed to chats for these rows. -/
def queuedDeliveries (fresh : Nat → Uuid) (i : Nat) (targets : List Target) : List Delivery :=
  (targets.zipIdx i).map fun (target, j) => ⟨fresh j, target.chat, target.text⟩

theorem queue_eq_ok {batch : Uuid} {now : Instant} {fresh : Nat → Uuid} {targets : List Target}
    {ds : List Delivery} (hs : (s.notifications.map Notification.id).Nodup) {i : Nat} :
    s.queue batch now fresh i targets = .ok (ds, t) ↔
      ((s.notifications ++ queuedRows batch now fresh i targets).map Notification.id).Nodup ∧
        ds = queuedDeliveries fresh i targets ∧
        t = { s with
          notifications := s.notifications ++ queuedRows batch now fresh i targets } := by
  -- the rows come one after the other, so the store that the rest starts from has one row more
  induction targets generalizing s i ds t with
  | nil =>
    simp only [queue, queuedRows, queuedDeliveries, List.zipIdx_nil, List.map_nil,
      List.append_nil, Except.ok.injEq, Prod.mk.injEq, hs, true_and]
    exact and_congr eq_comm eq_comm
  | cons target targets ih =>
    simp only [queue, bind_eq_ok, refuseTaken_eq_ok, pure_eq_ok]
    by_cases hfree : (s.notifications.any fun n => n.id = fresh i) = false
    · have hnext : ((s.notifications ++ [queued batch now (fresh i) target]).map
          Notification.id).Nodup := by
        rw [List.map_append, List.nodup_append]
        refine ⟨hs, by simp, ?_⟩
        simpa [queued] using hfree
      simp only [hfree, true_and, exists_const, Prod.exists]
      constructor
      · rintro ⟨ds', t', h, hd⟩
        obtain ⟨hn, rfl, rfl⟩ := (ih hnext).mp h
        cases hd
        simpa [queuedRows, queuedDeliveries, queued] using hn
      · rintro ⟨hn, rfl, rfl⟩
        refine ⟨queuedDeliveries fresh (i + 1) targets, _, (ih hnext).mpr ⟨?_, rfl, rfl⟩, ?_⟩
        · simpa [queuedRows, queued] using hn
        · simp [queuedRows, queuedDeliveries, queued]
    · constructor
      · rintro ⟨_, h, _⟩
        exact absurd h hfree
      · rintro ⟨hn, _⟩
        refine absurd (List.any_eq_false.mpr ?_) hfree
        intro n hmem
        rw [List.map_append, List.nodup_append] at hn
        simpa using hn.2.2 _ (List.mem_map_of_mem hmem) (fresh i) (by simp [queuedRows, queued])

theorem startBatch_eq_ok {owner batch : Uuid} {now : Instant} {fresh : Nat → Uuid}
    {ds : List Delivery} (hs : (s.notifications.map Notification.id).Nodup) :
    s.startBatch owner batch now fresh = .ok (ds, t) ↔
      s.isUnsent owner batch = true ∧
        ((s.notifications ++ queuedRows batch now fresh 0 (s.targets owner)).map
          Notification.id).Nodup ∧
        ds = queuedDeliveries fresh 0 (s.targets owner) ∧
        t = { s.markSent batch with
          notifications := s.notifications ++ queuedRows batch now fresh 0 (s.targets owner) } := by
  rw [startBatch, ite_ok_eq_ok, queue_eq_ok (s := s.markSent batch) hs]
  rfl

theorem completeNotification_eq_ok {id : Uuid} {time : Instant} :
    s.completeNotification id time = .ok t ↔
      s.notifications.any (isPending id) = true ∧
        t = { s with notifications := s.notifications.map fun n =>
          if isPending id n then { n with completed := some time } else n } := by
  simp only [completeNotification, ite_ok_eq_ok, Except.ok.injEq, eq_comm (a := t)]

theorem cancelNotification_eq_ok {owner id : Uuid} :
    s.cancelNotification owner id = .ok t ↔
      (s.notifications.any fun n => isPending id n && s.ownsNotification owner n) = true ∧
        t = { s with notifications := s.notifications.filter fun n =>
          !(isPending id n && s.ownsNotification owner n) } := by
  simp only [cancelNotification, ite_ok_eq_ok, Except.ok.injEq, eq_comm (a := t)]

end Store

end AlertService
