import AlertService.Proofs.Store.Columns

/-!
# Batches are sent once

As long as no identifier is generated twice, a batch is started once at most. That is when its
notifications are made, all of them pending. From then on each of them waits, until it is
completed or goes, and no more come.

* `SendsOnce`: all of this, about a run.
* `sendsOnce`: it holds of every run with fresh identifiers.
-/

namespace AlertService

open Operation Database

/-- What may become of a batch: nothing, or it is sent. -/
def Batch.Becomes (b b' : Batch) : Prop :=
  b' = b ∨ b.sent = .value false ∧ b' = { b with sent := .value true }

/-- What may become of a notification: nothing, or it is completed. -/
def Notification.Becomes (n n' : Notification) : Prop :=
  n' = n ∨ n.completed = none ∧ ∃ time, n' = { n with completed := some time }

/-- The identifiers of the notifications that the calls make. -/
def Database.notified (d : Database) : List Operation → List Uuid
  | [] => []
  | op :: ops => op.notifies d.store ++ (d.perform op).notified ops

variable {ops before mid : List Operation} {owner batch id : Uuid} {now time : Instant}
  {fresh : Nat → Uuid} {b b' : Batch} {n n' : Notification}

theorem notified_append (d : Database) (ops₁ ops₂ : List Operation) :
    d.notified (ops₁ ++ ops₂) = d.notified ops₁ ++ (d.run ops₁).notified ops₂ := by
  induction ops₁ generalizing d with
  | nil => rfl
  | cons op ops₁ ih =>
    simp only [List.cons_append, Database.notified, ih, run_cons, List.append_assoc]

/-! ## Single calls -/

/-- A batch that is started was unsent, and then is sent. -/
theorem startBatch_marks (h : (startBatch owner batch now fresh).SucceedsAfter before) :
    ⟨batch, owner, .value false⟩ ∈ (after before).store.batches ∧
      ⟨batch, owner, .value true⟩ ∈
        (after (before ++ [.startBatch owner batch now fresh])).store.batches := by
  have hcoherent := coherent_run coherent_fresh before
  obtain ⟨s, hs⟩ := h
  rw [after_concat, perform_of_ok (after_poisoned before) hs]
  obtain ⟨⟨ds, s⟩, hok, rfl⟩ := map_eq_ok.mp hs
  obtain ⟨hunsent, -, -, rfl⟩ := (Store.startBatch_eq_ok hcoherent.notificationIds).mp hok
  obtain ⟨b, hb, rfl, rfl, hsent⟩ := Store.isUnsent_iff.mp hunsent
  exact ⟨hsent ▸ hb, List.mem_map.mpr ⟨b, hb, if_pos rfl⟩⟩

theorem completeNotification_marks (h : (completeNotification id time).SucceedsAfter before) :
    ∃ n ∈ (after (before ++ [.completeNotification id time])).store.notifications,
      n.id = id ∧ n.completed = some time := by
  obtain ⟨s, hs⟩ := h
  rw [after_concat, perform_of_ok (after_poisoned before) hs]
  obtain ⟨hpending, rfl⟩ := Store.completeNotification_eq_ok.mp hs
  obtain ⟨n, hn, hp⟩ := List.any_eq_true.mp hpending
  exact ⟨_, List.mem_map.mpr ⟨n, hn, if_pos hp⟩, (Store.isPending_iff.mp hp).1, rfl⟩

theorem completeNotification_pending (h : (completeNotification id time).SucceedsAfter before) :
    ∃ n ∈ (after before).store.notifications, n.id = id ∧ n.completed = none := by
  obtain ⟨s, hs⟩ := h
  obtain ⟨hpending, -⟩ := Store.completeNotification_eq_ok.mp hs
  obtain ⟨n, hn, hp⟩ := List.any_eq_true.mp hpending
  exact ⟨n, hn, Store.isPending_iff.mp hp⟩

theorem cancelNotification_succeeds :
    (cancelNotification owner id).SucceedsAfter before ↔
      ∃ n ∈ (after before).store.notifications, n.id = id ∧ n.completed = none ∧
        ∃ b ∈ (after before).store.batches, b.id = n.batch ∧ b.owner = owner := by
  have hsucceeds : (cancelNotification owner id).SucceedsAfter before ↔
      ((after before).store.notifications.any fun n => Store.isPending id n &&
        (after before).store.ownsNotification owner n) = true := by
    constructor
    · rintro ⟨s, hs⟩
      exact (Store.cancelNotification_eq_ok.mp hs).1
    · intro hany
      exact ⟨_, Store.cancelNotification_eq_ok.mpr ⟨hany, rfl⟩⟩
  simp only [hsucceeds, List.any_eq_true, Bool.and_eq_true, Store.isPending_iff,
    Store.ownsNotification_iff, and_assoc]

/-- No notification is left under the identifier of one that is cancelled. -/
theorem not_mem_of_cancelNotification (h : (cancelNotification owner id).SucceedsAfter before) :
    ∀ n ∈ (after (before ++ [.cancelNotification owner id])).store.notifications, n.id ≠ id := by
  have hcoherent := coherent_run coherent_fresh before
  obtain ⟨s, hs⟩ := h
  rw [after_concat, perform_of_ok (after_poisoned before) hs]
  obtain ⟨hany, rfl⟩ := Store.cancelNotification_eq_ok.mp hs
  obtain ⟨old, hold, hcancelled⟩ := List.any_eq_true.mp hany
  have holdid : old.id = id := (Store.isPending_iff.mp (Bool.and_eq_true_iff.mp hcancelled).1).1
  intro n hn hid
  obtain ⟨hn, hkept⟩ := List.mem_filter.mp hn
  obtain rfl := List.inj_on_of_nodup_map hcoherent.notificationIds hn hold (hid.trans holdid.symm)
  rw [hcancelled] at hkept
  exact nomatch hkept

/-- A batch is sent by being started for its owner. -/
theorem startBatch_of_sent {op : Operation} (hb : b ∈ (after before).store.batches)
    (hb' : b' ∈ (after (before ++ [op])).store.batches) (hid : b'.id = b.id)
    (hsent : b'.sent ≠ b.sent) :
    op.SucceedsAfter before ∧ ∃ now fresh, op = .startBatch b.owner b.id now fresh := by
  have hcoherent := coherent_run coherent_fresh before
  have hne : b' ∉ (after before).store.batches := fun hold =>
    hsent (congrArg Batch.sent (List.inj_on_of_nodup_map hcoherent.batchIds hold hb hid))
  rw [after_concat] at hb'
  obtain ⟨s, hs, hp⟩ | hp := perform_cases (after before) op
  · rw [hp] at hb'
    rcases batch_of_apply hcoherent hs hb' with hold | ⟨rfl, -⟩ | ⟨⟨now, fresh, rfl⟩, -, hold⟩
    · exact absurd hold hne
    · obtain ⟨hfree, -⟩ := Store.createBatch_eq_ok.mp hs
      rw [hid, List.any_eq_false] at hfree
      exact absurd (decide_eq_true rfl) (hfree b hb)
    · have hrow := List.inj_on_of_nodup_map hcoherent.batchIds hold hb hid
      exact ⟨⟨s, hs⟩, now, fresh, by rw [← hrow]⟩
  · rw [hp] at hb'
    exact absurd hb' hne

/-- A notification comes from its batch being started, and it is pending at first. -/
theorem notification_arises {op : Operation}
    (hn : n ∈ (after (before ++ [op])).store.notifications)
    (hnew : ∀ n' ∈ (after before).store.notifications, n'.id ≠ n.id) :
    n.completed = none ∧ op.SucceedsAfter before ∧
      ∃ owner now fresh, op = .startBatch owner n.batch now fresh := by
  rw [after_concat] at hn
  obtain ⟨s, hs, hp⟩ | hp := perform_cases (after before) op
  · rw [hp] at hn
    rcases notification_of_apply (coherent_run coherent_fresh before) hs hn with
      hold | ⟨-, -, -, hold⟩ | ⟨owner, now, fresh, rfl, -, hnone, -⟩
    · exact absurd rfl (hnew n hold)
    · exact absurd rfl (hnew { n with completed := none } hold)
    · exact ⟨hnone, ⟨s, hs⟩, owner, now, fresh, rfl⟩
  · rw [hp] at hn
    exact absurd rfl (hnew n hn)

/-! ## Rows of a run -/

/-- A batch goes back to the call that made it. -/
theorem createBatch_of_mem (hb : b ∈ (after ops).store.batches) :
    .createBatch b.id b.owner ∈ ops := by
  have hempty : ¬∃ b' ∈ Database.fresh.store.batches, b'.id = b.id ∧ b'.owner = b.owner := by
    rintro ⟨b', hb', -⟩
    exact List.not_mem_nil hb'
  obtain ⟨before, op, rest, s, rfl, hbefore, hs, b', hb', hid, ho⟩ :=
    exists_step (P := fun s => ∃ b' ∈ s.batches, b'.id = b.id ∧ b'.owner = b.owner) hempty
      ⟨b, hb, rfl, rfl⟩
  refine List.mem_append_right _ ?_
  rcases batch_of_apply (coherent_run coherent_fresh before) hs hb' with
    hold | ⟨rfl, -⟩ | ⟨-, -, hold⟩
  · exact absurd ⟨b', hold, hid, ho⟩ hbefore
  · rw [hid, ho]
    exact List.mem_cons_self
  · exact absurd ⟨_, hold, hid, ho⟩ hbefore

/-- A notification under an identifier that none had before was made in between. -/
theorem notified_of_new {d : Database} (hd : d.store.Coherent)
    (hnone : ∀ n ∈ d.store.notifications, n.id ≠ id) (hn : n ∈ (d.run ops).store.notifications)
    (hid : n.id = id) : id ∈ d.notified ops := by
  obtain ⟨before, op, rest, s, rfl, hbefore, hs, n, hn, rfl⟩ :=
    exists_step (P := fun s => ∃ n ∈ s.notifications, n.id = id)
      (by simpa using hnone) ⟨n, hn, hid⟩
  rw [notified_append]
  refine List.mem_append_right _ (List.mem_append_left _ ?_)
  rcases notification_of_apply (coherent_run hd before) hs hn with
    hold | ⟨-, -, -, hold⟩ | ⟨-, -, -, -, hmade, -⟩
  · exact absurd ⟨n, hold, rfl⟩ hbefore
  · exact absurd ⟨_, hold, rfl⟩ hbefore
  · exact hmade

/-- Every notification was made by some call. -/
theorem notified_of_mem (hn : n ∈ (after ops).store.notifications) :
    n.id ∈ Database.fresh.notified ops :=
  notified_of_new coherent_fresh (fun _ h => absurd h List.not_mem_nil) hn rfl

/-! ## Whole runs -/

/-- What a run does to batches and notifications. -/
structure SendsOnce (ops : List Operation) : Prop where
  /-- A batch is unsent until it is sent, and sent from then on. Nothing else about it changes. -/
  batches : ∀ before mid, before ++ mid <+: ops → ∀ b ∈ (after before).store.batches,
    (b.sent = .value false ∨ b.sent = .value true) ∧
      ∀ b' ∈ (after (before ++ mid)).store.batches, b'.id = b.id → b.Becomes b'
  /-- It is sent by being started for its owner. -/
  marks : ∀ before op, before ++ [op] <+: ops → ∀ b ∈ (after before).store.batches,
    ∀ b' ∈ (after (before ++ [op])).store.batches, b'.id = b.id → b'.sent ≠ b.sent →
      op.SucceedsAfter before ∧ ∃ now fresh, op = .startBatch b.owner b.id now fresh
  /-- A batch that is started was unsent and then is sent. -/
  starts : ∀ before owner batch now fresh, before ++ [.startBatch owner batch now fresh] <+: ops →
    (startBatch owner batch now fresh).SucceedsAfter before →
      ⟨batch, owner, .value false⟩ ∈ (after before).store.batches ∧
        ⟨batch, owner, .value true⟩ ∈
          (after (before ++ [.startBatch owner batch now fresh])).store.batches
  /-- No batch is started a second time, be it for another user. -/
  once : ∀ before mid owner₁ owner₂ batch now₁ now₂ fresh₁ fresh₂,
    before ++ .startBatch owner₁ batch now₁ fresh₁ ::
      (mid ++ [.startBatch owner₂ batch now₂ fresh₂]) <+: ops →
    (startBatch owner₁ batch now₁ fresh₁).SucceedsAfter before →
      ¬(startBatch owner₂ batch now₂ fresh₂).SucceedsAfter
        (before ++ .startBatch owner₁ batch now₁ fresh₁ :: mid)
  /-- Notifications come into being when their batch is started, and are pending. -/
  arises : ∀ before op, before ++ [op] <+: ops →
    ∀ n ∈ (after (before ++ [op])).store.notifications,
    (∀ n' ∈ (after before).store.notifications, n'.id ≠ n.id) →
      n.completed = none ∧ op.SucceedsAfter before ∧
        ∃ owner now fresh, op = .startBatch owner n.batch now fresh
  /-- So a batch that was started gets no more of them. -/
  shrinks : ∀ before mid₁ mid₂ owner batch now fresh,
    before ++ .startBatch owner batch now fresh :: (mid₁ ++ mid₂) <+: ops →
    (startBatch owner batch now fresh).SucceedsAfter before →
    ∀ n ∈
      (after (before ++ .startBatch owner batch now fresh :: (mid₁ ++ mid₂))).store.notifications,
      n.batch = batch →
        ∃ n' ∈ (after (before ++ .startBatch owner batch now fresh :: mid₁)).store.notifications,
          n'.batch = batch ∧ n'.id = n.id
  /-- A notification is completed once at most. Nothing else about it changes. -/
  notifications : ∀ before mid, before ++ mid <+: ops → ∀ n ∈ (after before).store.notifications,
    ∀ n' ∈ (after (before ++ mid)).store.notifications, n'.id = n.id → n.Becomes n'
  /-- What can be cancelled is a pending notification of a batch of the caller. -/
  cancels : ∀ before owner id, before ++ [.cancelNotification owner id] <+: ops →
    ((cancelNotification owner id).SucceedsAfter before ↔
      ∃ n ∈ (after before).store.notifications, n.id = id ∧ n.completed = none ∧
        ∃ b ∈ (after before).store.batches, b.id = n.batch ∧ b.owner = owner)
  /-- What was completed is not cancelled later. -/
  completed : ∀ before mid owner id time,
    before ++ .completeNotification id time :: (mid ++ [.cancelNotification owner id]) <+: ops →
    (completeNotification id time).SucceedsAfter before →
      ¬(cancelNotification owner id).SucceedsAfter (before ++ .completeNotification id time :: mid)
  /-- What was cancelled is not completed later. -/
  cancelled : ∀ before mid owner id time,
    before ++ .cancelNotification owner id :: (mid ++ [.completeNotification id time]) <+: ops →
    (cancelNotification owner id).SucceedsAfter before →
      ¬(completeNotification id time).SucceedsAfter
        (before ++ .cancelNotification owner id :: mid)
  /-- A user can list all notifications or the pending ones among them, and get each of them. -/
  lists : ∀ before, before <+: ops → ∀ owner, ∃ all,
    (after before).store.listNotifications owner false = .ok all ∧
      (after before).store.listNotifications owner true =
        .ok (all.filter fun n => n.completed.isNone) ∧
      ∀ id r, (after before).store.getNotification owner id = .ok r ↔ r ∈ all ∧ r.id = id

section Fresh

/-- A batch is not made a second time, so what is found later is what has become of it. -/
theorem batch_becomes (h : (ops.filterMap generated?).Nodup) (hops : before ++ mid <+: ops)
    (hb : b ∈ (after before).store.batches) (hb' : b' ∈ (after (before ++ mid)).store.batches)
    (hid : b'.id = b.id) : b.Becomes b' := by
  have hfresh : ((before ++ mid).filterMap generated?).Nodup :=
    h.sublist (hops.sublist.filterMap generated?)
  rw [after_append] at hb'
  refine run_keeps (P := fun s => ∀ b' ∈ s.batches, b'.id = b.id → b.Becomes b') ?_ ?_ b' hb' hid
  · intro b' hb' hid
    exact Or.inl (List.inj_on_of_nodup_map (coherent_run coherent_fresh before).batchIds hb' hb hid)
  · rintro mid₁ op mid₂ s rfl hkept hs b' hb' hid
    rw [← after_append] at hkept hs
    rcases batch_of_apply (coherent_run coherent_fresh _) hs hb' with
      hold | ⟨rfl, -⟩ | ⟨-, hsent, hold⟩
    · exact hkept b' hold hid
    · refine absurd (congrArg some hid) (disjoint_generated
        (b := createBatch b'.id b'.owner) hfresh (createBatch_of_mem hb) ?_ rfl)
      exact List.mem_append_right _ List.mem_cons_self
    · obtain ⟨id, owner, sent⟩ := b'
      obtain rfl : sent = .value true := hsent
      rcases hkept _ hold hid with he | ⟨-, he⟩
      · exact Or.inr ⟨he ▸ rfl, he ▸ rfl⟩
      · exact nomatch congrArg Batch.sent he

theorem not_started_again (h : (ops.filterMap generated?).Nodup) {owner₁ owner₂ : Uuid}
    {now₁ now₂ : Instant} {fresh₁ fresh₂ : Nat → Uuid}
    (hops : before ++ .startBatch owner₁ batch now₁ fresh₁ :: mid <+: ops)
    (h₁ : (startBatch owner₁ batch now₁ fresh₁).SucceedsAfter before) :
    ¬(startBatch owner₂ batch now₂ fresh₂).SucceedsAfter
      (before ++ .startBatch owner₁ batch now₁ fresh₁ :: mid) := by
  intro h₂
  have hsent := (startBatch_marks h₁).2
  have hunsent := (startBatch_marks h₂).1
  rw [← List.singleton_append, ← List.append_assoc] at hops hunsent
  rcases batch_becomes h hops hsent hunsent rfl with he | ⟨he, -⟩
  · exact nomatch congrArg Batch.sent he
  · exact nomatch he

theorem notifications_shrink (h : (ops.filterMap generated?).Nodup) {mid₁ mid₂ : List Operation}
    (hops : before ++ .startBatch owner batch now fresh :: (mid₁ ++ mid₂) <+: ops)
    (hstart : (startBatch owner batch now fresh).SucceedsAfter before)
    (hn : n ∈ (after (before ++ .startBatch owner batch now fresh ::
      (mid₁ ++ mid₂))).store.notifications) (hbatch : n.batch = batch) :
    ∃ n' ∈ (after (before ++ .startBatch owner batch now fresh :: mid₁)).store.notifications,
      n'.batch = batch ∧ n'.id = n.id := by
  by_contra hgone
  rw [← List.cons_append, ← List.append_assoc] at hn hops
  rw [after_append] at hn
  -- the notification would have been made by another start
  obtain ⟨rest₁, op, rest₂, s, rfl, hnone, hs, n', hn', hbatch', hid⟩ :=
    exists_step (P := fun s => ∃ n' ∈ s.notifications, n'.batch = batch ∧ n'.id = n.id) hgone
      ⟨n, hn, hbatch, rfl⟩
  rw [← after_append] at hnone hs
  rcases notification_of_apply (coherent_run coherent_fresh _) hs hn' with
    hold | ⟨-, -, -, hold⟩ | ⟨owner', now', fresh', rfl, -⟩
  · exact hnone ⟨n', hold, hbatch', hid⟩
  · exact hnone ⟨_, hold, hbatch', hid⟩
  · rw [hbatch', List.append_assoc, List.cons_append] at hs hops
    have hprefix : before ++ .startBatch owner batch now fresh :: (mid₁ ++ rest₁) <+: ops := by
      refine List.IsPrefix.trans ?_ hops
      exact ⟨.startBatch owner' batch now' fresh' :: rest₂, by simp⟩
    exact not_started_again h hprefix hstart ⟨s, hs⟩

/-- An identifier under which there was a notification is not used for another one. -/
theorem not_notified_again (h : (Database.fresh.notified ops).Nodup)
    (hops : before ++ mid <+: ops) (hid : id ∈ Database.fresh.notified before) :
    id ∉ (after before).notified mid := by
  obtain ⟨rest, rfl⟩ := hops
  rw [notified_append, notified_append, List.nodup_append, List.nodup_append] at h
  exact fun hid' => h.1.2.2 id hid id hid' rfl

theorem notification_becomes (h : (Database.fresh.notified ops).Nodup)
    (hops : before ++ mid <+: ops) (hn : n ∈ (after before).store.notifications)
    (hn' : n' ∈ (after (before ++ mid)).store.notifications) (hid : n'.id = n.id) :
    n.Becomes n' := by
  have hnot := not_notified_again h hops (notified_of_mem hn)
  rw [after_append] at hn'
  refine run_keeps (P := fun s => ∀ n' ∈ s.notifications, n'.id = n.id → n.Becomes n') ?_ ?_
    n' hn' hid
  · intro n' hn' hid
    have hids := (coherent_run coherent_fresh before).notificationIds
    exact Or.inl (List.inj_on_of_nodup_map hids hn' hn hid)
  · rintro mid₁ op mid₂ s rfl hkept hs n' hn' hid
    have hcoherent := coherent_run (coherent_run coherent_fresh before) mid₁
    rcases notification_of_apply hcoherent hs hn' with
      hold | ⟨time, -, hcompleted, hold⟩ | ⟨-, -, -, -, hmade, -⟩
    · exact hkept n' hold hid
    · obtain ⟨id, batch, recipient, group, channel, created, completed⟩ := n'
      obtain rfl : completed = some time := hcompleted
      rcases hkept _ hold hid with he | ⟨-, _, he⟩
      · exact Or.inr ⟨he ▸ rfl, time, he ▸ rfl⟩
      · exact nomatch congrArg Notification.completed he
    · rw [hid] at hmade
      rw [notified_append] at hnot
      exact absurd (List.mem_append_right _ (List.mem_append_left _ hmade)) hnot

theorem not_cancelled_after_completion (h : (Database.fresh.notified ops).Nodup)
    (hops : before ++ .completeNotification id time :: mid <+: ops)
    (hcomplete : (completeNotification id time).SucceedsAfter before) :
    ¬(cancelNotification owner id).SucceedsAfter
      (before ++ .completeNotification id time :: mid) := by
  intro hcancel
  obtain ⟨n, hn, hid, hdone⟩ := completeNotification_marks hcomplete
  obtain ⟨n', hn', hid', hpending, -⟩ := cancelNotification_succeeds.mp hcancel
  rw [← List.singleton_append, ← List.append_assoc] at hops hn'
  rcases notification_becomes h hops hn hn' (hid'.trans hid.symm) with rfl | ⟨hnone, -⟩
  · exact nomatch hdone.symm.trans hpending
  · exact nomatch hdone.symm.trans hnone

theorem not_completed_after_cancellation (h : (Database.fresh.notified ops).Nodup)
    (hops : before ++ .cancelNotification owner id :: mid <+: ops)
    (hcancel : (cancelNotification owner id).SucceedsAfter before) :
    ¬(completeNotification id time).SucceedsAfter
      (before ++ .cancelNotification owner id :: mid) := by
  intro hcomplete
  obtain ⟨n, hn, rfl, -⟩ := cancelNotification_succeeds.mp hcancel
  obtain ⟨n', hn', hid, -⟩ := completeNotification_pending hcomplete
  rw [← List.singleton_append, ← List.append_assoc] at hops hn'
  -- it is gone, so it would have had to be made again
  have hmade : n.id ∈ Database.fresh.notified (before ++ [.cancelNotification owner n.id]) := by
    rw [notified_append]
    exact List.mem_append_left _ (notified_of_mem hn)
  rw [after_append] at hn'
  exact not_notified_again h hops hmade (notified_of_new (coherent_run coherent_fresh _)
    (not_mem_of_cancelNotification hcancel) hn' hid)

/-- Whatever users do, in whatever order and with whatever mishaps: as long as identifiers are
fresh, each batch is sent once at most, and each of its notifications is completed or cancelled
once at most. -/
theorem sendsOnce (hgenerated : (ops.filterMap generated?).Nodup)
    (hnotified : (Database.fresh.notified ops).Nodup) : SendsOnce ops where
  batches before mid hops b hb := by
    refine ⟨?_, fun b' hb' hid => batch_becomes hgenerated hops hb hb' hid⟩
    obtain ⟨sent, hsent⟩ := (sound_after before).typed.sent b hb
    cases sent
    · exact Or.inl hsent
    · exact Or.inr hsent
  marks before op _ b hb b' hb' hid hsent := startBatch_of_sent hb hb' hid hsent
  starts before owner batch now fresh _ hstart := startBatch_marks hstart
  once before mid owner₁ owner₂ batch now₁ now₂ fresh₁ fresh₂ hops hstart := by
    refine not_started_again hgenerated (List.IsPrefix.trans ?_ hops) hstart
    exact ⟨[.startBatch owner₂ batch now₂ fresh₂], by simp⟩
  arises before op _ n hn hnew := notification_arises hn hnew
  shrinks before mid₁ mid₂ owner batch now fresh hops hstart n hn hbatch :=
    notifications_shrink hgenerated hops hstart hn hbatch
  notifications before mid hops n hn n' hn' hid := notification_becomes hnotified hops hn hn' hid
  cancels before owner id _ := cancelNotification_succeeds
  completed before mid owner id time hops hcomplete := by
    refine not_cancelled_after_completion hnotified (List.IsPrefix.trans ?_ hops) hcomplete
    exact ⟨[.cancelNotification owner id], by simp⟩
  cancelled before mid owner id time hops hcancel := by
    refine not_completed_after_cancellation hnotified (List.IsPrefix.trans ?_ hops) hcancel
    exact ⟨[.completeNotification id time], by simp⟩
  lists before _ owner := by
    have hsound := sound_after before
    refine ⟨_, hsound.typed.listNotifications owner false, ?_, fun id r => ?_⟩
    · rw [hsound.typed.listNotifications owner true, List.filter_map, List.filter_filter]
      simp only [Bool.not_true, Bool.false_or, Bool.not_false, Bool.true_or, Bool.and_true]
      refine congrArg Except.ok (congrArg (List.map Notification.record) ?_)
      exact List.filter_congr fun n _ => Bool.and_comm _ _
    · simpa using hsound.typed.getNotification_eq_ok hsound.coherent

end Fresh

/-- A batch reaches a member who has opted in. The notification is completed, so that it cannot be
cancelled. -/
theorem sendsOnce_of_member :
    let ops : List Operation := [.createUser (.uniform 0) "anna" "hash",
      .insertDraft .template (.uniform 1) (.uniform 0) ⟨"alarm", some "leave the house"⟩,
      .confirmDraft .template (.uniform 0) (.uniform 1) (.uniform 2),
      .insertDraft .group (.uniform 3) (.uniform 0) ⟨"family", true, some (.uniform 2)⟩,
      .confirmDraft .group (.uniform 0) (.uniform 3) (.uniform 4),
      .insertDraft .recipient (.uniform 5) (.uniform 0) ⟨"ben", none, none, some 7⟩,
      .confirmDraft .recipient (.uniform 0) (.uniform 5) (.uniform 6),
      .addMember (.uniform 0) (.uniform 4) (.uniform 6), .activateContact 7,
      .createBatch (.uniform 8) (.uniform 0),
      .startBatch (.uniform 0) (.uniform 8) (.ofSeconds 0) fun i => .uniform (Fin.ofNat 16 (9 + i)),
      .completeNotification (.uniform 9) (.ofSeconds 1),
      .cancelNotification (.uniform 0) (.uniform 9)]
    (ops.filterMap generated?).Nodup ∧ Database.fresh.notified ops = [.uniform 9] ∧
      SendsOnce ops := by
  intro ops
  have hgenerated : (ops.filterMap generated?).Nodup := by decide
  have hnotified : Database.fresh.notified ops = [.uniform 9] := by decide
  exact ⟨hgenerated, hnotified, sendsOnce hgenerated (hnotified ▸ List.nodup_singleton _)⟩
end AlertService
