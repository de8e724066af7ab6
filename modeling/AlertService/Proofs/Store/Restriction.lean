import AlertService.Proofs.Store.Removal

/-!
# The part of the store that some users own

A store can be cut down to the rows of some users. A membership belongs to the owner of its group
and a notification to the owner of its batch; contacts belong to nobody. In a coherent store the
rows of one owner refer to rows of the same owner only, so that nothing is left dangling.

* `Coherent.restrict`: what is left of a coherent store is coherent.
* `Coherent.deleteUser_eq_ok`: deleting a user leaves the rows of all others.
-/

namespace AlertService

attribute [ext] Store PerKind

namespace PerKind

variable {α β : Kind → Type}

def map (f : ∀ k, α k → β k) (t : PerKind α) : PerKind β :=
  ⟨f _ t.recipient, f _ t.template, f _ t.group⟩

@[simp] theorem get_map (f : ∀ k, α k → β k) (t : PerKind α) (k : Kind) :
    (t.map f).get k = f k (t.get k) := by
  cases k <;> rfl

end PerKind

/-- The identifier of the user satisfies `p`. -/
def User.hasId (u : User) (p : Uuid → Bool) : Bool :=
  match u.id with
  | .value id => p id
  | .foreign _ => false

namespace Store

/-- The rows of the users that satisfy `p`, in their order, and the contacts. -/
def restrict (s : Store) (p : Uuid → Bool) : Store where
  users := s.users.filter fun u => u.hasId p
  sessions := s.sessions.filter fun x => p x.user
  drafts := s.drafts.map fun _ rows => rows.filter fun d => p d.owner
  entities := s.entities.map fun _ rows => rows.filter fun e => p e.owner
  memberships := s.memberships.filter fun m =>
    s.entities.group.any fun g => g.id = m.group && p g.owner
  batches := s.batches.filter fun b => p b.owner
  notifications := s.notifications.filter fun n =>
    s.batches.any fun b => b.id = n.batch && p b.owner
  contacts := s.contacts

variable {s : Store} {p : Uuid → Bool} {k : Kind} {owner id : Uuid}

theorem hasUser_restrict :
    (s.restrict p).hasUser id = true ↔ s.hasUser id = true ∧ p id = true := by
  simp only [hasUser_iff, restrict, List.mem_filter]
  constructor
  · rintro ⟨u, ⟨hu, hp⟩, hid⟩
    exact ⟨⟨u, hu, hid⟩, by simpa [User.hasId, hid] using hp⟩
  · rintro ⟨⟨u, hu, hid⟩, hp⟩
    exact ⟨u, ⟨hu, by simpa [User.hasId, hid] using hp⟩, hid⟩

theorem owns_restrict :
    (s.restrict p).owns owner k id = true ↔ s.owns owner k id = true ∧ p owner = true := by
  simp only [owns_iff, restrict, PerKind.get_map, List.mem_filter]
  constructor
  · rintro ⟨e, ⟨he, hp⟩, hid, rfl⟩
    exact ⟨⟨e, he, hid, rfl⟩, hp⟩
  · rintro ⟨⟨e, he, hid, rfl⟩, hp⟩
    exact ⟨e, ⟨he, hp⟩, hid, rfl⟩

theorem ownsNotification_restrict {n : Notification} :
    (s.restrict p).ownsNotification owner n = true ↔
      s.ownsNotification owner n = true ∧ p owner = true := by
  simp only [ownsNotification_iff, restrict, List.mem_filter]
  constructor
  · rintro ⟨b, ⟨hb, hp⟩, hid, rfl⟩
    exact ⟨⟨b, hb, hid, rfl⟩, hp⟩
  · rintro ⟨⟨b, hb, hid, rfl⟩, hp⟩
    exact ⟨b, ⟨hb, hp⟩, hid, rfl⟩

theorem mem_memberships_restrict {m : Membership} :
    m ∈ (s.restrict p).memberships ↔
      m ∈ s.memberships ∧ ∃ owner, s.owns owner .group m.group = true ∧ p owner = true := by
  simp only [restrict, List.mem_filter, List.any_eq_true, Bool.and_eq_true, decide_eq_true_eq,
    owns_iff]
  refine and_congr_right fun _ => ⟨?_, ?_⟩
  · rintro ⟨g, hg, hid, hp⟩
    exact ⟨g.owner, ⟨g, hg, hid, rfl⟩, hp⟩
  · rintro ⟨_, ⟨g, hg, hid, rfl⟩, hp⟩
    exact ⟨g, hg, hid, hp⟩

theorem mem_notifications_restrict {n : Notification} :
    n ∈ (s.restrict p).notifications ↔
      n ∈ s.notifications ∧ ∃ owner, s.ownsNotification owner n = true ∧ p owner = true := by
  simp only [restrict, List.mem_filter, List.any_eq_true, Bool.and_eq_true, decide_eq_true_eq,
    ownsNotification_iff]
  refine and_congr_right fun _ => ⟨?_, ?_⟩
  · rintro ⟨b, hb, hid, hp⟩
    exact ⟨b.owner, ⟨b, hb, hid, rfl⟩, hp⟩
  · rintro ⟨_, ⟨b, hb, hid, rfl⟩, hp⟩
    exact ⟨b, hb, hid, hp⟩

namespace Coherent

theorem restrict (h : s.Coherent) (p : Uuid → Bool) : (s.restrict p).Coherent where
  userKeys u hu := h.userKeys u (List.mem_of_mem_filter hu)
  userIds := nodup_map_filter _ h.userIds
  userNames := nodup_map_filter _ h.userNames
  sessionIds := nodup_map_filter _ h.sessionIds
  draftIds k := by
    simp only [Store.restrict, PerKind.get_map]
    exact nodup_map_filter _ (h.draftIds k)
  entityIds k := by
    simp only [Store.restrict, PerKind.get_map]
    exact nodup_map_filter _ (h.entityIds k)
  pairs := h.pairs.filter _
  batchIds := nodup_map_filter _ h.batchIds
  notificationIds := nodup_map_filter _ h.notificationIds
  contactIds := h.contactIds
  sessionOwners x hx := by
    obtain ⟨hx, hp⟩ := List.mem_filter.mp hx
    exact hasUser_restrict.mpr ⟨h.sessionOwners x hx, hp⟩
  draftOwners k d hd := by
    simp only [Store.restrict, PerKind.get_map] at hd
    obtain ⟨hd, hp⟩ := List.mem_filter.mp hd
    exact hasUser_restrict.mpr ⟨h.draftOwners k d hd, hp⟩
  entityOwners k e he := by
    simp only [Store.restrict, PerKind.get_map] at he
    obtain ⟨he, hp⟩ := List.mem_filter.mp he
    exact hasUser_restrict.mpr ⟨h.entityOwners k e he, hp⟩
  batchOwners b hb := by
    obtain ⟨hb, hp⟩ := List.mem_filter.mp hb
    exact hasUser_restrict.mpr ⟨h.batchOwners b hb, hp⟩
  members m hm := by
    obtain ⟨hm, owner, ho, hp⟩ := mem_memberships_restrict.mp hm
    obtain ⟨owner', hg, hr⟩ := h.members m hm
    obtain rfl := h.owner_unique ho hg
    exact ⟨owner, owns_restrict.mpr ⟨hg, hp⟩, owns_restrict.mpr ⟨hr, hp⟩⟩
  references g hg id hid := by
    obtain ⟨hg, hp⟩ := List.mem_filter.mp hg
    exact owns_restrict.mpr ⟨h.references g hg id hid, hp⟩
  notifications n hn := by
    obtain ⟨hn, owner, ho, hp⟩ := mem_notifications_restrict.mp hn
    obtain ⟨owner', hb, hg, hr⟩ := h.notifications n hn
    obtain rfl := h.batch_owner_unique ho hb
    exact ⟨owner, ownsNotification_restrict.mpr ⟨hb, hp⟩, owns_restrict.mpr ⟨hg, hp⟩,
      owns_restrict.mpr ⟨hr, hp⟩⟩

/-! ## Deleting a user -/

/-- The owner of a group decides whether a membership stays. -/
theorem any_group (h : s.Coherent) (ho : s.owns owner .group id = true) (p : Uuid → Bool) :
    (s.entities.group.any fun g => g.id = id && p g.owner) = p owner := by
  obtain ⟨g, hg, rfl, rfl⟩ := owns_iff.mp ho
  exact any_key_and (h.entityIds .group) hg fun g => p g.owner

theorem contains_ownedIds (h : s.Coherent) {user : Uuid} (ho : s.owns owner k id = true) :
    (s.ownedIds user k).contains id = decide (owner = user) := by
  obtain ⟨e, he, rfl, rfl⟩ := owns_iff.mp ho
  exact contains_map_filter (h.entityIds k) he fun e => e.owner = user

/-- A deleted user takes along all that it owns and nothing else. -/
theorem deleteUser_eq_ok (h : s.Coherent) {t : Store} :
    s.deleteUser id = .ok t ↔ s.hasUser id = true ∧ t = s.restrict (· ≠ id) := by
  have hgroups : ((s.dropEntities .recipient (s.ownedIds id .recipient)).dropEntities .template
      (s.ownedIds id .template)).ownedIds id .group = s.ownedIds id .group := by
    simp only [ownedIds, Store.dropEntities, PerKind.get, PerKind.set, List.filter_map,
      List.map_map, Function.comp_def]
  have hrows : ∀ k, ((s.entities.get k).filter fun e => !(s.ownedIds id k).contains e.id) =
      (s.entities.get k).filter fun e => e.owner ≠ id := by
    intro k
    refine List.filter_congr fun e he => ?_
    rw [h.contains_ownedIds (owns_of_mem he), decide_not]
  have hbatches : ∀ b ∈ s.batches,
      ((s.batches.filter fun x => x.owner = id).map Batch.id).contains b.id =
        decide (b.owner = id) :=
    fun b hb => contains_map_filter h.batchIds hb fun b => b.owner = id
  simp only [deleteUser, hgroups, batches_dropEntities, ite_error_eq_ok, Bool.not_eq_true',
    Bool.not_eq_false, Except.ok.injEq, eq_comm (b := t)]
  refine and_congr_right fun _ => Eq.congr_right ?_
  refine Store.ext ?_ rfl rfl (PerKind.ext ?_ ?_ ?_) ?_ ?_ ?_ rfl
  · refine List.filter_congr fun u hu => ?_
    obtain ⟨i, hi⟩ := h.userKeys u hu
    simp [User.hasId, hi]
  · exact hrows .recipient
  · exact hrows .template
  · -- the groups that stay refer to templates that stay
    have hclear : ∀ g ∈ s.entities.group.filter fun g => g.owner ≠ id,
        { g with fields.template := g.fields.template.filter fun t =>
          !(s.ownedIds id .template).contains t } = g := by
      intro g hg
      obtain ⟨hg, ho⟩ := List.mem_filter.mp hg
      have hkeep : (g.fields.template.filter fun t => !(s.ownedIds id .template).contains t) =
          g.fields.template := by
        cases ht : g.fields.template with
        | none => rfl
        | some t =>
          rw [Option.filter_some_pos]
          rw [h.contains_ownedIds (h.references g hg t ht), ← decide_not]
          exact ho
      rw [hkeep]
    show (s.entities.group.map _).filter _ = s.entities.group.filter _
    rw [List.filter_map]
    refine Eq.trans (congrArg _ (hrows .group)) ?_
    exact (List.map_congr_left hclear).trans (List.map_id' _)
  · show ((s.memberships.filter _).filter _) = s.memberships.filter _
    rw [List.filter_filter]
    refine List.filter_congr fun m hm => ?_
    obtain ⟨owner, hg, hr⟩ := h.members m hm
    rw [h.contains_ownedIds hg, h.contains_ownedIds hr, h.any_group hg fun x => decide (x ≠ id),
      Bool.and_self, decide_not]
  · refine List.filter_congr fun b hb => ?_
    exact (congrArg _ (hbatches b hb)).trans decide_not.symm
  · show ((s.notifications.filter _).filter _).filter _ = s.notifications.filter _
    rw [List.filter_filter, List.filter_filter]
    refine List.filter_congr fun n hn => ?_
    obtain ⟨owner, ho, hg, hr⟩ := h.notifications n hn
    obtain ⟨b, hb, hid, rfl⟩ := ownsNotification_iff.mp ho
    rw [h.contains_ownedIds hg, h.contains_ownedIds hr, ← hid, hbatches b hb,
      any_key_and h.batchIds hb fun b => decide (b.owner ≠ id), Bool.and_self, Bool.and_self,
      decide_not]

end Coherent

end Store

end AlertService
