import AlertService.Proofs.Store.Origin

/-!
# What goes with a row

A deletion reaches other rows on several ways: a group goes with its user, it loses its reference to a
template that goes with the same user, and a notification depends on a batch, a group and a recipient
at once. All the same it takes along the rows that are the user's, or that depend on the entity, and
no others. Drafts refer to templates without the engine's knowledge, so that they keep the identifier
of a template that is gone.

* `Coherent.deleteUser_iff`, `deleteEntity_iff`: what is left.
* `not_mem_later`: a template that is gone does not come back.
* `cascades`: all of this after every run, and what becomes of the drafts.
-/

namespace AlertService

open Operation Database

variable {s t : Store} {k : Kind} {owner id user : Uuid} {ops later : List Operation}

/-! ## One deletion -/

namespace Store

/-- What is left without a user and what it owns. A membership belongs to the owner of its group. -/
def withoutUser (s : Store) (id : Uuid) : Store where
  users := s.users.filter fun u => u.id ≠ .value id
  sessions := s.sessions.filter fun x => x.user ≠ id
  drafts := s.drafts.map fun _ rows => rows.filter fun d => d.owner ≠ id
  entities := s.entities.map fun _ rows => rows.filter fun e => e.owner ≠ id
  memberships := s.memberships.filter fun m => !s.owns id .group m.group
  batches := s.batches.filter fun b => b.owner ≠ id
  notifications := s.notifications.filter fun n => !s.ownsNotification id n
  contacts := s.contacts

theorem Coherent.owns_eq (h : s.Coherent) (ho : s.owns owner k id = true) (user : Uuid) :
    s.owns user k id = decide (owner = user) := by
  rw [Bool.eq_iff_iff, decide_eq_true_eq]
  constructor
  · exact h.owner_unique ho
  · rintro rfl
    exact ho

theorem Coherent.restrict_eq_withoutUser (h : s.Coherent) (id : Uuid) :
    s.restrict (· ≠ id) = s.withoutUser id := by
  have husers : (s.users.filter fun u => u.hasId (· ≠ id)) =
      s.users.filter fun u => u.id ≠ .value id := by
    refine List.filter_congr fun u hu => ?_
    obtain ⟨i, hi⟩ := h.userKeys u hu
    simp [User.hasId, hi]
  have hmemberships : (s.memberships.filter fun m =>
      s.entities.group.any fun g => g.id = m.group && decide (g.owner ≠ id)) =
        s.memberships.filter fun m => !s.owns id .group m.group := by
    refine List.filter_congr fun m hm => ?_
    -- the group has one owner, so that "owned by another" is "not owned by this one"
    obtain ⟨owner, hg, -⟩ := h.members m hm
    rw [h.any_group hg fun o => decide (o ≠ id), h.owns_eq hg, decide_not]
  have hnotifications : (s.notifications.filter fun n =>
      s.batches.any fun b => b.id = n.batch && decide (b.owner ≠ id)) =
        s.notifications.filter fun n => !s.ownsNotification id n := by
    refine List.filter_congr fun n hn => ?_
    obtain ⟨_, ho, -, -⟩ := h.notifications n hn
    obtain ⟨b, hb, hid, -⟩ := ownsNotification_iff.mp ho
    rw [ownsNotification, ← hid, any_key_and h.batchIds hb fun b => decide (b.owner ≠ id),
      any_key_and h.batchIds hb fun b => decide (b.owner = id), decide_not]
  exact Store.ext husers rfl rfl rfl hmemberships rfl hnotifications rfl

theorem Coherent.deleteUser_iff (h : s.Coherent) :
    s.deleteUser id = .ok t ↔ s.hasUser id = true ∧ t = s.withoutUser id := by
  rw [h.deleteUser_eq_ok, h.restrict_eq_withoutUser]

theorem Coherent.deleteEntity_iff (h : s.Coherent) :
    s.deleteEntity k owner id = .ok t ↔ s.owns owner k id = true ∧ t = s.without k id := by
  rw [deleteEntity_eq_ok, dropEntities_singleton, owns_iff]
  refine and_congr_left fun _ => exists_congr fun e => ?_
  rw [h.entity?_eq_some, and_assoc]

/-! ## References that are left dangling -/

/-- A group cannot be confirmed with a template that does not exist. -/
theorem Coherent.confirmDraft_of_dangling (h : s.Coherent) {d : Draft GroupFields}
    (hd : d ∈ s.drafts.group) (hstray : d.stray = none) (hid : d.fields.template = some id)
    (hgone : ∀ e ∈ s.entities.template, e.id ≠ id) (new : Uuid) :
    s.confirmDraft .group d.owner d.id new =
      .error (.invalidReference "notification_template_id") := by
  have hfound : s.draft? .group d.id = some d := h.draft?_eq_some.mpr ⟨hd, rfl⟩
  have hfields : draftFields .group d = .ok d.fields := draftFields_of_not_stray hstray
  have hforeign : s.owns d.owner .template id = false := by
    refine List.any_eq_false.mpr fun e he => ?_
    simp [hgone e he]
  have hrefused : s.checkReferences d.owner .group d.fields =
      .error (.invalidReference "notification_template_id") := by
    simp [checkReferences, hid, hforeign]
  simp only [Store.confirmDraft, requireOwner, hfound, if_true, hfields, hrefused, bind, Except.bind]

end Store

/-! ## Runs -/

namespace Database

/-- An entity that does not exist comes to exist under its identifier by a confirmation alone. -/
theorem not_mem_later {d : Database} (hd : d.store.Coherent)
    (hgone : ∀ e ∈ d.store.entities.get k, e.id ≠ id)
    (hlater : ∀ owner draft, .confirmDraft k owner draft id ∉ later) :
    ∀ e ∈ (d.run later).store.entities.get k, e.id ≠ id := by
  refine run_keeps (P := fun s => ∀ e ∈ s.entities.get k, e.id ≠ id) hgone ?_
  rintro before op rest t rfl hbefore ht e he hid
  rcases entity_of_apply (coherent_run hd before) ht he with ⟨e', he', hid', -⟩ | ⟨draft, rfl⟩
  · exact hbefore e' he' (hid'.trans hid)
  · rw [hid] at hlater
    exact hlater e.owner draft (List.mem_append_right _ List.mem_cons_self)

/-- Group drafts may refer to the template still, but they are not confirmed any more. -/
structure LeavesDangling (ops : List Operation) (id : Uuid) (later : List Operation) : Prop where
  refused : ∀ d ∈ (after (ops ++ later)).store.drafts.group, d.fields.template = some id →
    ∀ new, (after (ops ++ later)).store.confirmDraft .group d.owner d.id new =
      .error (.invalidReference "notification_template_id")
  /-- A draft stays as it is, with its reference, until its owner goes. -/
  stays : ∀ d ∈ (after ops).store.drafts.group, d.fields.template = some id →
    .deleteUser d.owner ∉ later → d ∈ (after (ops ++ later)).store.drafts.group

theorem leavesDangling (hgone : ∀ e ∈ (after ops).store.entities.template, e.id ≠ id)
    (hlater : ∀ owner draft, .confirmDraft .template owner draft id ∉ later) :
    LeavesDangling ops id later := by
  have hrefused : ∀ mid, mid <+: later → ∀ d ∈ (after (ops ++ mid)).store.drafts.group,
      d.fields.template = some id → ∀ new,
        (after (ops ++ mid)).store.confirmDraft .group d.owner d.id new =
          .error (.invalidReference "notification_template_id") := by
    intro mid hmid d hd hid new
    have hmidgone : ∀ e ∈ (after (ops ++ mid)).store.entities.template, e.id ≠ id := by
      rw [after_append]
      exact not_mem_later (k := .template) (coherent_after ops) hgone
        fun owner draft hmem => hlater owner draft (hmid.subset hmem)
    have hstray : d.stray = none := (insertDraft_of_mem (k := .group) hd).1
    exact (coherent_after _).confirmDraft_of_dangling hd hstray hid hmidgone new
  refine ⟨hrefused later (List.prefix_refl later), fun d hd hid howner => ?_⟩
  rw [after_append]
  refine run_keeps (P := fun s => d ∈ s.drafts.group) hd ?_
  rintro before op rest t rfl hthere ht
  rw [← after_append] at hthere ht
  rcases draft_stays (k := .group) (coherent_after _) ht hthere with hstays | ⟨new, rfl⟩ | rfl
  · exact hstays
  · -- only its confirmation could take the draft away, and that is refused
    obtain ⟨⟨e, t⟩, hok, -⟩ := map_eq_ok.mp ht
    rw [hrefused before (List.prefix_append _ _) d hthere hid new] at hok
    exact nomatch hok
  · exact absurd (List.mem_append_right _ List.mem_cons_self) howner

/-- What deletions do after a run. -/
structure Cascades (ops : List Operation) : Prop where
  user : ∀ id t, (after ops).store.deleteUser id = .ok t ↔
    (after ops).store.hasUser id = true ∧ t = (after ops).store.withoutUser id
  entity : ∀ k owner id t, (after ops).store.deleteEntity k owner id = .ok t ↔
    (after ops).store.owns owner k id = true ∧ t = (after ops).store.without k id
  /-- From then on, as long as no template is given the same identifier. -/
  dangling : ∀ owner id t, (after ops).store.deleteEntity .template owner id = .ok t →
    ∀ later, (∀ owner draft, .confirmDraft .template owner draft id ∉ later) →
      LeavesDangling (ops ++ [.deleteEntity .template owner id]) id later

/-- Whatever calls are made before, a deletion takes along what depends on the row, and nothing
else, and all that stays stays in its order. -/
theorem cascades (ops : List Operation) : Cascades ops where
  user _ _ := (coherent_after ops).deleteUser_iff
  entity _ _ _ _ := (coherent_after ops).deleteEntity_iff
  dangling owner id t ht later hlater := by
    have hok : (deleteEntity .template owner id).apply (after ops).store = .ok t := ht
    refine leavesDangling ?_ hlater
    rw [after_concat, perform_of_ok (after_poisoned ops) hok]
    obtain ⟨-, rfl⟩ := (coherent_after ops).deleteEntity_iff.mp ht
    exact fun e he => of_decide_eq_true (List.mem_filter.mp he).2

/-- A group draft waits in vain for its template. -/
example :
    let user : Uuid := .uniform 0
    let ops : List Operation := [.createUser user "anna" "hash",
      .insertDraft .template (.uniform 1) user ⟨"alarm", some "leave the house"⟩,
      .confirmDraft .template user (.uniform 1) (.uniform 2),
      .insertDraft .group (.uniform 3) user ⟨"family", true, some (.uniform 2)⟩,
      .deleteEntity .template user (.uniform 2)]
    (after ops).store.drafts.group =
        [⟨⟨.uniform 3, user, ⟨"family", true, some (.uniform 2)⟩⟩, none⟩] ∧
      (after ops).store.confirmDraft .group user (.uniform 3) (.uniform 4) =
        .error (.invalidReference "notification_template_id") :=
  ⟨by decide, rfl⟩

end Database

end AlertService
