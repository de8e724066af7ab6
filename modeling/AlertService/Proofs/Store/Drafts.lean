import AlertService.Proofs.Store.Origin

/-!
# Drafts are confirmed once

In a run in which no identifier is generated twice, each draft becomes an entity once at most: with
the fields that it was made with, for its owner, in its place. It waits for that until its owner
goes. Nothing else makes entities, and drafts and entities never share an identifier.

* `ConfirmsOnce`: all of this, about a run.
* `confirmsOnce`: it holds of every run with fresh identifiers.
-/

namespace AlertService

open Operation Database

variable {ops before mid rest : List Operation} {k : Kind} {owner draft new id : Uuid}

/-! ## One confirmation -/

/-- A confirmed draft was made by an earlier call, with the fields and the owner of the entity. It
is gone from its place and the entity is the last of its kind. -/
theorem confirmDraft_moves {s : Store} {e : Owned k.Fields}
    (h : (after before).store.confirmDraft k owner draft new = .ok (e, s)) :
    ∃ fields first last, (∃ ops₁ ops₂, before = ops₁ ++ .insertDraft k draft owner fields :: ops₂ ∧
        (insertDraft k draft owner fields).SucceedsAfter ops₁) ∧
      (after before).store.drafts.get k = first ++ ⟨⟨draft, owner, fields⟩, none⟩ :: last ∧
      e = ⟨new, owner, fields⟩ ∧
      s = { (after before).store with
        drafts := (after before).store.drafts.set k (first ++ last)
        entities := (after before).store.entities.set k
          ((after before).store.entities.get k ++ [e]) } := by
  have hc : (after before).store.Coherent := coherent_run coherent_fresh before
  obtain ⟨d, fields, hd, rfl, hfields, -, -, -, rfl, rfl⟩ := Store.confirmDraft_eq_ok.mp h
  obtain ⟨hmem, rfl⟩ := hc.draft?_eq_some.mp hd
  obtain ⟨hstray, hmade⟩ := insertDraft_of_mem hmem
  obtain ⟨⟨id, owner, made⟩, stray⟩ := d
  subst hstray
  obtain rfl : made = fields :=
    Except.ok.inj ((Store.draftFields_of_not_stray rfl).symm.trans hfields)
  obtain ⟨first, last, hrows⟩ := List.append_of_mem hmem
  refine ⟨made, first, last, hmade, hrows, rfl, ?_⟩
  have hids := hc.draftIds k
  rw [hrows, List.map_append, List.map_cons, List.nodup_append, List.nodup_cons] at hids
  obtain ⟨-, ⟨hlast, -⟩, hfirst⟩ := hids
  have hgone : (first ++ ⟨⟨id, owner, made⟩, none⟩ :: last).filter (fun d => d.id ≠ id) =
      first ++ last := by
    rw [List.filter_append, List.filter_cons_of_neg (by simp)]
    congr 1
    · refine List.filter_eq_self.mpr fun d hd => decide_eq_true ?_
      exact hfirst _ (List.mem_map_of_mem hd) _ List.mem_cons_self
    · refine List.filter_eq_self.mpr fun d hd => decide_eq_true fun he => hlast ?_
      exact List.mem_map.mpr ⟨d, hd, he⟩
  rw [hrows, hgone]

/-- After a confirmation there is no draft under its identifier. -/
theorem not_mem_of_confirmDraft (h : (confirmDraft k owner draft new).SucceedsAfter before) :
    ∀ d ∈ (after (before ++ [.confirmDraft k owner draft new])).store.drafts.get k,
      d.id ≠ draft := by
  obtain ⟨s, hs⟩ := h
  rw [after_concat, perform_of_ok (after_poisoned before) hs]
  obtain ⟨⟨e, s⟩, hok, rfl⟩ := map_eq_ok.mp hs
  obtain ⟨d, fields, -, -, -, -, -, -, -, rfl⟩ := Store.confirmDraft_eq_ok.mp hok
  rw [PerKind.get_set_self]
  exact fun d hd => of_decide_eq_true (List.mem_filter.mp hd).2

/-- A draft can be confirmed when it is there, is the caller's and refers to nothing but what is the
caller's, as long as no entity has the new identifier. -/
theorem confirmDraft_succeeds_iff
    (hnew : ∀ e ∈ (after before).store.entities.get k, e.id ≠ new) :
    (confirmDraft k owner draft new).SucceedsAfter before ↔
      ∃ d ∈ (after before).store.drafts.get k, d.id = draft ∧ d.owner = owner ∧
        (after before).store.checkReferences owner k d.fields = .ok () := by
  have hc : (after before).store.Coherent := coherent_run coherent_fresh before
  have hfields : ∀ d ∈ (after before).store.drafts.get k, Store.draftFields k d = .ok d.fields :=
    fun d hd => Store.draftFields_of_not_stray (insertDraft_of_mem hd).1
  constructor
  · rintro ⟨s, hs⟩
    obtain ⟨⟨e, s⟩, hok, rfl⟩ := map_eq_ok.mp hs
    obtain ⟨d, fields, hd, rfl, hread, hreferences, -⟩ := Store.confirmDraft_eq_ok.mp hok
    obtain ⟨hmem, hid⟩ := hc.draft?_eq_some.mp hd
    obtain rfl : d.fields = fields := Except.ok.inj ((hfields d hmem).symm.trans hread)
    exact ⟨d, hmem, hid, rfl, hreferences⟩
  · rintro ⟨d, hmem, hid, rfl, hreferences⟩
    have hok := Store.confirmDraft_eq_ok.mpr ⟨d, d.fields, hc.draft?_eq_some.mpr ⟨hmem, hid⟩, rfl,
      hfields d hmem, hreferences, find?_key_eq_none.mpr hnew, hc.draftOwners k d hmem, rfl, rfl⟩
    exact ⟨_, map_eq_ok.mpr ⟨_, hok, rfl⟩⟩

/-- A draft that is confirmed was made by a call of the run. -/
theorem insertDraft_mem_of_confirmDraft
    (h : (confirmDraft k owner draft new).SucceedsAfter before) :
    ∃ fields, .insertDraft k draft owner fields ∈ before := by
  obtain ⟨s, hs⟩ := h
  obtain ⟨⟨e, s⟩, hok, rfl⟩ := map_eq_ok.mp hs
  obtain ⟨fields, first, last, ⟨ops₁, ops₂, rfl, -⟩, -⟩ := confirmDraft_moves hok
  exact ⟨fields, List.mem_append_right _ List.mem_cons_self⟩

/-! ## Whole runs -/

/-- What a run does to drafts. -/
structure ConfirmsOnce (ops : List Operation) : Prop where
  /-- Whoever is a user can make a draft. It comes last, with the owner and the fields that it was
  made with; nothing else changes. -/
  inserts : ∀ before rest k owner draft fields,
    ops = before ++ .insertDraft k draft owner fields :: rest →
      ((insertDraft k draft owner fields).SucceedsAfter before ↔
        (after before).store.hasUser owner = true) ∧
      ∀ s, (after before).store.insertDraft k draft owner fields = .ok s →
        s = { (after before).store with
          drafts := (after before).store.drafts.set k
            ((after before).store.drafts.get k ++ [⟨⟨draft, owner, fields⟩, none⟩]) }
  /-- The owner of a draft can confirm it, unless it refers to what is not the owner's. -/
  confirms : ∀ before rest k owner draft new,
    ops = before ++ .confirmDraft k owner draft new :: rest →
      ((confirmDraft k owner draft new).SucceedsAfter before ↔
        ∃ d ∈ (after before).store.drafts.get k, d.id = draft ∧ d.owner = owner ∧
          (after before).store.checkReferences owner k d.fields = .ok ())
  /-- No draft is confirmed a second time, be it as another kind or by another user. -/
  once : ∀ before mid rest k₁ k₂ owner₁ owner₂ draft new₁ new₂,
    ops = before ++ .confirmDraft k₁ owner₁ draft new₁ ::
      (mid ++ .confirmDraft k₂ owner₂ draft new₂ :: rest) →
    (confirmDraft k₁ owner₁ draft new₁).SucceedsAfter before →
      ¬(confirmDraft k₂ owner₂ draft new₂).SucceedsAfter
        (before ++ .confirmDraft k₁ owner₁ draft new₁ :: mid)
  /-- A confirmation takes one draft away and adds one entity, under a new identifier and with the
  owner and the fields that the draft was made with; nothing else changes. -/
  moves : ∀ before rest k owner draft new e s,
    ops = before ++ .confirmDraft k owner draft new :: rest →
    (after before).store.confirmDraft k owner draft new = .ok (e, s) →
      (∀ j, (∀ d ∈ (after before).store.drafts.get j, d.id ≠ new) ∧
        ∀ e ∈ (after before).store.entities.get j, e.id ≠ new) ∧
      ∃ fields first last, (∃ ops₁ ops₂,
          before = ops₁ ++ .insertDraft k draft owner fields :: ops₂ ∧
          (insertDraft k draft owner fields).SucceedsAfter ops₁) ∧
        (after before).store.drafts.get k = first ++ ⟨⟨draft, owner, fields⟩, none⟩ :: last ∧
        e = ⟨new, owner, fields⟩ ∧
        s = { (after before).store with
          drafts := (after before).store.drafts.set k (first ++ last)
          entities := (after before).store.entities.set k
            ((after before).store.entities.get k ++ [e]) }
  /-- A confirmation that fails changes nothing. -/
  fails : ∀ before rest k owner draft new,
    ops = before ++ .confirmDraft k owner draft new :: rest →
    ¬(confirmDraft k owner draft new).SucceedsAfter before →
      after (before ++ [.confirmDraft k owner draft new]) = after before
  /-- A draft stays as it is until it is confirmed by its owner or its owner is deleted. -/
  waits : ∀ before mid rest k d, ops = before ++ (mid ++ rest) →
    d ∈ (after before).store.drafts.get k →
      d ∈ (after (before ++ mid)).store.drafts.get k ∨
        ∃ mid₁ op mid₂, mid = mid₁ ++ op :: mid₂ ∧ op.SucceedsAfter (before ++ mid₁) ∧
          ((∃ new, op = .confirmDraft k d.owner d.id new) ∨ op = .deleteUser d.owner)
  /-- Entities come into being by confirmations alone. -/
  arises : ∀ before op rest k e, ops = before ++ op :: rest →
    e ∈ (after (before ++ [op])).store.entities.get k →
    (∀ e' ∈ (after before).store.entities.get k, e'.id ≠ e.id) →
      op.SucceedsAfter before ∧ ∃ draft, op = .confirmDraft k e.owner draft e.id
  /-- No identifier is that of a draft at one time and that of an entity at another, or the same. -/
  apart : ∀ before before', before <+: ops → before' <+: ops → ∀ j k,
    ∀ d ∈ (after before).store.drafts.get j, ∀ e ∈ (after before').store.entities.get k, d.id ≠ e.id
  /-- So the identifier of a draft finds no entity at any time. -/
  drafts : ∀ j maker draft made, .insertDraft j draft maker made ∈ ops → ∀ before, before <+: ops →
    ∀ k owner, (after before).store.getEntity k owner draft = .error (.notFound k.label) ∧
      (∀ fields, (after before).store.updateEntity k owner draft fields =
        .error (.notFound k.label)) ∧
      (after before).store.deleteEntity k owner draft = .error (.notFound k.label)
  /-- Nor does that of an entity find a draft. -/
  entities : ∀ j maker draft id, .confirmDraft j maker draft id ∈ ops → ∀ before, before <+: ops →
    ∀ k owner new, (after before).store.confirmDraft k owner id new =
      .error (.notFound k.draftLabel)

section Fresh

variable (h : (ops.filterMap generated?).Nodup)

include h

theorem not_confirmed_again {k₁ k₂ : Kind} {owner₁ owner₂ new₁ new₂ : Uuid}
    (hops : ops = before ++ .confirmDraft k₁ owner₁ draft new₁ ::
      (mid ++ .confirmDraft k₂ owner₂ draft new₂ :: rest))
    (h₁ : (confirmDraft k₁ owner₁ draft new₁).SucceedsAfter before) :
    ¬(confirmDraft k₂ owner₂ draft new₂).SucceedsAfter
      (before ++ .confirmDraft k₁ owner₁ draft new₁ :: mid) := by
  intro h₂
  obtain ⟨f₁, hf₁⟩ := insertDraft_mem_of_confirmDraft h₁
  obtain ⟨f₂, hf₂⟩ := insertDraft_mem_of_confirmDraft h₂
  -- both confirmations are of what one and the same call made
  have hsame : insertDraft k₁ draft owner₁ f₁ = insertDraft k₂ draft owner₂ f₂ := by
    refine eq_of_generated h ?_ ?_ rfl rfl
    · exact hops ▸ List.mem_append_left _ hf₁
    · rw [hops, ← List.cons_append, ← List.append_assoc]
      exact List.mem_append_left _ hf₂
  obtain ⟨rfl, -⟩ := insertDraft.inj hsame
  obtain ⟨s, hs⟩ := h₂
  obtain ⟨⟨e, s⟩, hok, rfl⟩ := map_eq_ok.mp hs
  obtain ⟨d, fields, hd, -⟩ := Store.confirmDraft_eq_ok.mp hok
  have hcoherent : ∀ ops, (after ops).store.Coherent := coherent_run coherent_fresh
  obtain ⟨hd, hid⟩ := (hcoherent _).draft?_eq_some.mp hd
  rw [← List.singleton_append, ← List.append_assoc, after_append] at hd
  -- so a call in between would have had to make it anew
  obtain ⟨mid₁, op, mid₂, s, rfl, hnone, hs, d, hd, hid⟩ := exists_step
    (P := fun s => ∃ d ∈ s.drafts.get k₁, d.id = draft)
    (by simpa using not_mem_of_confirmDraft h₁) ⟨d, hd, hid⟩
  rw [← after_append] at hs hnone
  rcases draft_of_apply (hcoherent _) hs hd with hd | ⟨rfl, -⟩
  · exact hnone ⟨d, hd, hid⟩
  · refine disjoint_generated (b := insertDraft k₁ d.id d.owner d.fields) (hops ▸ h) hf₁ ?_ rfl
      (congrArg some hid)
    simp

/-- The identifier that a call generates is not in use, neither for drafts nor for entities. -/
theorem new_not_mem {op : Operation} (hops : ops = before ++ op :: rest)
    (hgen : op.generated? = some new) (j : Kind) :
    (∀ d ∈ (after before).store.drafts.get j, d.id ≠ new) ∧
      ∀ e ∈ (after before).store.entities.get j, e.id ≠ new := by
  subst hops
  constructor
  · intro d hd hid
    obtain ⟨-, ops₁, ops₂, rfl, -⟩ := insertDraft_of_mem hd
    exact disjoint_generated h (List.mem_append_right _ List.mem_cons_self) List.mem_cons_self
      (congrArg some hid) hgen
  · intro e he hid
    obtain ⟨ops₁, _, ops₂, rfl, -⟩ := confirmDraft_of_mem he
    exact disjoint_generated h (List.mem_append_right _ List.mem_cons_self) List.mem_cons_self
      (congrArg some hid) hgen

/-- Under a fresh identifier a draft can be made for every user. -/
theorem insertDraft_succeeds_iff {fields : k.Fields}
    (hops : ops = before ++ .insertDraft k draft owner fields :: rest) :
    (insertDraft k draft owner fields).SucceedsAfter before ↔
      (after before).store.hasUser owner = true := by
  constructor
  · rintro ⟨s, hs⟩
    exact (Store.insertDraft_eq_ok.mp hs).2.1
  · intro huser
    have hnone : (after before).store.draft? k draft = none :=
      find?_key_eq_none.mpr (new_not_mem h hops rfl k).1
    exact ⟨_, Store.insertDraft_eq_ok.mpr ⟨hnone, huser, rfl⟩⟩

/-- A call that made a draft did not make an entity. -/
theorem draft_ne_entity {j : Kind} {maker : Uuid} {fields : j.Fields}
    (hmade : .insertDraft j id maker fields ∈ ops) : .confirmDraft k owner draft id ∉ ops := by
  intro hconfirm
  exact nomatch eq_of_generated h hmade hconfirm rfl rfl

theorem id_ne_id {before' : List Operation} (hbefore : before <+: ops) (hbefore' : before' <+: ops)
    {j : Kind} {d : Draft j.Fields} (hd : d ∈ (after before).store.drafts.get j)
    {e : Owned k.Fields} (he : e ∈ (after before').store.entities.get k) : d.id ≠ e.id := by
  intro hid
  obtain ⟨-, ops₁, ops₂, rfl, -⟩ := insertDraft_of_mem hd
  obtain ⟨ops₁', draft, ops₂', rfl, -⟩ := confirmDraft_of_mem he
  rw [← hid] at hbefore'
  exact draft_ne_entity h (hbefore.subset (List.mem_append_right _ List.mem_cons_self))
    (hbefore'.subset (List.mem_append_right _ List.mem_cons_self))

theorem entity?_draft {j : Kind} {maker : Uuid} {fields : j.Fields}
    (hmade : .insertDraft j draft maker fields ∈ ops) (hbefore : before <+: ops) (k : Kind) :
    (after before).store.entity? k draft = none := by
  refine Option.eq_none_iff_forall_ne_some.mpr fun e he => ?_
  obtain ⟨hmem, rfl⟩ := (coherent_run coherent_fresh before).entity?_eq_some.mp he
  obtain ⟨ops₁, _, ops₂, rfl, -⟩ := confirmDraft_of_mem hmem
  exact draft_ne_entity h hmade (hbefore.subset (List.mem_append_right _ List.mem_cons_self))

theorem draft?_entity {j : Kind} {maker : Uuid}
    (hmade : .confirmDraft j maker draft id ∈ ops) (hbefore : before <+: ops) (k : Kind) :
    (after before).store.draft? k id = none := by
  refine Option.eq_none_iff_forall_ne_some.mpr fun d hd => ?_
  obtain ⟨hmem, rfl⟩ := (coherent_run coherent_fresh before).draft?_eq_some.mp hd
  obtain ⟨-, ops₁, ops₂, rfl, -⟩ := insertDraft_of_mem hmem
  exact draft_ne_entity h (hbefore.subset (List.mem_append_right _ List.mem_cons_self)) hmade

omit h in
theorem draft_waits {d : Draft k.Fields} (hd : d ∈ (after before).store.drafts.get k) :
    d ∈ (after (before ++ mid)).store.drafts.get k ∨
      ∃ mid₁ op mid₂, mid = mid₁ ++ op :: mid₂ ∧ op.SucceedsAfter (before ++ mid₁) ∧
        ((∃ new, op = .confirmDraft k d.owner d.id new) ∨ op = .deleteUser d.owner) := by
  by_cases hstay : d ∈ (after (before ++ mid)).store.drafts.get k
  · exact Or.inl hstay
  rw [after_append] at hstay
  obtain ⟨mid₁, op, mid₂, s, rfl, hthere, hs, hgone⟩ := exists_step
    (P := fun s => d ∉ s.drafts.get k) (not_not_intro hd) hstay
  rw [← after_append] at hthere hs
  refine Or.inr ⟨mid₁, op, mid₂, rfl, ⟨s, hs⟩, ?_⟩
  exact (draft_stays (coherent_run coherent_fresh _) hs (not_not.mp hthere)).resolve_left hgone

omit h in
theorem entity_arises {op : Operation} {e : Owned k.Fields}
    (he : e ∈ (after (before ++ [op])).store.entities.get k)
    (hnew : ∀ e' ∈ (after before).store.entities.get k, e'.id ≠ e.id) :
    op.SucceedsAfter before ∧ ∃ draft, op = .confirmDraft k e.owner draft e.id := by
  rw [after_concat] at he
  obtain ⟨s, hs, hp⟩ | hp := perform_cases (after before) op
  · rw [hp] at he
    have hcoherent := coherent_run coherent_fresh before
    refine ⟨⟨s, hs⟩, (entity_of_apply hcoherent hs he).resolve_left ?_⟩
    rintro ⟨e', he', hid, -⟩
    exact hnew e' he' hid
  · rw [hp] at he
    exact absurd rfl (hnew e he)

/-- Whatever users do, in whatever order and with whatever mishaps: as long as identifiers are
fresh, each draft is confirmed once at most and nothing of it is lost, changed or doubled. -/
theorem confirmsOnce : ConfirmsOnce ops where
  inserts before rest k owner draft fields hops :=
    ⟨insertDraft_succeeds_iff h hops, fun s hs => (Store.insertDraft_eq_ok.mp hs).2.2⟩
  confirms before rest k owner draft new hops :=
    confirmDraft_succeeds_iff (new_not_mem h hops rfl k).2
  once before mid rest k₁ k₂ owner₁ owner₂ draft new₁ new₂ hops := not_confirmed_again h hops
  moves before rest k owner draft new e s hops hok :=
    ⟨new_not_mem h hops rfl, confirmDraft_moves hok⟩
  fails before rest k owner draft new _ hfails := by
    rw [after_concat]
    obtain ⟨s, hs, -⟩ | hp := perform_cases (after before) (.confirmDraft k owner draft new)
    · exact absurd ⟨s, hs⟩ hfails
    · exact hp
  waits before mid rest k d _ hd := draft_waits hd
  arises before op rest k e _ he hnew := entity_arises he hnew
  apart before before' hbefore hbefore' j k d hd e he := id_ne_id h hbefore hbefore' hd he
  drafts j maker draft made hmade before hbefore k owner := by
    have hnone : (after before).store.getEntity k owner draft = .error (.notFound k.label) := by
      simp only [Store.getEntity, entity?_draft h hmade hbefore k, Store.requireOwner]
    refine ⟨hnone, fun fields => ?_, ?_⟩
    · simp only [Store.updateEntity, hnone]
      rfl
    · simp only [Store.deleteEntity, hnone]
      rfl
  entities j maker draft id hmade before hbefore k owner new := by
    simp only [Store.confirmDraft, draft?_entity h hmade hbefore k, Store.requireOwner]
    rfl

end Fresh

/-- A draft is confirmed, and could not be confirmed again. -/
theorem confirmsOnce_of_two :
    let ops : List Operation := [.createUser (.uniform 0) "anna" "hash",
      .insertDraft .template (.uniform 1) (.uniform 0) ⟨"alarm", some "leave the house"⟩,
      .confirmDraft .template (.uniform 0) (.uniform 1) (.uniform 2),
      .confirmDraft .template (.uniform 0) (.uniform 1) (.uniform 3)]
    (ops.filterMap generated?).Nodup ∧ ConfirmsOnce ops := by
  intro ops
  have hfresh : (ops.filterMap generated?).Nodup := by decide
  exact ⟨hfresh, confirmsOnce hfresh⟩

end AlertService
