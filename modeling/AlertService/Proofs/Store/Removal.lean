import AlertService.Proofs.Store.Coherence

/-!
# Dropping entities

An entity that goes takes along what refers to it: memberships, notifications and the references of
groups. Nothing that stays refers to a row that went.

* `dropEntities_singleton`: what is left when one entity goes.
* `Coherent.dropEntities`: dropping entities with what depends on them keeps a store coherent.
-/

namespace AlertService

namespace Store

variable {s t : Store} {k : Kind} {owner id : Uuid} {ids : List Uuid}

/-- What is left without an entity. What refers to a group or a recipient goes as well; groups lose
their reference to a template. -/
def without (s : Store) : Kind → Uuid → Store
  | .recipient, id =>
    { s with
      entities.recipient := s.entities.recipient.filter fun e => e.id ≠ id
      memberships := s.memberships.filter fun m => m.recipient ≠ id
      notifications := s.notifications.filter fun n => n.recipient ≠ id }
  | .template, id =>
    { s with
      entities.template := s.entities.template.filter fun e => e.id ≠ id
      entities.group := s.entities.group.map fun g =>
        if g.fields.template = some id then { g with fields.template := none } else g }
  | .group, id =>
    { s with
      entities.group := s.entities.group.filter fun e => e.id ≠ id
      memberships := s.memberships.filter fun m => m.group ≠ id
      notifications := s.notifications.filter fun n => n.group ≠ id }

theorem dropEntities_singleton (s : Store) (k : Kind) (id : Uuid) :
    s.dropEntities k [id] = s.without k id := by
  have hkept : ∀ {α : Type} (rows : List α) (key : α → Uuid),
      (rows.filter fun x => !([id].contains (key x))) = rows.filter fun x => key x ≠ id := by
    intro α rows key
    refine List.filter_congr fun x _ => ?_
    simp
  have hcleared : ∀ g : Owned GroupFields,
      ({ g with fields.template := g.fields.template.filter fun t => !([id].contains t) } :
          Owned GroupFields) =
        if g.fields.template = some id then { g with fields.template := none } else g := by
    rintro ⟨group, owner, name, active, template⟩
    cases template with
    | none => rfl
    | some t =>
      by_cases ht : t = id
      · simp [ht]
      · simp [ht, Option.filter]
  cases k with
  | recipient => simp only [dropEntities, without, PerKind.get, PerKind.set, hkept]
  | template => simp only [dropEntities, without, PerKind.get, PerKind.set, hkept, hcleared]
  | group => simp only [dropEntities, without, PerKind.get, PerKind.set, hkept]

@[simp] theorem batches_dropEntities : (s.dropEntities k ids).batches = s.batches := by
  cases k <;> rfl

@[simp] theorem hasUser_dropEntities : (s.dropEntities k ids).hasUser id = s.hasUser id := by
  cases k <;> rfl

theorem owns_dropEntities {j : Kind} :
    (s.dropEntities k ids).owns owner j id = true ↔
      s.owns owner j id = true ∧ (j = k → id ∉ ids) := by
  have hkeep : ∀ {α : Type} (rows : List (Owned α)),
      (∃ e ∈ rows, e.id ∉ ids ∧ e.id = id ∧ e.owner = owner) ↔
        (∃ e ∈ rows, e.id = id ∧ e.owner = owner) ∧ id ∉ ids := by
    intro α rows
    constructor
    · rintro ⟨e, he, hid, rfl, ho⟩
      exact ⟨⟨e, he, rfl, ho⟩, hid⟩
    · rintro ⟨⟨e, he, rfl, ho⟩, hid⟩
      exact ⟨e, he, hid, rfl, ho⟩
  cases k <;> cases j <;>
    simp [dropEntities, owns, PerKind.get, PerKind.set, hkeep]

/-- Entities that stay keep their identifiers and owners. -/
theorem mem_dropEntities {j : Kind} {e : Owned j.Fields}
    (he : e ∈ (s.dropEntities k ids).entities.get j) :
    ∃ e' ∈ s.entities.get j, e'.id = e.id ∧ e'.owner = e.owner := by
  cases k <;> cases j <;>
    simp only [Store.dropEntities, PerKind.get, PerKind.set, List.mem_filter, List.mem_map] at he ⊢
  all_goals
    first
      | exact ⟨e, he, rfl, rfl⟩
      | exact ⟨e, he.1, rfl, rfl⟩
      | obtain ⟨e', he', rfl⟩ := he
        exact ⟨e', he', rfl, rfl⟩

theorem map_id_dropEntities (s : Store) (k : Kind) (ids : List Uuid) (j : Kind) :
    (((s.dropEntities k ids).entities.get j).map Owned.id).Sublist
      ((s.entities.get j).map Owned.id) := by
  cases k <;> cases j <;>
    simp only [Store.dropEntities, PerKind.get, PerKind.set, List.map_map, Function.comp_def]
  all_goals
    first
      | exact List.Sublist.refl _
      | exact List.filter_sublist.map _

theorem notifications_dropEntities {n : Notification}
    (hn : n ∈ (s.dropEntities k ids).notifications) :
    n ∈ s.notifications ∧ (k = .group → n.group ∉ ids) ∧ (k = .recipient → n.recipient ∉ ids) := by
  cases k <;> simp_all [dropEntities]

theorem memberships_dropEntities {m : Membership} (hm : m ∈ (s.dropEntities k ids).memberships) :
    m ∈ s.memberships ∧ (k = .group → m.group ∉ ids) ∧ (k = .recipient → m.recipient ∉ ids) := by
  cases k <;> simp_all [dropEntities]

/-- A group that stays refers to a template that stays, if to any. -/
theorem references_dropEntities {g : Owned GroupFields}
    (hg : g ∈ (s.dropEntities k ids).entities.group) {id : Uuid}
    (hid : g.fields.template = some id) :
    ∃ g' ∈ s.entities.group, g'.owner = g.owner ∧ g'.fields.template = some id ∧
      (k = .template → id ∉ ids) := by
  cases k with
  | recipient => exact ⟨g, hg, rfl, hid, by simp⟩
  | group =>
    refine ⟨g, List.mem_of_mem_filter hg, rfl, hid, by simp⟩
  | template =>
    obtain ⟨g', hg', rfl⟩ := List.mem_map.mp hg
    obtain ⟨ht, hn⟩ := Option.filter_eq_some_iff.mp hid
    exact ⟨g', hg', rfl, ht, by simpa using hn⟩

theorem Coherent.dropEntities (h : s.Coherent) (k : Kind) (ids : List Uuid) :
    (s.dropEntities k ids).Coherent := by
  constructor
  case userKeys => cases k <;> exact h.userKeys
  case userIds => cases k <;> exact h.userIds
  case userNames => cases k <;> exact h.userNames
  case sessionIds => cases k <;> exact h.sessionIds
  case draftIds => cases k <;> exact h.draftIds
  case entityIds => exact fun j => (h.entityIds j).sublist (map_id_dropEntities s k ids j)
  case pairs => cases k <;> first | exact h.pairs | exact h.pairs.filter _
  case batchIds => cases k <;> exact h.batchIds
  case notificationIds =>
    cases k <;> first | exact h.notificationIds | exact nodup_map_filter _ h.notificationIds
  case contactIds => cases k <;> exact h.contactIds
  case sessionOwners => cases k <;> exact h.sessionOwners
  case draftOwners => cases k <;> exact h.draftOwners
  case entityOwners =>
    intro j e he
    obtain ⟨e', he', -, ho⟩ := mem_dropEntities he
    rw [hasUser_dropEntities, ← ho]
    exact h.entityOwners j e' he'
  case batchOwners => cases k <;> exact h.batchOwners
  case members =>
    intro m hm
    obtain ⟨hm, hg, hr⟩ := memberships_dropEntities hm
    obtain ⟨owner, og, or⟩ := h.members m hm
    exact ⟨owner, owns_dropEntities.mpr ⟨og, fun e => hg e.symm⟩,
      owns_dropEntities.mpr ⟨or, fun e => hr e.symm⟩⟩
  case references =>
    intro g hg id hid
    obtain ⟨g', hg', ho, hid', hk⟩ := references_dropEntities hg hid
    rw [← ho]
    exact owns_dropEntities.mpr ⟨h.references g' hg' id hid', fun e => hk e.symm⟩
  case notifications =>
    intro n hn
    obtain ⟨hn, hg, hr⟩ := notifications_dropEntities hn
    obtain ⟨owner, ob, og, or⟩ := h.notifications n hn
    refine ⟨owner, ?_, owns_dropEntities.mpr ⟨og, fun e => hg e.symm⟩,
      owns_dropEntities.mpr ⟨or, fun e => hr e.symm⟩⟩
    rw [ownsNotification_iff, batches_dropEntities]
    exact ownsNotification_iff.mp ob

end Store

end AlertService
