import AlertService.Proofs.Store.Operation
import Mathlib.Data.List.Nodup

/-!
# Coherence of the store

What no run of calls can break: keys are unique, every row has an owner that exists, and rows that
refer to each other have one owner. The engine watches over the keys and over the existence of what
is referred to; that owners agree rests on the checks of the single calls.

* `Coherent`: the invariant.
* `Coherent.owner_unique`, `Coherent.batch_owner_unique`: owners are unique.
* `Coherent.withUsers`, `withDrafts`, `withEntities`: when it survives a change of one table.
-/

namespace AlertService

/-! ## Rows with a key -/

section Keys

variable {α κ : Type} {key : α → κ} {rows : List α}

theorem nodup_map_filter (p : α → Bool) (h : (rows.map key).Nodup) :
    ((rows.filter p).map key).Nodup :=
  h.sublist (List.filter_sublist.map key)

theorem nodup_map_concat {x : α} (h : (rows.map key).Nodup) (hx : ∀ y ∈ rows, key y ≠ key x) :
    ((rows ++ [x]).map key).Nodup := by
  rw [List.map_append, List.nodup_append]
  refine ⟨h, by simp, ?_⟩
  intro a ha b hb
  obtain ⟨y, hy, rfl⟩ := List.mem_map.mp ha
  rw [List.map_singleton, List.mem_singleton] at hb
  exact hb ▸ hx y hy

/-- Changing other columns than the key keeps the keys. -/
theorem map_key_map {f : α → α} (hf : ∀ x, key (f x) = key x) :
    (rows.map f).map key = rows.map key := by
  rw [List.map_map]
  exact List.map_congr_left fun x _ => hf x

theorem find?_key_eq_some [DecidableEq κ] (h : (rows.map key).Nodup) {x : α} {a : κ} :
    rows.find? (fun y => key y = a) = some x ↔ x ∈ rows ∧ key x = a := by
  constructor
  · intro hf
    exact ⟨List.mem_of_find?_eq_some hf, by simpa using List.find?_some hf⟩
  · rintro ⟨hx, rfl⟩
    obtain ⟨y, hy⟩ : ∃ y, rows.find? (fun y => key y = key x) = some y :=
      Option.isSome_iff_exists.mp (List.find?_isSome.mpr ⟨x, hx, by simp⟩)
    have hk : key y = key x := by simpa using List.find?_some hy
    rw [hy, List.inj_on_of_nodup_map h (List.mem_of_find?_eq_some hy) hx hk]

theorem find?_key_eq_none [DecidableEq κ] {a : κ} :
    rows.find? (fun y => key y = a) = none ↔ ∀ y ∈ rows, key y ≠ a := by
  simp [List.find?_eq_none]

/-- The only row with the key of a row is that row. -/
theorem any_key_and [DecidableEq κ] (h : (rows.map key).Nodup) {x : α} (hx : x ∈ rows)
    (p : α → Bool) : (rows.any fun y => key y = key x && p y) = p x := by
  rw [Bool.eq_iff_iff]
  simp only [List.any_eq_true, Bool.and_eq_true, decide_eq_true_eq]
  constructor
  · rintro ⟨y, hy, hkey, hp⟩
    rwa [← List.inj_on_of_nodup_map h hy hx hkey]
  · intro hp
    exact ⟨x, hx, rfl, hp⟩

theorem contains_map_filter [DecidableEq κ] (h : (rows.map key).Nodup) {x : α} (hx : x ∈ rows)
    (p : α → Bool) : ((rows.filter p).map key).contains (key x) = p x := by
  rw [Bool.eq_iff_iff, List.contains_iff_mem]
  simp only [List.mem_map, List.mem_filter]
  constructor
  · rintro ⟨y, ⟨hy, hp⟩, hkey⟩
    rwa [← List.inj_on_of_nodup_map h hy hx hkey]
  · intro hp
    exact ⟨x, ⟨hx, hp⟩, rfl⟩

end Keys

namespace PerKind

variable {α : Kind → Type} {t : PerKind α} {k : Kind} {x : α k}

/-- What holds of the new entry and of the old ones holds of all after a change. -/
theorem forall_get_set {P : ∀ j, α j → Prop} (hx : P k x) (ht : ∀ j, j ≠ k → P j (t.get j)) :
    ∀ j, P j ((t.set k x).get j) := by
  intro j
  by_cases h : j = k
  · subst h
    rw [get_set_self]
    exact hx
  · rw [get_set_of_ne t h]
    exact ht j h

end PerKind

namespace Store

variable {s t : Store} {k : Kind} {owner id : Uuid}

/-! ## Owners -/

theorem hasUser_iff : s.hasUser id = true ↔ ∃ u ∈ s.users, u.id = .value id := by
  simp [hasUser]

theorem owns_iff :
    s.owns owner k id = true ↔ ∃ e ∈ s.entities.get k, e.id = id ∧ e.owner = owner := by
  simp [owns]

theorem ownsNotification_iff {n : Notification} :
    s.ownsNotification owner n = true ↔ ∃ b ∈ s.batches, b.id = n.batch ∧ b.owner = owner := by
  simp [ownsNotification]

theorem isUnsent_iff {batch : Uuid} :
    s.isUnsent owner batch = true ↔
      ∃ b ∈ s.batches, b.id = batch ∧ b.owner = owner ∧ b.sent = .value false := by
  simp [isUnsent, and_assoc]

theorem isPending_iff {n : Notification} :
    isPending id n = true ↔ n.id = id ∧ n.completed = none := by
  simp [isPending]

/-- The rows of a store belong together. -/
structure Coherent (s : Store) : Prop where
  userKeys : ∀ u ∈ s.users, ∃ id, u.id = .value id
  userIds : (s.users.map User.id).Nodup
  userNames : (s.users.map User.name).Nodup
  sessionIds : (s.sessions.map Session.id).Nodup
  draftIds : ∀ k, ((s.drafts.get k).map fun d => d.id).Nodup
  entityIds : ∀ k, ((s.entities.get k).map Owned.id).Nodup
  pairs : s.memberships.Nodup
  batchIds : (s.batches.map Batch.id).Nodup
  notificationIds : (s.notifications.map Notification.id).Nodup
  contactIds : (s.contacts.map Contact.chat).Nodup
  sessionOwners : ∀ x ∈ s.sessions, s.hasUser x.user = true
  draftOwners : ∀ k, ∀ d ∈ s.drafts.get k, s.hasUser d.owner = true
  entityOwners : ∀ k, ∀ e ∈ s.entities.get k, s.hasUser e.owner = true
  batchOwners : ∀ b ∈ s.batches, s.hasUser b.owner = true
  /-- A member belongs to the owner of the group. -/
  members : ∀ m ∈ s.memberships, ∃ owner,
    s.owns owner .group m.group = true ∧ s.owns owner .recipient m.recipient = true
  /-- A group refers to a template of its owner, if to any. -/
  references : ∀ g ∈ s.entities.group, ∀ id, g.fields.template = some id →
    s.owns g.owner .template id = true
  /-- The batch, the group and the recipient of a notification have one owner. -/
  notifications : ∀ n ∈ s.notifications, ∃ owner, s.ownsNotification owner n = true ∧
    s.owns owner .group n.group = true ∧ s.owns owner .recipient n.recipient = true

theorem coherent_empty : Coherent empty := by
  constructor
  case draftIds | entityIds =>
    intro k
    cases k <;> exact List.nodup_nil
  case draftOwners | entityOwners =>
    intro k
    cases k <;> exact fun _ h => absurd h List.not_mem_nil
  all_goals simp [empty]

namespace Coherent

/-! ## One owner -/

theorem entity_ext (h : s.Coherent) {a b : Owned k.Fields} (ha : a ∈ s.entities.get k)
    (hb : b ∈ s.entities.get k) (hid : a.id = b.id) : a = b :=
  List.inj_on_of_nodup_map (h.entityIds k) ha hb hid

theorem entity?_eq_some (h : s.Coherent) {e : Owned k.Fields} :
    s.entity? k id = some e ↔ e ∈ s.entities.get k ∧ e.id = id :=
  find?_key_eq_some (h.entityIds k)

theorem draft?_eq_some (h : s.Coherent) {d : Draft k.Fields} :
    s.draft? k id = some d ↔ d ∈ s.drafts.get k ∧ d.id = id :=
  find?_key_eq_some (h.draftIds k)

/-- An entity has one owner. -/
theorem owner_unique (h : s.Coherent) {owner' : Uuid} (h₁ : s.owns owner k id = true)
    (h₂ : s.owns owner' k id = true) : owner = owner' := by
  obtain ⟨a, ha, hid, rfl⟩ := owns_iff.mp h₁
  obtain ⟨b, hb, hid', rfl⟩ := owns_iff.mp h₂
  rw [h.entity_ext ha hb (hid.trans hid'.symm)]

theorem owns_of_mem {e : Owned k.Fields} (he : e ∈ s.entities.get k) :
    s.owns e.owner k e.id = true :=
  owns_iff.mpr ⟨e, he, rfl, rfl⟩

theorem batch_owner_unique (h : s.Coherent) {owner' : Uuid} {n : Notification}
    (h₁ : s.ownsNotification owner n = true) (h₂ : s.ownsNotification owner' n = true) :
    owner = owner' := by
  obtain ⟨a, ha, hid, rfl⟩ := ownsNotification_iff.mp h₁
  obtain ⟨b, hb, hid', rfl⟩ := ownsNotification_iff.mp h₂
  rw [List.inj_on_of_nodup_map h.batchIds ha hb (hid.trans hid'.symm)]

/-! ## Changing one table -/

theorem withUsers {users : List User} (h : s.Coherent)
    (hkeys : ∀ u ∈ users, ∃ id, u.id = .value id) (hids : (users.map User.id).Nodup)
    (hnames : (users.map User.name).Nodup)
    (hkeep : ∀ id, s.hasUser id = true → ({ s with users := users } : Store).hasUser id = true) :
    Coherent { s with users := users } :=
  { h with
    userKeys := hkeys
    userIds := hids
    userNames := hnames
    sessionOwners := fun x hx => hkeep _ (h.sessionOwners x hx)
    draftOwners := fun k d hd => hkeep _ (h.draftOwners k d hd)
    entityOwners := fun k e he => hkeep _ (h.entityOwners k e he)
    batchOwners := fun b hb => hkeep _ (h.batchOwners b hb) }

theorem withDrafts {rows : List (Draft k.Fields)} (h : s.Coherent)
    (hids : (rows.map fun d => d.id).Nodup) (howners : ∀ d ∈ rows, s.hasUser d.owner = true) :
    Coherent { s with drafts := s.drafts.set k rows } :=
  { h with
    draftIds := PerKind.forall_get_set
      (P := fun j (rows : List (Draft j.Fields)) => (rows.map fun d => d.id).Nodup) hids
      fun j _ => h.draftIds j
    draftOwners := PerKind.forall_get_set
      (P := fun j (rows : List (Draft j.Fields)) => ∀ d ∈ rows, s.hasUser d.owner = true) howners
      fun j _ => h.draftOwners j }

/-- Entities may be added and changed as long as none goes and no reference leaves its owner. -/
theorem withEntities {rows : List (Owned k.Fields)} (h : s.Coherent)
    (hids : (rows.map Owned.id).Nodup) (howners : ∀ e ∈ rows, s.hasUser e.owner = true)
    (hkeep : ∀ e ∈ s.entities.get k, ∃ e' ∈ rows, e'.id = e.id ∧ e'.owner = e.owner)
    (hrefs : ∀ g ∈ (s.entities.set k rows).group, ∀ id, g.fields.template = some id →
      s.owns g.owner .template id = true) :
    Coherent { s with entities := s.entities.set k rows } := by
  have howns : ∀ owner j id, s.owns owner j id = true →
      ({ s with entities := s.entities.set k rows } : Store).owns owner j id = true := by
    intro owner j id ho
    obtain ⟨e, he, rfl, rfl⟩ := owns_iff.mp ho
    by_cases hj : j = k
    · subst hj
      obtain ⟨e', he', hid, hown⟩ := hkeep e he
      exact owns_iff.mpr ⟨e', by rw [PerKind.get_set_self]; exact he', hid, hown⟩
    · exact owns_iff.mpr ⟨e, by rw [PerKind.get_set_of_ne _ hj]; exact he, rfl, rfl⟩
  exact
    { h with
      entityIds := PerKind.forall_get_set
        (P := fun j (rows : List (Owned j.Fields)) => (rows.map Owned.id).Nodup) hids
        fun j _ => h.entityIds j
      entityOwners := PerKind.forall_get_set
        (P := fun j (rows : List (Owned j.Fields)) => ∀ e ∈ rows, s.hasUser e.owner = true)
        howners fun j _ => h.entityOwners j
      members := fun m hm => by
        obtain ⟨owner, hg, hr⟩ := h.members m hm
        exact ⟨owner, howns _ _ _ hg, howns _ _ _ hr⟩
      references := fun g hg id hid => howns _ _ _ (hrefs g hg id hid)
      notifications := fun n hn => by
        obtain ⟨owner, hb, hg, hr⟩ := h.notifications n hn
        exact ⟨owner, hb, howns _ _ _ hg, howns _ _ _ hr⟩ }

end Coherent

end Store

end AlertService
