import AlertService.Proofs.Store.Arrival
import AlertService.Proofs.Store.Supply

/-!
# Whom a batch reaches

The list of targets is a join of five tables. What it holds is told row by row: a target is a member
of an active group of the user whose template has a text, and its chat has opted in. The list is in the
order in which the groups came, and for each of them in the order in which its members joined.

* `Reaches`: why a batch of the user reaches a target.
* `Coherent.mem_targets`, `pairwise_targets`: what the list of targets holds, and in which order.
* `startBatch_dispatches`: what becomes of a batch of the user in every run.
-/

namespace AlertService

open Operation Database

/-! ## Targets -/

namespace Store

variable {s : Store} {owner batch : Uuid} {t : Target}

/-- The target is a member of an active group of the user, whose template has the text, and its chat is
an active contact. -/
structure Reaches (s : Store) (owner : Uuid) (t : Target) : Prop where
  group : ∃ g ∈ s.entities.group, g.id = t.group ∧ g.owner = owner ∧ g.fields.active = true ∧
    ∃ x ∈ s.entities.template, g.fields.template = some x.id ∧ x.fields.messageText = some t.text
  member : ⟨t.group, t.recipient⟩ ∈ s.memberships
  recipient : ∃ r ∈ s.entities.recipient, r.id = t.recipient ∧ r.fields.telegramId = some t.chat
  contact : ⟨t.chat, true⟩ ∈ s.contacts

theorem contactIsActive_iff {chat : Int64} :
    s.contactIsActive chat = true ↔ ⟨chat, true⟩ ∈ s.contacts := by
  simp only [contactIsActive, List.any_eq_true, Bool.and_eq_true, decide_eq_true_eq]
  constructor
  · rintro ⟨⟨_, _⟩, hc, rfl, rfl⟩
    exact hc
  · intro hc
    exact ⟨_, hc, rfl, rfl⟩

theorem reachableChat?_eq_some {r : Owned RecipientFields} {chat : Int64} :
    s.reachableChat? r = some chat ↔
      r.fields.telegramId = some chat ∧ ⟨chat, true⟩ ∈ s.contacts := by
  rw [reachableChat?, Option.filter_eq_some_iff, contactIsActive_iff]

theorem Coherent.groupText?_eq_some (h : s.Coherent) {g : Owned GroupFields} {text : String} :
    s.groupText? g = some text ↔ g.fields.active = true ∧
      ∃ x ∈ s.entities.template, g.fields.template = some x.id ∧ x.fields.messageText = some text := by
  unfold groupText?
  split
  · rename_i hactive
    simp only [hactive, true_and, Option.bind_eq_some_iff, h.entity?_eq_some]
    constructor
    · rintro ⟨_, hid, x, ⟨hx, rfl⟩, htext⟩
      exact ⟨x, hx, hid, htext⟩
    · rintro ⟨x, hx, hid, htext⟩
      exact ⟨x.id, hid, x, ⟨hx, rfl⟩, htext⟩
  · rename_i hactive
    simp [hactive]

/-- The targets of a group are found along its memberships. -/
theorem groupTargets_eq (s : Store) (g : Owned GroupFields) :
    s.groupTargets g = (s.memberships.filter fun m => m.group = g.id).filterMap fun m =>
      (s.groupText? g).bind fun text => (s.entity? .recipient m.recipient).bind fun r =>
        (s.reachableChat? r).map fun chat => ⟨g.id, r.id, chat, text⟩ := by
  unfold groupTargets
  cases s.groupText? g with
  | none => simp
  | some text => simp only [members, List.filterMap_filterMap, Option.bind_some]

/-- What a membership of a group makes a target of. -/
theorem Coherent.target_of_membership (h : s.Coherent) {g : Owned GroupFields} {m : Membership}
    (ht : ((s.groupText? g).bind fun text => (s.entity? .recipient m.recipient).bind fun r =>
      (s.reachableChat? r).map fun chat => (⟨g.id, r.id, chat, text⟩ : Target)) = some t) :
    t.group = g.id ∧ t.recipient = m.recipient ∧ s.groupText? g = some t.text ∧
      ∃ r ∈ s.entities.recipient, r.id = m.recipient ∧ s.reachableChat? r = some t.chat := by
  simp only [Option.bind_eq_some_iff, Option.map_eq_some_iff, h.entity?_eq_some] at ht
  obtain ⟨text, htext, r, ⟨hr, hid⟩, chat, hchat, rfl⟩ := ht
  exact ⟨rfl, hid, htext, r, hr, hid, hchat⟩

/-- The list of targets holds those that a batch of the user reaches, and no others. -/
theorem Coherent.mem_targets (h : s.Coherent) : t ∈ s.targets owner ↔ s.Reaches owner t := by
  simp only [targets, List.mem_flatMap, groupTargets_eq, List.mem_filterMap, List.mem_filter,
    listEntities, decide_eq_true_eq]
  constructor
  · rintro ⟨g, ⟨hg, rfl⟩, m, ⟨hm, hgroup⟩, ht⟩
    obtain ⟨hgid, hrecipient, htext, r, hr, hrid, hchat⟩ := h.target_of_membership ht
    obtain ⟨hactive, htemplate⟩ := h.groupText?_eq_some.mp htext
    obtain ⟨htelegram, hcontact⟩ := reachableChat?_eq_some.mp hchat
    refine ⟨⟨g, hg, hgid.symm, rfl, hactive, htemplate⟩, ?_, ⟨r, hr, hrid.trans hrecipient.symm,
      htelegram⟩, hcontact⟩
    rw [hgid, hrecipient, ← hgroup]
    exact hm
  · rintro ⟨⟨g, hg, hgid, rfl, hactive, htemplate⟩, hm, ⟨r, hr, hrid, htelegram⟩, hcontact⟩
    refine ⟨g, ⟨hg, rfl⟩, _, ⟨hm, hgid.symm⟩, ?_⟩
    rw [h.groupText?_eq_some.mpr ⟨hactive, htemplate⟩, Option.bind_some,
      h.entity?_eq_some.mpr ⟨hr, hrid⟩, Option.bind_some,
      reachableChat?_eq_some.mpr ⟨htelegram, hcontact⟩, Option.map_some, hgid, hrid]

/-- The targets are ordered as their groups are, and those of a group as its memberships. -/
theorem Coherent.pairwise_targets (h : s.Coherent) (owner : Uuid) {R : Uuid → Uuid → Prop}
    {Q : Membership → Membership → Prop} (hgroups : s.groupIds.Pairwise R)
    (hmembers : s.memberships.Pairwise Q) : (s.targets owner).Pairwise fun x y =>
      R x.group y.group ∨
        x.group = y.group ∧ Q ⟨x.group, x.recipient⟩ ⟨y.group, y.recipient⟩ := by
  have hgroup : ∀ g, ∀ t ∈ s.groupTargets g, t.group = g.id := by
    intro g t ht
    rw [groupTargets_eq] at ht
    obtain ⟨m, -, ht⟩ := List.mem_filterMap.mp ht
    exact (h.target_of_membership ht).1
  refine List.pairwise_flatMap.mpr ⟨fun g _ => ?_, ?_⟩
  · rw [groupTargets_eq, List.pairwise_filterMap]
    refine (hmembers.filter _).imp_of_mem fun {m m'} hm hm' hQ x hx y hy => .inr ?_
    obtain ⟨hxg, hxr, -⟩ := h.target_of_membership hx
    obtain ⟨hyg, hyr, -⟩ := h.target_of_membership hy
    have hmg : m.group = g.id := of_decide_eq_true (List.mem_filter.mp hm).2
    have hmg' : m'.group = g.id := of_decide_eq_true (List.mem_filter.mp hm').2
    rw [hxg, hxr, hyg, hyr]
    refine ⟨rfl, ?_⟩
    rw [show (⟨g.id, m.recipient⟩ : Membership) = m from hmg ▸ rfl,
      show (⟨g.id, m'.recipient⟩ : Membership) = m' from hmg' ▸ rfl]
    exact hQ
  · refine ((List.pairwise_map.mp hgroups).filter _).imp fun {g g'} hR x hx y hy => .inl ?_
    rw [hgroup g x hx, hgroup g' y hy]
    exact hR

end Store

/-! ## Batches in a run -/

variable {ops : List Operation} {owner batch : Uuid} {now : Instant} {fresh : Nat → Uuid}

/-- The list of those whom a batch of the user reaches after the calls: it is complete, in the order of
arrival of groups and then of memberships, and has no member of a group twice. -/
structure ListsReached (ops : List Operation) (owner : Uuid) (ts : List Target) : Prop where
  exact : ∀ t, t ∈ ts ↔ (after ops).store.Reaches owner t
  ordered : ts.Pairwise fun x y => CameBefore Store.groupIds ops x.group y.group ∨
    x.group = y.group ∧
      CameBefore Store.memberships ops ⟨x.group, x.recipient⟩ ⟨y.group, y.recipient⟩
  once : (ts.map fun t => (t.group, t.recipient)).Nodup

theorem listsReached_targets (ops : List Operation) (owner : Uuid) :
    ListsReached ops owner ((after ops).store.targets owner) := by
  have h := coherent_run coherent_fresh ops
  have hordered := h.pairwise_targets owner
    (pairwise_cameBefore rfl (fun _ _ _ => grows_groupIds) ops)
    (pairwise_cameBefore rfl (fun _ _ _ => grows_memberships) ops)
  refine ⟨fun t => h.mem_targets, hordered, List.pairwise_map.mpr (hordered.imp ?_)⟩
  rintro x y (hxy | ⟨-, hxy⟩) he
  · exact hxy.ne (Prod.mk.inj he).1
  · obtain ⟨hg, hr⟩ := Prod.mk.inj he
    exact hxy.ne (by rw [hg, hr])

/-- What becomes of a batch that the user starts after the calls. -/
structure Dispatches (ops : List Operation) (owner batch : Uuid) (now : Instant)
    (fresh : Nat → Uuid) : Prop where
  /-- Nothing is sent or changed unless the batch is there, is the user's and has not been sent. -/
  refused : ⟨batch, owner, .value false⟩ ∉ (after ops).store.batches →
    (after ops).store.startBatch owner batch now fresh = .error (.notFound "notification batch") ∧
      (after ops).perform (.startBatch owner batch now fresh) = after ops
  /-- There is a delivery and a pending notification for everyone whom the batch reaches, in the same
  order, and but for these the batch alone changes: it is marked as sent. -/
  started : ⟨batch, owner, .value false⟩ ∈ (after ops).store.batches → ∃ ts s,
    ListsReached ops owner ts ∧
      (after ops).store.startBatch owner batch now fresh =
        .ok (ts.zipIdx.map fun (t, i) => ⟨fresh i, t.chat, t.text⟩, s) ∧
      s = { (after ops).store with
        batches := (after ops).store.batches.map fun b =>
          if b.id = batch then { b with sent := .value true } else b
        notifications := (after ops).store.notifications ++ ts.zipIdx.map fun (t, i) =>
          ⟨fresh i, batch, t.recipient, t.group, "telegram", .value now, none⟩ } ∧
      (s.notifications.map (·.id)).Nodup

/-- A batch is sent to everyone whom it reaches, if the identifiers of the notifications are fresh. -/
theorem startBatch_dispatches (hfresh : ((after ops).store.notifications.map (·.id) ++
      (List.range ((after ops).store.targets owner).length).map fresh).Nodup) :
    Dispatches ops owner batch now fresh := by
  have h := coherent_run coherent_fresh ops
  have hunsent : (after ops).store.isUnsent owner batch = true ↔
      ⟨batch, owner, .value false⟩ ∈ (after ops).store.batches := by
    rw [Store.isUnsent_iff]
    constructor
    · rintro ⟨⟨_, _, _⟩, hb, rfl, rfl, rfl⟩
      exact hb
    · intro hb
      exact ⟨_, hb, rfl, rfl, rfl⟩
  constructor
  · intro hnone
    have hrefused : (after ops).store.startBatch owner batch now fresh =
        .error (.notFound "notification batch") := by
      rw [Store.startBatch, if_neg fun hb => hnone (hunsent.mp hb)]
    refine ⟨hrefused, perform_of_error (e := .notFound "notification batch") ?_⟩
    rw [Operation.apply, hrefused]
    rfl
  · intro hb
    have hids : (((after ops).store.notifications ++ Store.queuedRows batch now fresh 0
        ((after ops).store.targets owner)).map Notification.id).Nodup := by
      rw [List.map_append, Store.ids_queuedRows, ← List.range_eq_range']
      exact hfresh
    exact ⟨_, _, listsReached_targets ops owner,
      (Store.startBatch_eq_ok h.notificationIds).mpr ⟨hunsent.mpr hb, hids, rfl, rfl⟩, rfl, hids⟩

/-- A member of two groups is reached twice, once with an empty text. -/
theorem startBatch_dispatches_twice :
    let ops : List Operation := [.createUser (.uniform 0) "anna" "hash",
      .insertDraft .template (.uniform 1) (.uniform 0) ⟨"alarm", some "leave the house"⟩,
      .confirmDraft .template (.uniform 0) (.uniform 1) (.uniform 1),
      .insertDraft .template (.uniform 2) (.uniform 0) ⟨"bell", some ""⟩,
      .confirmDraft .template (.uniform 0) (.uniform 2) (.uniform 2),
      .insertDraft .group (.uniform 3) (.uniform 0) ⟨"family", true, some (.uniform 1)⟩,
      .confirmDraft .group (.uniform 0) (.uniform 3) (.uniform 3),
      .insertDraft .group (.uniform 4) (.uniform 0) ⟨"friends", true, some (.uniform 2)⟩,
      .confirmDraft .group (.uniform 0) (.uniform 4) (.uniform 4),
      .insertDraft .recipient (.uniform 5) (.uniform 0) ⟨"ben", none, none, some 7⟩,
      .confirmDraft .recipient (.uniform 0) (.uniform 5) (.uniform 5),
      .addMember (.uniform 0) (.uniform 4) (.uniform 5),
      .addMember (.uniform 0) (.uniform 3) (.uniform 5), .activateContact 7,
      .createBatch (.uniform 6) (.uniform 0)]
    let fresh (i : Nat) : Uuid := .uniform (Fin.ofNat 16 (7 + i))
    (after ops).store.targets (.uniform 0) =
        [⟨.uniform 3, .uniform 5, 7, "leave the house"⟩, ⟨.uniform 4, .uniform 5, 7, ""⟩] ∧
      ((after ops).store.notifications.map (·.id) ++
        (List.range ((after ops).store.targets (.uniform 0)).length).map fresh).Nodup ∧
      Dispatches ops (.uniform 0) (.uniform 6) (.ofSeconds 0) fresh := by
  intro ops fresh
  have htargets : (after ops).store.targets (.uniform 0) =
      [⟨.uniform 3, .uniform 5, 7, "leave the house"⟩, ⟨.uniform 4, .uniform 5, 7, ""⟩] := by decide
  have hfresh : ((after ops).store.notifications.map (·.id) ++
      (List.range ((after ops).store.targets (.uniform 0)).length).map fresh).Nodup := by
    rw [htargets]
    decide
  exact ⟨htargets, hfresh, startBatch_dispatches hfresh⟩

end AlertService
