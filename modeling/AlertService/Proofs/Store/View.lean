import AlertService.Proofs.Store.Holdings
import AlertService.Proofs.Store.Supply

/-!
# What a user can see

A user's calls look at more rows than those that the user owns: the members of a group are looked up
among all recipients, and the text of a group among all templates. In a coherent store what they
find there is the user's all the same, so that nothing changes for them when everyone else's rows
are taken away.

* `view`: the store without the rows of others, and without sessions.
* `Coherent.members_view`, `Coherent.targets_view`: what is found through references.
-/

namespace AlertService

namespace Store

variable {s : Store} {k : Kind} {user group recipient id batch : Uuid} {now : Instant}
  {fresh : Nat → Uuid}

/-- The rows of the user apart from sessions, in their order, and all contacts. -/
def view (s : Store) (user : Uuid) : Store := { s.restrict fun id => id = user with sessions := [] }

theorem Coherent.view (h : s.Coherent) (user : Uuid) : (s.view user).Coherent :=
  { h.restrict fun id => id = user with
    sessionIds := List.nodup_nil
    sessionOwners := fun _ hx => absurd hx List.not_mem_nil }

/-! ## Rows -/

@[simp] theorem get_drafts_view :
    (s.view user).drafts.get k = (s.drafts.get k).filter fun d => d.owner = user := by
  simp only [view, restrict, PerKind.get_map]

@[simp] theorem get_entities_view :
    (s.view user).entities.get k = (s.entities.get k).filter fun e => e.owner = user := by
  simp only [view, restrict, PerKind.get_map]

theorem memberships_view :
    (s.view user).memberships = s.memberships.filter fun m => s.owns user .group m.group := rfl

theorem batches_view : (s.view user).batches = s.batches.filter fun b => b.owner = user := rfl

theorem notifications_view :
    (s.view user).notifications = s.notifications.filter (s.ownsNotification user) := rfl

theorem Lacks.view (h : s.Lacks id) : (s.view user).Lacks id where
  users := by
    rw [Bool.eq_false_iff]
    intro hu
    exact Bool.eq_false_iff.mp h.users (hasUser_restrict.mp hu).1
  sessions _ hx := absurd hx List.not_mem_nil
  drafts k d hd := by
    rw [get_drafts_view] at hd
    exact h.drafts k d (List.mem_of_mem_filter hd)
  entities k e he := by
    rw [get_entities_view] at he
    exact h.entities k e (List.mem_of_mem_filter he)
  batches b hb := h.batches b (List.mem_of_mem_filter hb)
  notifications n hn := h.notifications n (List.mem_of_mem_filter hn)

/-! ## Looking rows up -/

@[simp] theorem hasUser_view : (s.view user).hasUser user = s.hasUser user := by
  rw [Bool.eq_iff_iff]
  exact (hasUser_restrict (p := fun id => id = user)).trans (and_iff_left (decide_eq_true rfl))

@[simp] theorem owns_view : (s.view user).owns user k id = s.owns user k id := by
  rw [Bool.eq_iff_iff]
  exact (owns_restrict (p := fun id => id = user)).trans (and_iff_left (decide_eq_true rfl))

@[simp] theorem ownsNotification_view {n : Notification} :
    (s.view user).ownsNotification user n = s.ownsNotification user n := by
  rw [Bool.eq_iff_iff]
  exact (ownsNotification_restrict (p := fun id => id = user)).trans
    (and_iff_left (decide_eq_true rfl))

@[simp] theorem isUnsent_view : (s.view user).isUnsent user batch = s.isUnsent user batch := by
  rw [Bool.eq_iff_iff, isUnsent_iff, isUnsent_iff, batches_view]
  constructor
  · rintro ⟨b, hb, h⟩
    exact ⟨b, List.mem_of_mem_filter hb, h⟩
  · rintro ⟨b, hb, hid, ho, hsent⟩
    exact ⟨b, List.mem_filter.mpr ⟨hb, decide_eq_true ho⟩, hid, ho, hsent⟩

@[simp] theorem listEntities_view : (s.view user).listEntities k user = s.listEntities k user := by
  rw [listEntities, get_entities_view]
  exact filter_filter_of_imp fun _ _ he => he

@[simp] theorem listActiveGroups_view :
    (s.view user).listActiveGroups user = s.listActiveGroups user := by
  refine filter_filter_of_imp fun g _ hg => ?_
  rw [Bool.and_eq_true] at hg
  exact hg.1

theorem filter_notifications_view (p : Notification → Bool) :
    ((s.view user).notifications.filter fun n =>
      (s.view user).ownsNotification user n && p n) =
        s.notifications.filter fun n => s.ownsNotification user n && p n := by
  simp only [ownsNotification_view, notifications_view]
  refine filter_filter_of_imp fun n _ hn => ?_
  rw [Bool.and_eq_true] at hn
  exact hn.1

theorem contains_memberships_view {recipient : Uuid} (hg : s.owns user .group group = true) :
    (s.view user).memberships.contains ⟨group, recipient⟩ =
      s.memberships.contains ⟨group, recipient⟩ := by
  rw [Bool.eq_iff_iff, List.contains_iff_mem, List.contains_iff_mem, memberships_view,
    List.mem_filter]
  exact and_iff_left hg

namespace Coherent

theorem entity?_view (h : s.Coherent) (ho : s.owns user k id = true) :
    (s.view user).entity? k id = s.entity? k id := by
  obtain ⟨e, he, rfl, rfl⟩ := owns_iff.mp ho
  have hview : e ∈ (s.view e.owner).entities.get k := by
    rw [get_entities_view]
    exact List.mem_filter.mpr ⟨he, decide_eq_true rfl⟩
  rw [h.entity?_eq_some.mpr ⟨he, rfl⟩, (h.view e.owner).entity?_eq_some.mpr ⟨hview, rfl⟩]

/-- The members of the user's groups are recipients of the user. -/
theorem members_view (h : s.Coherent) (hg : s.owns user .group group = true) :
    (s.view user).members group = s.members group := by
  have hrows : (s.view user).memberships.filter (fun m => m.group = group) =
      s.memberships.filter fun m => m.group = group := by
    refine filter_filter_of_imp fun m _ hm => ?_
    rw [of_decide_eq_true hm]
    exact hg
  rw [Store.members, Store.members, hrows]
  refine List.filterMap_congr fun m hm => h.entity?_view ?_
  obtain ⟨hm, hid⟩ := List.mem_filter.mp hm
  -- the owner of the group is the user, and a group and its members have one owner
  obtain ⟨owner, hgo, hro⟩ := h.members m hm
  rw [of_decide_eq_true hid] at hgo
  rwa [h.owner_unique hg hgo]

/-- The texts of the user's groups are those of templates of the user. -/
theorem groupText?_view (h : s.Coherent) {g : Owned GroupFields} (hg : g ∈ s.entities.group)
    (ho : g.owner = user) : (s.view user).groupText? g = s.groupText? g := by
  unfold groupText?
  split
  · cases ht : g.fields.template with
    | none => rfl
    | some t =>
      have howns : s.owns user .template t = true := ho ▸ h.references g hg t ht
      simp only [Option.bind_some, h.entity?_view howns]
  · rfl

theorem groupTargets_view (h : s.Coherent) {g : Owned GroupFields} (hg : g ∈ s.entities.group)
    (ho : g.owner = user) : (s.view user).groupTargets g = s.groupTargets g := by
  have howns : s.owns user .group g.id = true := owns_iff.mpr ⟨g, hg, rfl, ho⟩
  rw [groupTargets, groupTargets, h.groupText?_view hg ho, h.members_view howns]
  rfl

/-- A batch reaches whom it would reach if there were no other users. -/
theorem targets_view (h : s.Coherent) : (s.view user).targets user = s.targets user := by
  rw [targets, targets, listEntities_view]
  refine List.flatMap_congr fun g hg => ?_
  obtain ⟨hg, ho⟩ := List.mem_filter.mp hg
  exact h.groupTargets_view hg (of_decide_eq_true ho)

end Coherent

theorem Supplies.view (h : s.Coherent) (hs : s.Supplies user fresh) :
    (s.view user).Supplies user fresh where
  lacks i hi := by
    rw [h.targets_view] at hi
    exact (hs.lacks i hi).view
  distinct i hi j hj := by
    rw [h.targets_view] at hi hj
    exact hs.distinct i hi j hj

/-! ## Calls that read -/

theorem Coherent.groupMembers_view (h : s.Coherent) :
    (s.view user).groupMembers user group = s.groupMembers user group := by
  rw [groupMembers, groupMembers, requireOwned, requireOwned, owns_view]
  cases hg : s.owns user .group group with
  | true => rw [h.members_view hg]
  | false => rfl

theorem listNotifications_view {pendingOnly : Bool} :
    (s.view user).listNotifications user pendingOnly = s.listNotifications user pendingOnly := by
  rw [listNotifications, listNotifications, filter_notifications_view]

theorem getNotification_view :
    (s.view user).getNotification user id = s.getNotification user id := by
  have hfound : (s.view user).notifications.find?
      (fun n => n.id = id && (s.view user).ownsNotification user n) =
        s.notifications.find? fun n => n.id = id && s.ownsNotification user n := by
    rw [← List.head?_filter, ← List.head?_filter]
    simp only [Bool.and_comm (decide _)]
    rw [filter_notifications_view]
  rw [getNotification, getNotification, hfound]

/-! ## Calls that change rows -/

theorem view_addDraft {d : Draft k.Fields} (ho : d.owner = user) :
    ({ s with drafts := s.drafts.set k (s.drafts.get k ++ [d]) } : Store).view user =
      { s.view user with
        drafts := (s.view user).drafts.set k ((s.view user).drafts.get k ++ [d]) } := by
  refine Store.ext rfl rfl ?_ rfl rfl rfl rfl rfl
  have hrows : (s.drafts.get k ++ [d]).filter (fun d => d.owner = user) =
      (s.drafts.get k).filter (fun d => d.owner = user) ++ [d] :=
    filter_concat_of_pos (decide_eq_true ho)
  cases k with
  | recipient => exact PerKind.ext hrows rfl rfl
  | template => exact PerKind.ext rfl hrows rfl
  | group => exact PerKind.ext rfl rfl hrows

theorem Lacks.insertDraft_view (h : s.Lacks id) {fields : k.Fields} :
    (s.view user).insertDraft k id user fields =
      (s.insertDraft k id user fields).map fun t => t.view user := by
  rw [h.insertDraft, h.view.insertDraft, hasUser_view]
  split
  · exact congrArg Except.ok (view_addDraft (d := ⟨⟨id, user, fields⟩, none⟩) rfl).symm
  · rfl

/-- A call on a group and a recipient looks whether they are the user's, which the view tells. -/
theorem requireOwned_view {x y : Except StoreError Store}
    (h : s.owns user .group group = true → x = y.map fun t => t.view user) :
    (do
      (s.view user).requireOwned user .group group
      (s.view user).requireOwned user .recipient recipient
      x) =
    (do
      s.requireOwned user .group group
      s.requireOwned user .recipient recipient
      y : Except StoreError Store).map fun t => t.view user := by
  rw [requireOwned, requireOwned, requireOwned, requireOwned, owns_view, owns_view]
  cases hg : s.owns user .group group with
  | false => rfl
  | true =>
    cases s.owns user .recipient recipient with
    | false => rfl
    | true => exact h hg

theorem addMember_view :
    (s.view user).addMember user group recipient =
      (s.addMember user group recipient).map fun t => t.view user := by
  refine requireOwned_view fun hg => ?_
  rw [contains_memberships_view hg]
  cases s.memberships.contains ⟨group, recipient⟩ with
  | true => rfl
  | false =>
    have hrows : (s.memberships ++ [(⟨group, recipient⟩ : Membership)]).filter
        (fun m => s.owns user .group m.group) =
          (s.view user).memberships ++ [⟨group, recipient⟩] := filter_concat_of_pos hg
    exact congrArg Except.ok (Store.ext rfl rfl rfl rfl hrows.symm rfl rfl rfl)

theorem removeMember_view :
    (s.view user).removeMember user group recipient =
      (s.removeMember user group recipient).map fun t => t.view user := by
  refine requireOwned_view fun hg => ?_
  rw [contains_memberships_view hg]
  cases s.memberships.contains ⟨group, recipient⟩ with
  | false => rfl
  | true =>
    have hrows := List.filter_comm (fun m : Membership => s.owns user .group m.group)
      (fun m => m ≠ ⟨group, recipient⟩) s.memberships
    exact congrArg Except.ok (Store.ext rfl rfl rfl rfl hrows.symm rfl rfl rfl)

theorem cancelNotification_view :
    (s.view user).cancelNotification user id =
      (s.cancelNotification user id).map fun t => t.view user := by
  have hany : ((s.view user).notifications.any fun n =>
      isPending id n && (s.view user).ownsNotification user n) =
        s.notifications.any fun n => isPending id n && s.ownsNotification user n := by
    simp only [ownsNotification_view, notifications_view]
    exact any_and_congr (filter_filter_of_imp fun _ _ hn => hn) _
  rw [cancelNotification, cancelNotification, hany]
  split
  · refine congrArg Except.ok (Store.ext rfl rfl rfl rfl rfl rfl ?_ rfl)
    simp only [ownsNotification_view]
    exact List.filter_comm _ _ _
  · rfl

/-- No notification belongs to a batch that is new. -/
theorem Coherent.view_addBatch (h : s.Coherent) {b : Batch} (hid : s.Lacks b.id)
    (ho : b.owner = user) :
    ({ s with batches := s.batches ++ [b] } : Store).view user =
      { s.view user with batches := (s.view user).batches ++ [b] } := by
  have howns : ∀ n ∈ s.notifications,
      ({ s with batches := s.batches ++ [b] } : Store).ownsNotification user n =
        s.ownsNotification user n := by
    intro n hn
    -- its batch is an old one
    obtain ⟨owner, hb, -, -⟩ := h.notifications n hn
    obtain ⟨b', hb', hn', -⟩ := ownsNotification_iff.mp hb
    have hne : b.id ≠ n.batch := fun he => hid.batches b' hb' (hn'.trans he.symm)
    rw [ownsNotification, List.any_append, List.any_cons, decide_eq_false hne, Bool.false_and,
      List.any_nil, Bool.or_false, Bool.or_false]
    rfl
  exact Store.ext rfl rfl rfl rfl rfl (filter_concat_of_pos (decide_eq_true ho))
    (List.filter_congr howns) rfl

theorem Coherent.createBatch_view (h : s.Coherent) (hid : s.Lacks id) :
    (s.view user).createBatch id user =
      (s.createBatch id user).map fun t => t.view user := by
  rw [hid.createBatch, hid.view.createBatch, hasUser_view]
  split
  · exact congrArg Except.ok (h.view_addBatch (b := ⟨id, user, .value false⟩) hid rfl).symm
  · rfl

/-- The notifications of a batch that the user sends are the user's. -/
theorem view_startBatch {rows : List Notification} (hb : s.isUnsent user batch = true)
    (hrows : ∀ n ∈ rows, n.batch = batch) :
    ({ s.markSent batch with notifications := s.notifications ++ rows } : Store).view user =
      { (s.view user).markSent batch with
        notifications := (s.view user).notifications ++ rows } := by
  have hbatches : (s.markSent batch).batches.filter (fun b => b.owner = user) =
      ((s.view user).markSent batch).batches := by
    rw [markSent, markSent, batches_view, List.filter_map]
    refine congrArg (List.map _) (List.filter_congr fun b _ => ?_)
    simp only [Function.comp_apply]
    split <;> rfl
  have hnotifications : (s.notifications ++ rows).filter
      ((s.markSent batch).ownsNotification user) = (s.view user).notifications ++ rows := by
    have howns : (s.markSent batch).ownsNotification user = s.ownsNotification user :=
      funext fun n => ownsNotification_markSent
    have hown : rows.filter (s.ownsNotification user) = rows := by
      refine List.filter_eq_self.mpr fun n hn => ?_
      obtain ⟨b, hmem, hid, ho, -⟩ := isUnsent_iff.mp hb
      exact ownsNotification_iff.mpr ⟨b, hmem, hid.trans (hrows n hn).symm, ho⟩
    rw [howns, List.filter_append, hown, notifications_view]
  exact Store.ext rfl rfl rfl rfl rfl hbatches hnotifications rfl

theorem Supplies.startBatch_view (h : s.Coherent) (hs : s.Supplies user fresh) :
    (s.view user).startBatch user batch now fresh =
      (s.startBatch user batch now fresh).map fun (ds, t) => (ds, t.view user) := by
  rw [hs.startBatch h, (hs.view h).startBatch (h.view user), isUnsent_view, h.targets_view]
  split
  · rename_i hunsent
    have hrows : ∀ n ∈ queuedRows batch now fresh 0 (s.targets user), n.batch = batch := by
      intro n hn
      obtain ⟨x, -, rfl⟩ := List.mem_map.mp hn
      rfl
    exact congrArg (fun t => Except.ok (_, t)) (view_startBatch hunsent hrows).symm
  · rfl

end Store

end AlertService
