import AlertService.Proofs.Store.View

/-!
# What a user learns of others

Most calls of a user are about the user's own rows. What such a call returns, and what it makes of
these rows, depends on them and on the contacts alone, so that nothing is learnt of anybody else's
rows: not even whether there is one under some identifier.

Identifiers and times of new rows come from outside. Two runs in which they differ are compared
after those of one run were put in the place of those of the other.

* `Inquiry`, `Inquiry.answer`: the calls, and what they return.
* `Inquiry.answer_view`: they do not notice when all other users are gone.
* `Inquiry.answer_renewed`: new identifiers and the time show in new rows only.
* `tellsNothing`: in two runs that agree on what the user owns, the answers agree.
-/

namespace AlertService

/-! ## The calls -/

/-- A call of a user that is about rows of the user. -/
inductive Inquiry where
  | insertDraft (k : Kind) (fields : k.Fields)
  | listEntities (k : Kind)
  | listActiveGroups
  | groupMembers (group : Uuid)
  | addMember (group recipient : Uuid)
  | removeMember (group recipient : Uuid)
  | createBatch
  | startBatch (batch : Uuid)
  | listNotifications (pendingOnly : Bool)
  | getNotification (id : Uuid)
  | cancelNotification (id : Uuid)

inductive Answer where
  | done
  | draft (k : Kind) (draft : Owned k.Fields)
  | entities (k : Kind) (entities : List (Owned k.Fields))
  | batch (id : Uuid)
  | deliveries (deliveries : List Delivery)
  | notifications (notifications : List NotificationRecord)

/-- What the call of the user returns and leaves, where new rows get the identifiers. -/
def Inquiry.answer (q : Inquiry) (user : Uuid) (now : Instant) (fresh : Nat → Uuid) (s : Store) :
    Except StoreError (Answer × Store) :=
  match q with
  | .insertDraft k fields =>
    (s.insertDraft k (fresh 0) user fields).map fun s => (.draft k ⟨fresh 0, user, fields⟩, s)
  | .listEntities k => .ok (.entities k (s.listEntities k user), s)
  | .listActiveGroups => .ok (.entities .group (s.listActiveGroups user), s)
  | .groupMembers group =>
    (s.groupMembers user group).map fun rows => (.entities .recipient rows, s)
  | .addMember group recipient => (s.addMember user group recipient).map fun s => (.done, s)
  | .removeMember group recipient => (s.removeMember user group recipient).map fun s => (.done, s)
  | .createBatch => (s.createBatch (fresh 0) user).map fun s => (.batch (fresh 0), s)
  | .startBatch batch =>
    (s.startBatch user batch now fresh).map fun (ds, s) => (.deliveries ds, s)
  | .listNotifications pendingOnly =>
    (s.listNotifications user pendingOnly).map fun rows => (.notifications rows, s)
  | .getNotification id => (s.getNotification user id).map fun row => (.notifications [row], s)
  | .cancelNotification id => (s.cancelNotification user id).map fun s => (.done, s)

variable {s t : Store} {k : Kind} {user group recipient id batch : Uuid} {now now' : Instant}
  {fresh fresh' : Nat → Uuid} {q : Inquiry}

/-! ## Without the others -/

namespace Inquiry

/-- What a user asks for is answered as if there were no other users. -/
theorem answer_view (h : s.Coherent) (hs : s.Supplies user fresh) :
    q.answer user now fresh (s.view user) =
      (q.answer user now fresh s).map fun (a, t) => (a, t.view user) := by
  have hread : ∀ {α : Type} (x : Except StoreError α) (f : α → Answer),
      (x.map fun a => (f a, s.view user)) =
        (x.map fun a => (f a, s)).map fun (a, t) => (a, t.view user) := by
    intro α x f
    cases x <;> rfl
  have hwrite : ∀ (x : Except StoreError Store) (a : Answer),
      ((x.map fun t => t.view user).map fun t => (a, t)) =
        (x.map fun t => (a, t)).map fun (a, t) => (a, t.view user) := by
    intro x a
    cases x <;> rfl
  have hlacks : s.Lacks (fresh 0) := hs.lacks 0 (Nat.zero_le _)
  cases q with
  | insertDraft k fields =>
    simp only [answer, hlacks.insertDraft_view]
    exact hwrite _ _
  | listEntities k =>
    simp only [answer, Store.listEntities_view]
    rfl
  | listActiveGroups =>
    simp only [answer, Store.listActiveGroups_view]
    rfl
  | groupMembers group =>
    simp only [answer, h.groupMembers_view]
    exact hread _ _
  | addMember group recipient =>
    simp only [answer, Store.addMember_view]
    exact hwrite _ _
  | removeMember group recipient =>
    simp only [answer, Store.removeMember_view]
    exact hwrite _ _
  | createBatch =>
    simp only [answer, h.createBatch_view hlacks]
    exact hwrite _ _
  | startBatch batch =>
    simp only [answer, hs.startBatch_view h]
    cases s.startBatch user batch now fresh <;> rfl
  | listNotifications pendingOnly =>
    simp only [answer, Store.listNotifications_view]
    exact hread _ _
  | getNotification id =>
    simp only [answer, Store.getNotification_view]
    exact hread _ _
  | cancelNotification id =>
    simp only [answer, Store.cancelNotification_view]
    exact hwrite _ _

end Inquiry

/-! ## New identifiers -/

/-- How the new rows of a run are renamed. The notifications among them get the time `now`. -/
structure Renewal where
  renamed? : Uuid → Option Uuid
  now : Instant

namespace Renewal

/-- The identifiers with the numbers up to `n` are replaced. -/
def between (n : Nat) (fresh fresh' : Nat → Uuid) (now' : Instant) : Renewal where
  renamed? id := ((List.range (n + 1)).find? fun i => fresh i = id).map fresh'
  now := now'

def rename (ρ : Renewal) (id : Uuid) : Uuid := (ρ.renamed? id).getD id

def notification (ρ : Renewal) (n : Notification) : Notification :=
  match ρ.renamed? n.id with
  | some id => { n with id := id, created := .value ρ.now }
  | none => n

/-- Answers that only tell of old rows stay as they are. -/
def answer (ρ : Renewal) : Answer → Answer
  | .draft k d => .draft k { d with id := ρ.rename d.id }
  | .batch id => .batch (ρ.rename id)
  | .deliveries ds =>
    .deliveries (ds.map fun d => { d with notification := ρ.rename d.notification })
  | a => a

def store (ρ : Renewal) (s : Store) : Store :=
  { s with
    drafts := s.drafts.map fun _ rows => rows.map fun d => { d with id := ρ.rename d.id }
    batches := s.batches.map fun b => { b with id := ρ.rename b.id }
    notifications := s.notifications.map ρ.notification }

/-- There is no new row in the store. -/
structure Spares (ρ : Renewal) (s : Store) : Prop where
  drafts : ∀ k, ∀ d ∈ s.drafts.get k, ρ.renamed? d.id = none
  batches : ∀ b ∈ s.batches, ρ.renamed? b.id = none
  notifications : ∀ n ∈ s.notifications, ρ.renamed? n.id = none

variable {ρ : Renewal} {n : Nat}

theorem rename_of_none (h : ρ.renamed? id = none) : ρ.rename id = id := by
  rw [rename, h, Option.getD_none]

theorem rename_of_some {id' : Uuid} (h : ρ.renamed? id = some id') : ρ.rename id = id' := by
  rw [rename, h, Option.getD_some]

namespace Spares

theorem map_drafts (h : ρ.Spares s) (k : Kind) :
    (s.drafts.get k).map (fun d => { d with id := ρ.rename d.id }) = s.drafts.get k := by
  refine (List.map_congr_left fun d hd => ?_).trans (List.map_id _)
  rw [rename_of_none (h.drafts k d hd)]
  rfl

theorem map_batches (h : ρ.Spares s) :
    s.batches.map (fun b => { b with id := ρ.rename b.id }) = s.batches := by
  refine (List.map_congr_left fun b hb => ?_).trans (List.map_id _)
  rw [rename_of_none (h.batches b hb)]
  rfl

theorem map_notifications (h : ρ.Spares s) :
    s.notifications.map ρ.notification = s.notifications := by
  refine (List.map_congr_left fun n hn => ?_).trans (List.map_id _)
  rw [notification, h.notifications n hn]
  rfl

theorem drafts_store (h : ρ.Spares s) : (ρ.store s).drafts = s.drafts :=
  PerKind.ext (h.map_drafts .recipient) (h.map_drafts .template) (h.map_drafts .group)

theorem store_eq (h : ρ.Spares s) : ρ.store s = s :=
  Store.ext rfl rfl h.drafts_store rfl rfl h.map_batches h.map_notifications rfl

theorem markSent (h : ρ.Spares s) (batch : Uuid) : ρ.Spares (s.markSent batch) where
  drafts := h.drafts
  batches b hb := by
    obtain ⟨b', hb', rfl⟩ := List.mem_map.mp hb
    split <;> exact h.batches b' hb'
  notifications := h.notifications

theorem store_addDraft (h : ρ.Spares s) (d : Draft k.Fields) :
    ρ.store { s with drafts := s.drafts.set k (s.drafts.get k ++ [d]) } =
      { s with drafts := s.drafts.set k (s.drafts.get k ++ [{ d with id := ρ.rename d.id }]) } := by
  have hrows : (s.drafts.get k ++ [d]).map (fun d => { d with id := ρ.rename d.id }) =
      s.drafts.get k ++ [{ d with id := ρ.rename d.id }] := by
    rw [List.map_append, h.map_drafts]
    rfl
  refine Store.ext rfl rfl ?_ rfl rfl h.map_batches h.map_notifications rfl
  cases k with
  | recipient => exact PerKind.ext hrows (h.map_drafts .template) (h.map_drafts .group)
  | template => exact PerKind.ext (h.map_drafts .recipient) hrows (h.map_drafts .group)
  | group => exact PerKind.ext (h.map_drafts .recipient) (h.map_drafts .template) hrows

theorem store_addBatch (h : ρ.Spares s) (b : Batch) :
    ρ.store { s with batches := s.batches ++ [b] } =
      { s with batches := s.batches ++ [{ b with id := ρ.rename b.id }] } := by
  have hrows : (s.batches ++ [b]).map (fun b => { b with id := ρ.rename b.id }) =
      s.batches ++ [{ b with id := ρ.rename b.id }] := by
    rw [List.map_append, h.map_batches]
    rfl
  exact Store.ext rfl rfl h.drafts_store rfl rfl hrows h.map_notifications rfl

theorem store_addNotifications (h : ρ.Spares s) (rows : List Notification) :
    ρ.store { s with notifications := s.notifications ++ rows } =
      { s with notifications := s.notifications ++ rows.map ρ.notification } := by
  have hrows : (s.notifications ++ rows).map ρ.notification =
      s.notifications ++ rows.map ρ.notification := by
    rw [List.map_append, h.map_notifications]
  exact Store.ext rfl rfl h.drafts_store rfl rfl h.map_batches hrows rfl

end Spares

/-! ### From one supply to another -/

theorem between_of_ne (h : ∀ i ≤ n, fresh i ≠ id) :
    (between n fresh fresh' now).renamed? id = none := by
  rw [between, Option.map_eq_none_iff, List.find?_eq_none]
  intro i hi he
  exact h i (Nat.lt_succ_iff.mp (List.mem_range.mp hi)) (of_decide_eq_true he)

theorem between_fresh (h : ∀ i ≤ n, ∀ j ≤ n, fresh i = fresh j → i = j) {i : Nat}
    (hi : i ≤ n) : (between n fresh fresh' now).renamed? (fresh i) = some (fresh' i) := by
  cases hfind : (List.range (n + 1)).find? fun j => fresh j = fresh i with
  | none =>
    have hmem : i ∈ List.range (n + 1) := List.mem_range.mpr (Nat.lt_succ_of_le hi)
    exact absurd (decide_eq_true rfl) (List.find?_eq_none.mp hfind i hmem)
  | some j =>
    have hj : j ≤ n := Nat.lt_succ_iff.mp (List.mem_range.mp (List.mem_of_find?_eq_some hfind))
    have he : fresh j = fresh i := by simpa using List.find?_some hfind
    rw [h j hj i hi he] at hfind
    exact congrArg (Option.map fresh') hfind

theorem between_spares (h : ∀ i ≤ n, s.Lacks (fresh i)) :
    (between n fresh fresh' now).Spares s where
  drafts k d hd := between_of_ne fun i hi he => (h i hi).drafts k d hd he.symm
  batches b hb := between_of_ne fun i hi he => (h i hi).batches b hb he.symm
  notifications m hm := between_of_ne fun i hi he => (h i hi).notifications m hm he.symm

theorem map_queuedRows {ts : List Target}
    (h : ∀ i < ts.length, ρ.renamed? (fresh i) = some (fresh' i)) :
    (Store.queuedRows batch now fresh 0 ts).map ρ.notification =
      Store.queuedRows batch ρ.now fresh' 0 ts := by
  rw [Store.queuedRows, Store.queuedRows, List.map_map]
  refine List.map_congr_left fun x hx => ?_
  have hlt : x.2 < ts.length := by simpa using List.snd_lt_add_of_mem_zipIdx hx
  simp only [Function.comp_apply, Store.queued, notification, h x.2 hlt]

theorem map_queuedDeliveries {ts : List Target}
    (h : ∀ i < ts.length, ρ.renamed? (fresh i) = some (fresh' i)) :
    ((Store.queuedDeliveries fresh 0 ts).map fun d =>
      { d with notification := ρ.rename d.notification }) = Store.queuedDeliveries fresh' 0 ts := by
  rw [Store.queuedDeliveries, Store.queuedDeliveries, List.map_map]
  refine List.map_congr_left fun x hx => ?_
  have hlt : x.2 < ts.length := by simpa using List.snd_lt_add_of_mem_zipIdx hx
  simp only [Function.comp_apply, rename_of_some (h x.2 hlt)]

end Renewal

namespace Inquiry

/-- With other identifiers and at another time, the answer is the same but for new rows. -/
theorem answer_renewed (h : s.Coherent) (hs : s.Supplies user fresh)
    (hs' : s.Supplies user fresh') :
    let ρ := Renewal.between (s.targets user).length fresh fresh' now'
    q.answer user now' fresh' s =
      (q.answer user now fresh s).map fun (a, t) => (ρ.answer a, ρ.store t) := by
  intro ρ
  have hspares : ρ.Spares s := Renewal.between_spares hs.lacks
  have hfresh : ∀ i ≤ (s.targets user).length, ρ.renamed? (fresh i) = some (fresh' i) :=
    fun i hi => Renewal.between_fresh hs.distinct hi
  have hfirst : ρ.rename (fresh 0) = fresh' 0 := Renewal.rename_of_some (hfresh 0 (Nat.zero_le _))
  have hlacks : s.Lacks (fresh 0) := hs.lacks 0 (Nat.zero_le _)
  have hlacks' : s.Lacks (fresh' 0) := hs'.lacks 0 (Nat.zero_le _)
  -- calls that read, and those that write no new row, have nothing to be renamed
  have hread : ∀ {α : Type} (x : Except StoreError α) (f : α → Answer),
      (∀ a, ρ.answer (f a) = f a) →
        (x.map fun a => (f a, s)) =
          (x.map fun a => (f a, s)).map fun (a, t) => (ρ.answer a, ρ.store t) := by
    intro α x f hf
    cases x with
    | error e => rfl
    | ok a =>
      simp only [Except.map, hf, hspares.store_eq]
  have hwrite : ∀ x : Except StoreError Store, (∀ t, x = .ok t → ρ.Spares t) →
      (x.map fun t => (Answer.done, t)) =
        (x.map fun t => (.done, t)).map fun (a, t) => (ρ.answer a, ρ.store t) := by
    intro x hx
    cases x with
    | error e => rfl
    | ok t => simp only [Except.map, (hx t rfl).store_eq, Renewal.answer]
  cases q with
  | insertDraft k fields =>
    simp only [answer, hlacks.insertDraft, hlacks'.insertDraft]
    split
    · simp only [Except.map, Renewal.answer, hspares.store_addDraft, hfirst]
    · rfl
  | listEntities k => exact hread (.ok (s.listEntities k user)) _ fun _ => rfl
  | listActiveGroups => exact hread (.ok (s.listActiveGroups user)) _ fun _ => rfl
  | groupMembers group => exact hread _ _ fun _ => rfl
  | addMember group recipient =>
    refine hwrite _ fun t ht => ?_
    obtain ⟨-, -, -, rfl⟩ := Store.addMember_eq_ok.mp ht
    exact { hspares with }
  | removeMember group recipient =>
    refine hwrite _ fun t ht => ?_
    obtain ⟨-, -, -, rfl⟩ := Store.removeMember_eq_ok.mp ht
    exact { hspares with }
  | createBatch =>
    simp only [answer, hlacks.createBatch, hlacks'.createBatch]
    split
    · simp only [Except.map, Renewal.answer, hspares.store_addBatch, hfirst]
    · rfl
  | startBatch batch =>
    have hlt : ∀ i < (s.targets user).length, ρ.renamed? (fresh i) = some (fresh' i) :=
      fun i hi => hfresh i (Nat.le_of_lt hi)
    simp only [answer, hs.startBatch h, hs'.startBatch h]
    split
    · have hstore := (hspares.markSent batch).store_addNotifications
        (Store.queuedRows batch now fresh 0 (s.targets user))
      rw [Renewal.map_queuedRows hlt] at hstore
      simp only [Except.map, Renewal.answer, Renewal.map_queuedDeliveries hlt]
      exact congrArg (fun t => Except.ok (_, t)) hstore.symm
    · rfl
  | listNotifications pendingOnly => exact hread _ _ fun _ => rfl
  | getNotification id => exact hread _ _ fun _ => rfl
  | cancelNotification id =>
    refine hwrite _ fun t ht => ?_
    obtain ⟨-, rfl⟩ := Store.cancelNotification_eq_ok.mp ht
    exact { hspares with
      notifications := fun n hn => hspares.notifications n (List.mem_of_mem_filter hn) }

end Inquiry

/-! ## Two runs -/

open Database

/-- What a call of the user returns, and what the user owns afterwards, can be told from what the
user owned before: it is the same in two runs, but for the renaming of new rows, no matter what
others did in them. -/
theorem tellsNothing {ops ops' : List Operation} (q : Inquiry) (now now' : Instant)
    (hview : (after ops).store.view user = (after ops').store.view user)
    (hs : (after ops).store.Supplies user fresh) (hs' : (after ops').store.Supplies user fresh') :
    let ρ := Renewal.between ((after ops).store.targets user).length fresh fresh' now'
    let x := (after ops).call (q.answer user now fresh)
    let x' := (after ops').call (q.answer user now' fresh')
    x'.1 = x.1.map ρ.answer ∧ x'.2.store.view user = ρ.store (x.2.store.view user) := by
  intro ρ x x'
  have h : (after ops).store.Coherent := coherent_run coherent_fresh ops
  have h' : (after ops').store.Coherent := coherent_run coherent_fresh ops'
  have hsview : ((after ops).store.view user).Supplies user fresh' := by
    rw [hview]
    exact hs'.view h'
  -- both calls are answered as in the view that the two runs have in common
  have hanswers : ((q.answer user now' fresh' (after ops').store).map
      fun (a, t) => (a, t.view user)) =
        ((q.answer user now fresh (after ops).store).map fun (a, t) => (a, t.view user)).map
          fun (a, t) => (ρ.answer a, ρ.store t) := by
    rw [← Inquiry.answer_view h hs, ← Inquiry.answer_view h' hs', ← hview,
      Inquiry.answer_renewed (h.view user) (hs.view h) hsview, h.targets_view]
  have hspares : ρ.Spares ((after ops).store.view user) :=
    Renewal.between_spares fun i hi => (hs.lacks i hi).view
  cases hx : q.answer user now fresh (after ops).store with
  | error e =>
    cases hx' : q.answer user now' fresh' (after ops').store with
    | error e' =>
      rw [hx, hx'] at hanswers
      obtain rfl : e' = e := Except.error.inj hanswers
      have hcall : x = (.error e', after ops) := call_of_error (after_poisoned ops) hx
      have hcall' : x' = (.error e', after ops') := call_of_error (after_poisoned ops') hx'
      rw [hcall, hcall']
      exact ⟨rfl, hview.symm.trans hspares.store_eq.symm⟩
    | ok y' =>
      rw [hx, hx'] at hanswers
      exact nomatch hanswers
  | ok y =>
    cases hx' : q.answer user now' fresh' (after ops').store with
    | error e' =>
      rw [hx, hx'] at hanswers
      exact nomatch hanswers
    | ok y' =>
      rw [hx, hx'] at hanswers
      have hcall : x = (.ok y.1, { after ops with store := y.2 }) :=
        call_of_ok (after_poisoned ops) hx
      have hcall' : x' = (.ok y'.1, { after ops' with store := y'.2 }) :=
        call_of_ok (after_poisoned ops') hx'
      obtain ⟨hanswer, hstore⟩ := Prod.mk.inj (Except.ok.inj hanswers)
      rw [hcall, hcall']
      exact ⟨congrArg Except.ok hanswer, hstore⟩

/-- Whether there is Bert or not, Anna does not find his group. -/
theorem tellsNothing_of_stranger :
    let own : List Operation := [.createUser (.uniform 0) "anna" "hash"]
    let others : List Operation := [.createUser (.uniform 1) "bert" "hash",
      .insertDraft .group (.uniform 2) (.uniform 1) ⟨"family", true, none⟩,
      .confirmDraft .group (.uniform 1) (.uniform 2) (.uniform 3)]
    let ask (ops : List Operation) (id : Uuid) :=
      ((after ops).call (Inquiry.answer (.groupMembers (.uniform 3)) (.uniform 0) (.ofSeconds 0)
        fun _ => id)).1
    ask own (.uniform 4) = (ask (own ++ others) (.uniform 5)).map
      (Renewal.between 0 (fun _ => .uniform 5) (fun _ => .uniform 4) (.ofSeconds 0)).answer := by
  intro own others ask
  have hsupply : ∀ ops : List Operation, ∀ id, (after ops).store.targets (.uniform 0) = [] →
      (after ops).store.Lacks id → (after ops).store.Supplies (.uniform 0) fun _ => id := by
    intro ops id hnone hlacks
    refine ⟨fun _ _ => hlacks, fun i hi j hj _ => ?_⟩
    rw [hnone, List.length_nil, Nat.le_zero] at hi hj
    rw [hi, hj]
  have hown : (after own).store.Lacks (.uniform 4) := by
    constructor
    case drafts | entities => intro k; cases k <;> decide
    all_goals decide
  have hboth : (after (own ++ others)).store.Lacks (.uniform 5) := by
    constructor
    case drafts | entities => intro k; cases k <;> decide
    all_goals decide
  have hview : (after (own ++ others)).store.view (.uniform 0) =
      (after own).store.view (.uniform 0) := rfl
  exact (tellsNothing (.groupMembers (.uniform 3)) (.ofSeconds 0) (.ofSeconds 0) hview
    (hsupply _ _ rfl hboth) (hsupply _ _ rfl hown)).1

end AlertService
