import AlertService.Proofs.Store.Origin

/-!
# What stands in the columns

Other programs may have left anything in some columns. Calls write values alone, so that where
there is nothing else it stays like that, and reading does not fail.

* `Typed.apply`, `Database.Sound.run`: calls keep a store of values, and a database in order.
* `Typed.listNotifications`, `Typed.getNotification_eq_ok`: what is read of such a store.
-/

namespace AlertService

theorem mapM_eq_map {ε α β : Type} {f : α → Except ε β} {g : α → β} {xs : List α}
    (h : ∀ x ∈ xs, f x = .ok (g x)) : xs.mapM f = .ok (xs.map g) := by
  induction xs with
  | nil => rfl
  | cons x xs ih =>
    have hhead := h x List.mem_cons_self
    have htail := ih fun a ha => h a (List.mem_cons_of_mem _ ha)
    rw [List.mapM_cons, hhead, htail]
    rfl

/-- The notification as it is read where there is an instant in its column. -/
def Notification.record (n : Notification) : NotificationRecord where
  id := n.id
  batch := n.batch
  recipient := n.recipient
  group := n.group
  channel := n.channel
  created :=
    match n.created with
    | .value created => created
    | .foreign _ => .ofSeconds 0
  completed := n.completed

namespace Store

variable {s t : Store} {op : Operation} {owner id : Uuid}

/-- There are values where other programs might have left something else. -/
structure Typed (s : Store) : Prop where
  expiries : ∀ x ∈ s.sessions, ∃ expiry, x.expiry = .value expiry
  sent : ∀ b ∈ s.batches, ∃ sent, b.sent = .value sent
  created : ∀ n ∈ s.notifications, ∃ created, n.created = .value created

theorem typed_empty : Typed empty := by
  constructor <;> exact fun _ h => absurd h List.not_mem_nil

theorem expiry_of_opened {x : Session} (h : op.opened? = some x) :
    ∃ expiry, x.expiry = .value (some expiry) := by
  cases op with
  | createSession now new user expiry => exact ⟨expiry, (Option.some.inj h) ▸ rfl⟩
  | rotateSession now old user new expiry => exact ⟨expiry, (Option.some.inj h) ▸ rfl⟩
  | _ => exact nomatch h

namespace Typed

theorem apply (hs : s.Typed) (h : s.Coherent) (ht : op.apply s = .ok t) : t.Typed where
  expiries x hx := by
    rcases session_of_apply h ht hx with hold | hopened
    · exact hs.expiries x hold
    · obtain ⟨expiry, he⟩ := expiry_of_opened hopened
      exact ⟨some expiry, he⟩
  sent b hb := by
    rcases batch_of_apply h ht hb with hold | ⟨-, hsent⟩ | ⟨-, hsent, -⟩
    · exact hs.sent b hold
    · exact ⟨false, hsent⟩
    · exact ⟨true, hsent⟩
  created n hn := by
    rcases notification_of_apply h ht hn with hold | ⟨-, -, -, hold⟩ | ⟨-, now, -, -, -, -, hnow⟩
    · exact hs.created n hold
    · exact hs.created { n with completed := none } hold
    · exact ⟨now, hnow⟩

/-! ## Reading notifications -/

theorem readNotification (hs : s.Typed) {n : Notification} (hn : n ∈ s.notifications) :
    Store.readNotification n = .ok n.record := by
  obtain ⟨created, hc⟩ := hs.created n hn
  simp only [Store.readNotification, Notification.record, hc, readInstant, Except.map]

theorem listNotifications (hs : s.Typed) (owner : Uuid) (pendingOnly : Bool) :
    s.listNotifications owner pendingOnly =
      .ok ((s.notifications.filter fun n => s.ownsNotification owner n &&
        (!pendingOnly || n.completed.isNone)).map Notification.record) :=
  mapM_eq_map fun _ hn => hs.readNotification (List.mem_of_mem_filter hn)

/-- What is found under an identifier is what is listed under it. -/
theorem getNotification_eq_ok (hs : s.Typed) (h : s.Coherent) {r : NotificationRecord} :
    s.getNotification owner id = .ok r ↔
      r ∈ (s.notifications.filter (s.ownsNotification owner)).map Notification.record ∧
        r.id = id := by
  simp only [List.mem_map, List.mem_filter]
  unfold Store.getNotification
  cases hfind : s.notifications.find? fun n => n.id = id && s.ownsNotification owner n with
  | none =>
    simp only [reduceCtorEq, false_iff]
    rintro ⟨⟨n, ⟨hn, howns⟩, rfl⟩, hid⟩
    have hid : n.id = id := hid
    exact List.find?_eq_none.mp hfind n hn (by simp [hid, howns])
  | some n =>
    have hn : n ∈ s.notifications := List.mem_of_find?_eq_some hfind
    obtain ⟨hid, howns⟩ : n.id = id ∧ s.ownsNotification owner n = true := by
      simpa using List.find?_some hfind
    simp only [hs.readNotification hn, Except.ok.injEq]
    constructor
    · rintro rfl
      exact ⟨⟨n, ⟨hn, howns⟩, rfl⟩, hid⟩
    · rintro ⟨⟨n', ⟨hn', -⟩, rfl⟩, hid'⟩
      rw [List.inj_on_of_nodup_map h.notificationIds hn hn' (hid.trans hid'.symm)]

end Typed

end Store

/-! ## Databases -/

namespace Database

/-- No task has broken off, rows belong together and there are values in the columns. -/
structure Sound (d : Database) : Prop where
  poisoned : d.poisoned = false
  coherent : d.store.Coherent
  typed : d.store.Typed

theorem sound_fresh : fresh.Sound := ⟨rfl, coherent_fresh, Store.typed_empty⟩

/-- What has come about by calls on a database in order is in order. -/
theorem Sound.run {d : Database} (hd : d.Sound) (ops : List Operation) : (d.run ops).Sound where
  poisoned := (run_poisoned d ops).trans hd.poisoned
  coherent := coherent_run hd.coherent ops
  typed := run_keeps hd.typed fun before _ _ _ _ hkept hs =>
    hkept.apply (coherent_run hd.coherent before) hs

theorem sound_after (ops : List Operation) : (after ops).Sound := sound_fresh.run ops

end Database

end AlertService
