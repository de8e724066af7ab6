import AlertService.Proofs.Service.Authentication
import AlertService.Proofs.Store.Holdings

/-!
# Deliveries one after the other

Every delivery has its turn. While its message is on the way others may take notifications away; after
that its own row is marked, if the message was delivered and the row is still there and pending. No turn
can end the loop, and no turn depends on how another one went.

* `Service.storeAfter`: the store after some turns, as a function of the store before them.
* `deliverAll_apply`: the loop computes that function and hands over every message once.
* `sendBatch_delivers`: what sending a batch answers, hands over and leaves.
-/

namespace AlertService

def Delivery.message (d : Delivery) : Message := ⟨d.chat, d.text⟩

/-- The world with another store, after more messages were handed over. -/
def World.advanced (w : World) (s : Store) (messages : List Message) : World :=
  { w with database := { w.database with store := s }, handed := w.handed ++ messages }

theorem World.advanced_advanced (w : World) (s t : Store) (ms ns : List Message) :
    (w.advanced s ms).advanced t ns = w.advanced t (ms ++ ns) := by
  simp only [advanced, List.append_assoc]

namespace Store

variable {s : Store} {id : Uuid} {time : Instant}

/-- The store with the notification marked as delivered, if it is there and pending. -/
def stamp (s : Store) (id : Uuid) (time : Instant) : Store :=
  { s with notifications := s.notifications.map fun n =>
    if isPending id n then { n with completed := some time } else n }

theorem stamp_of_not_pending (h : s.notifications.any (isPending id) = false) :
    s.stamp id time = s := by
  have hsame : ∀ n ∈ s.notifications,
      (if isPending id n then { n with completed := some time } else n) = n :=
    fun n hn => if_neg (List.any_eq_false.mp h n hn)
  rw [stamp, List.map_congr_left hsame, List.map_id']

theorem ids_stamp : (s.stamp id time).notifications.map (·.id) = s.notifications.map (·.id) :=
  map_key_map fun n => by split <;> rfl

/-- The notifications that the start of a batch makes are pending, and no two have one identifier. -/
theorem Coherent.pending_of_startBatch (h : s.Coherent) {owner batch : Uuid} {now : Instant}
    {fresh : Nat → Uuid} {ds : List Delivery} {t : Store}
    (ht : s.startBatch owner batch now fresh = .ok (ds, t)) :
    (ds.map Delivery.notification).Nodup ∧
      ∀ n ∈ t.notifications, n.id ∈ ds.map Delivery.notification → n.completed = none := by
  have hold := fun d hd n hn => h.ne_of_mem_deliveries ht (d := d) hd (n := n) hn
  obtain ⟨-, hids, rfl, rfl⟩ := (startBatch_eq_ok h.notificationIds).mp ht
  have hsame : (queuedDeliveries fresh 0 (s.targets owner)).map Delivery.notification =
      (queuedRows batch now fresh 0 (s.targets owner)).map Notification.id := by
    simp only [queuedDeliveries, queuedRows, queued, List.map_map]
    rfl
  refine ⟨?_, fun n hn hid => ?_⟩
  · rw [List.map_append, List.nodup_append] at hids
    exact hsame ▸ hids.2.1
  · rcases List.mem_append.mp hn with hn | hn
    · obtain ⟨d, hd, he⟩ := List.mem_map.mp hid
      exact absurd he.symm (hold d hd n hn)
    · obtain ⟨x, -, rfl⟩ := List.mem_map.mp hn
      rfl

end Store

namespace Service

open Handler

variable {service : Service} {now : Instant} {w : World} {handed : List Message} {s : Store}
  {d : Delivery} {ds made left : List Delivery}

/-! ## One turn -/

/-- The store after others have acted while a message is on its way. -/
def othersActed (service : Service) (handed : List Message) (m : Message) (s : Store) : Store :=
  match service.notifier.meanwhile handed m with
  | some f => f s
  | none => s

/-- The store after the turn of a delivery. -/
def turn (service : Service) (now : Instant) (handed : List Message) (s : Store) (d : Delivery) :
    Store :=
  let s := service.othersActed handed d.message s
  if service.notifier.delivers handed d.message then s.stamp d.notification now else s

theorem send_apply (hw : w.database.poisoned = false) (m : Message) :
    service.send m w = (.ok (service.notifier.delivers w.handed m),
      w.advanced (service.othersActed w.handed m w.database.store) [m]) := by
  unfold send othersActed
  cases service.notifier.meanwhile w.handed m with
  | none => rfl
  | some f =>
    have hcall : w.database.call (fun s => .ok ((), f s)) =
        (.ok (), { w.database with store := f w.database.store }) := Database.call_of_ok hw rfl
    simp only [hcall]
    rfl

/-- Marking a notification that is not there any more does nothing, and nothing fails. -/
theorem attempt_complete (hw : w.database.poisoned = false) (id : Uuid) :
    attempt (change fun s => s.completeNotification id now) w = (.ok (), { w with
      database := { w.database with store := w.database.store.stamp id now } }) := by
  cases hany : w.database.store.notifications.any (Store.isPending id) with
  | true =>
    have hok : w.database.store.completeNotification id now = .ok (w.database.store.stamp id now) :=
      if_pos hany
    have hcall : w.database.call (fun s => (s.completeNotification id now).map fun s => ((), s)) =
        (.ok (), { w.database with store := w.database.store.stamp id now }) :=
      Database.call_of_ok hw (congrArg (Except.map _) hok)
    simp only [attempt, change, Handler.store, hcall]
  | false =>
    have herror : w.database.store.completeNotification id now =
        .error (.notFound "notification") := if_neg (by simp [hany])
    have hcall : w.database.call (fun s => (s.completeNotification id now).map fun s => ((), s)) =
        (.error (.notFound "notification"), w.database) :=
      Database.call_of_error hw (congrArg (Except.map _) herror)
    simp only [attempt, change, Handler.store, hcall, Store.stamp_of_not_pending hany]

theorem deliver_apply (hw : w.database.poisoned = false) (d : Delivery) :
    service.deliver now d w =
      (.ok (), w.advanced (service.turn now w.handed w.database.store d) [d.message]) := by
  unfold deliver turn
  rw [bind_apply, send_apply hw, Delivery.message]
  cases service.notifier.delivers w.handed ⟨d.chat, d.text⟩ with
  | false => rfl
  | true =>
    have hsent : (w.advanced (service.othersActed w.handed ⟨d.chat, d.text⟩ w.database.store)
        [⟨d.chat, d.text⟩]).database.poisoned = false := hw
    exact attempt_complete hsent d.notification

/-! ## All turns -/

/-- The store after the turns of some deliveries. -/
def storeAfter (service : Service) (now : Instant) :
    (handed : List Message) → Store → List Delivery → Store
  | _, s, [] => s
  | handed, s, d :: ds =>
    storeAfter service now (handed ++ [d.message]) (service.turn now handed s d) ds

theorem deliverAll_apply (hw : w.database.poisoned = false) (ds : List Delivery) :
    service.deliverAll now ds w = (.ok (),
      w.advanced (service.storeAfter now w.handed w.database.store ds)
        (ds.map Delivery.message)) := by
  induction ds generalizing w with
  | nil =>
    rw [List.map_nil, World.advanced, List.append_nil]
    rfl
  | cons d ds ih =>
    rw [deliverAll, bind_apply, deliver_apply hw]
    have hturned : (w.advanced (service.turn now w.handed w.database.store d)
        [d.message]).database.poisoned = false := hw
    exact (ih hturned).trans (by rw [World.advanced_advanced]; rfl)

theorem storeAfter_append (handed : List Message) (s : Store) (made left : List Delivery) :
    service.storeAfter now handed s (made ++ left) =
      service.storeAfter now (handed ++ made.map Delivery.message)
        (service.storeAfter now handed s made) left := by
  induction made generalizing handed s with
  | nil => rw [List.map_nil, List.append_nil, List.nil_append, storeAfter]
  | cons d made ih =>
    rw [List.cons_append, storeAfter, storeAfter, ih, List.map_cons, List.append_assoc,
      List.singleton_append]

/-! ## Rows -/

/-- All that others do to notifications while messages are on their way is to remove some. -/
def OthersRemove (service : Service) : Prop :=
  ∀ handed m f s, service.notifier.meanwhile handed m = some f →
    (f s).notifications.Sublist s.notifications

section Rows

theorem ids_turn (service : Service) (now : Instant) (handed : List Message) (s : Store)
    (d : Delivery) :
    (service.turn now handed s d).notifications.map (·.id) =
      (service.othersActed handed d.message s).notifications.map (·.id) := by
  unfold turn
  dsimp only
  split
  · exact Store.ids_stamp
  · rfl

variable (h : service.OthersRemove)

include h

theorem OthersRemove.acted (handed : List Message) (m : Message) (s : Store) :
    (service.othersActed handed m s).notifications.Sublist s.notifications := by
  unfold othersActed
  split
  · rename_i f hf
    exact h handed m f s hf
  · exact List.Sublist.refl _

/-- Turns add no rows. -/
theorem OthersRemove.ids_storeAfter (now : Instant) (handed : List Message) (s : Store)
    (ds : List Delivery) :
    ((service.storeAfter now handed s ds).notifications.map (·.id)).Sublist
      (s.notifications.map (·.id)) := by
  induction ds generalizing handed s with
  | nil => exact List.Sublist.refl _
  | cons d ds ih =>
    rw [storeAfter]
    refine (ih _ _).trans ?_
    rw [ids_turn]
    exact (h.acted _ _ _).map _

/-- What becomes of a row in a turn. -/
theorem OthersRemove.row_turn {n : Notification}
    (hn : n ∈ (service.turn now handed s d).notifications) :
    ∃ old ∈ s.notifications, n = if service.notifier.delivers handed d.message ∧
      Store.isPending d.notification old then { old with completed := some now } else old := by
  unfold turn at hn
  dsimp only at hn
  split at hn
  · rename_i hdelivered
    obtain ⟨old, hold, rfl⟩ := List.mem_map.mp hn
    exact ⟨old, (h.acted _ _ _).mem hold, by simp [hdelivered]⟩
  · rename_i hdelivered
    exact ⟨n, (h.acted _ _ _).mem hn, by simp [hdelivered]⟩

/-- The rows of other deliveries are left alone in a turn. -/
theorem OthersRemove.mem_of_turn {n : Notification}
    (hn : n ∈ (service.turn now handed s d).notifications) (hother : n.id ≠ d.notification) :
    n ∈ s.notifications := by
  obtain ⟨old, hold, rfl⟩ := h.row_turn hn
  split at hother
  · rename_i hown
    exact absurd (Store.isPending_iff.mp hown.2).1 hother
  · rename_i hunmarked
    rw [if_neg hunmarked]
    exact hold

/-- A pending row is marked in the turn of its own delivery, if that succeeds. -/
theorem OthersRemove.own_row_turn
    (hpending : ∀ n ∈ s.notifications, n.id = d.notification → n.completed = none)
    {n : Notification} (hn : n ∈ (service.turn now handed s d).notifications)
    (hown : n.id = d.notification) :
    ∃ old ∈ s.notifications, old.id = n.id ∧ n = { old with
      completed := if service.notifier.delivers handed d.message then some now else none } := by
  obtain ⟨old, hold, hturn⟩ := h.row_turn hn
  have hid : old.id = n.id := by
    rw [hturn]
    split <;> rfl
  have hnone : old.completed = none := hpending old hold (hid.trans hown)
  have hispending : Store.isPending d.notification old = true :=
    Store.isPending_iff.mpr ⟨hid.trans hown, hnone⟩
  refine ⟨old, hold, hid, hturn.trans ?_⟩
  cases service.notifier.delivers handed d.message with
  | true => simp [hispending]
  | false => simp [← hnone]

/-- What becomes of a row in all turns: it is marked if it is the row of a delivery that succeeded. -/
theorem OthersRemove.row_storeAfter (hids : (ds.map Delivery.notification).Nodup)
    (hpending : ∀ n ∈ s.notifications, n.id ∈ ds.map Delivery.notification → n.completed = none)
    {n : Notification} (hn : n ∈ (service.storeAfter now handed s ds).notifications) :
    ∃ old ∈ s.notifications, old.id = n.id ∧
      ((n.id ∉ ds.map Delivery.notification ∧ n = old) ∨
        ∃ made d left, ds = made ++ d :: left ∧ d.notification = n.id ∧ n = { old with
          completed := if service.notifier.delivers (handed ++ made.map Delivery.message) d.message
            then some now else none }) := by
  induction ds generalizing handed s with
  | nil => exact ⟨n, hn, rfl, .inl ⟨List.not_mem_nil, rfl⟩⟩
  | cons d ds ih =>
    rw [List.map_cons, List.nodup_cons] at hids
    have hlater : ∀ m ∈ (service.turn now handed s d).notifications,
        m.id ∈ ds.map Delivery.notification → m.completed = none := by
      intro m hm hmem
      refine hpending m (h.mem_of_turn hm ?_) (List.mem_cons_of_mem _ hmem)
      exact fun he => hids.1 (he ▸ hmem)
    obtain ⟨mid, hmid, hid, hcase⟩ := ih hids.2 hlater hn
    rcases hcase with ⟨hnot, rfl⟩ | ⟨made, d', left, rfl, hown, hn⟩
    · by_cases hown : n.id = d.notification
      · have hfirst : ∀ m ∈ s.notifications, m.id = d.notification → m.completed = none :=
          fun m hm he => hpending m hm (he ▸ List.mem_cons_self)
        obtain ⟨old, hold, hid, hmarked⟩ := h.own_row_turn hfirst hmid hown
        refine ⟨old, hold, hid, .inr ⟨[], d, ds, rfl, hown.symm, ?_⟩⟩
        rw [List.map_nil, List.append_nil]
        exact hmarked
      · refine ⟨n, h.mem_of_turn hmid hown, rfl, .inl ⟨?_, rfl⟩⟩
        rw [List.map_cons, List.mem_cons]
        exact not_or.mpr ⟨hown, hnot⟩
    · have hother : mid.id ≠ d.notification := by
        intro he
        refine hids.1 ?_
        rw [← he, hid, ← hown]
        exact List.mem_map_of_mem (List.mem_append_right _ List.mem_cons_self)
      refine ⟨mid, h.mem_of_turn hmid hother, hid, .inr ⟨d :: made, d', left, rfl, hown, ?_⟩⟩
      rw [hn, List.map_cons, List.append_assoc, List.singleton_append]

end Rows

/-! ## Sending a batch -/

/-- The value that names all notifications of a batch, in the order of its deliveries. -/
def identifiers (ds : List Delivery) : Json := .array (ds.map fun d => .string d.notification.text)

/-- What sending a batch does that makes the deliveries `ds` and leaves the store `s` when it is
started. -/
structure SendsBatch (service : Service) (now : Instant) (caller : Uuid) (r : Http.Request)
    (ds : List Delivery) (s : Store) (w w' : World) : Prop where
  handles : service.handleGuarded now .sendBatch caller r w = (.ok (.value (identifiers ds)), w')
  /-- A caller gets all identifiers, whatever became of the messages. -/
  responds : r.IsFor (.guarded .sendBatch) → service.Admits .access now w r caller →
    (service.respond now r w).1.status = 200 ∧
      (service.respond now r w).1.body = some (identifiers ds) ∧ (service.respond now r w).2 = w'
  /-- Every message is handed over once, in order. -/
  handed : w'.handed = w.handed ++ ds.map Delivery.message
  store : w'.database.store = service.storeAfter now w.handed s ds
  /-- In each turn nothing is changed but the row of the delivery after others have acted, and what
  they have removed does not come back. -/
  turns : ∀ made d left, ds = made ++ d :: left →
    let handed := w.handed ++ made.map Delivery.message
    let acted := service.othersActed handed d.message (service.storeAfter now w.handed s made)
    service.storeAfter now w.handed s (made ++ [d]) =
        (if service.notifier.delivers handed d.message then acted.stamp d.notification now
          else acted) ∧
      (w'.database.store.notifications.map (·.id)).Sublist (acted.notifications.map (·.id))
  /-- A row that is left was there at the start. It is completed if its own message was delivered, it
  is pending if not, and it is as it was if it belongs to no delivery. -/
  rows : ∀ n ∈ w'.database.store.notifications, ∃ old ∈ s.notifications, old.id = n.id ∧
    ((n.id ∉ ds.map Delivery.notification ∧ n = old) ∨
      ∃ made d left, ds = made ++ d :: left ∧ d.notification = n.id ∧ n = { old with
        completed := if service.notifier.delivers (w.handed ++ made.map Delivery.message) d.message
          then some now else none })

/-- The world in which a batch has been started and its deliveries are to be made. -/
def started (w : World) (s : Store) (n : Nat) : World :=
  { w with database := { w.database with store := s }, issued := w.issued + 1 + n }

theorem sendBatch_apply {r : Http.Request} {caller batch : Uuid}
    (hw : w.database.poisoned = false)
    (hbatch : queryId r.query "batch_id" "notification batch" = .ok batch)
    (hstart : w.database.store.startBatch caller batch now (fun i => service.ids (w.issued + i)) =
      .ok (ds, s)) :
    service.sendBatch now caller r w = (.ok (.value (identifiers ds)),
      (started w s ds.length).advanced (service.storeAfter now w.handed s ds)
        (ds.map Delivery.message)) := by
  have hid : Handler.id r "batch_id" "notification batch" w = (.ok batch, w) := by
    rw [Handler.id, hbatch]
  have hstore : Handler.store (fun s => s.startBatch caller batch now fun i =>
      service.ids (w.issued + i)) { w with issued := w.issued + 1 } =
        (.ok ds, started w s 0) := store_of_ok hw hstart
  have hloop : service.deliverAll now ds (started w s ds.length) = (.ok (),
      (started w s ds.length).advanced (service.storeAfter now w.handed s ds)
        (ds.map Delivery.message)) :=
    deliverAll_apply (w := started w s ds.length) hw ds
  unfold sendBatch
  rw [bind_apply, hid]
  show (Handler.issue >>= _) w = _
  rw [bind_apply]
  show (Handler.store _ >>= _) { w with issued := w.issued + 1 } = _
  rw [bind_apply, hstore]
  show (Handler.issueMore ds.length >>= _) (started w s 0) = _
  rw [bind_apply]
  show (service.deliverAll now ds >>= _) (started w s ds.length) = _
  rw [bind_apply, hloop]
  rfl

/-- Sending a batch is exact: every message is handed over once, and what happens to one of them says
nothing about the others. -/
theorem sendBatch_delivers {ops : List Operation} {r : Http.Request} {caller batch : Uuid}
    (hw : w.database = .after ops)
    (hbatch : queryId r.query "batch_id" "notification batch" = .ok batch)
    (hstart : w.database.store.startBatch caller batch now (fun i => service.ids (w.issued + i)) =
      .ok (ds, s)) (hothers : service.OthersRemove) :
    ∃ w', service.SendsBatch now caller r ds s w w' := by
  have hsound : w.database.Sound := hw ▸ Database.sound_after ops
  obtain ⟨hids, hpending⟩ := hsound.coherent.pending_of_startBatch hstart
  have happly := sendBatch_apply hsound.poisoned hbatch hstart
  refine ⟨_, ⟨happly, fun hr hadmits => ?_, rfl, rfl, fun made d left hds => ⟨?_, ?_⟩, fun n hn =>
    hothers.row_storeAfter hids hpending hn⟩⟩
  · have hadmitted := (admitted?_eq_some hsound.typed).mpr hadmits
    have hput : r.method = "PUT" := List.mem_singleton.mp hr.2
    rw [respond_admitted hsound.poisoned hr hadmitted]
    rw [handleGuarded, happly, hput]
    exact ⟨rfl, rfl, rfl⟩
  · rw [storeAfter_append]
    rfl
  · have hleft := hothers.ids_storeAfter now
      (w.handed ++ made.map Delivery.message ++ [d.message]) (service.turn now
        (w.handed ++ made.map Delivery.message) (service.storeAfter now w.handed s made) d) left
    rw [ids_turn] at hleft
    rw [hds]
    show ((service.storeAfter now w.handed s (made ++ d :: left)).notifications.map _).Sublist _
    rw [storeAfter_append]
    exact hleft

/-- A service whose second message does not arrive. While the first one is on its way, its notification
is taken away. -/
def hindered : Service := { solitary with
  notifier := ⟨fun before _ => before.isEmpty, fun before _ =>
    if before.isEmpty then
      some fun s => { s with notifications := s.notifications.drop 1 }
    else none⟩ }

theorem othersRemove_hindered : hindered.OthersRemove := by
  intro handed m f s hf
  cases handed with
  | nil =>
    obtain rfl := Option.some.inj hf
    exact List.drop_sublist 1 _
  | cons => exact nomatch hf

/-- A batch reaches one member twice. -/
theorem sendBatch_delivers_hindered :
    let ops : List Operation := [.createUser (.uniform 0) "anna" "hash",
      .insertDraft .template (.uniform 1) (.uniform 0) ⟨"alarm", some "leave the house"⟩,
      .confirmDraft .template (.uniform 0) (.uniform 1) (.uniform 1),
      .insertDraft .group (.uniform 3) (.uniform 0) ⟨"family", true, some (.uniform 1)⟩,
      .confirmDraft .group (.uniform 0) (.uniform 3) (.uniform 3),
      .insertDraft .group (.uniform 4) (.uniform 0) ⟨"friends", true, some (.uniform 1)⟩,
      .confirmDraft .group (.uniform 0) (.uniform 4) (.uniform 4),
      .insertDraft .recipient (.uniform 5) (.uniform 0) ⟨"ben", none, none, some 7⟩,
      .confirmDraft .recipient (.uniform 0) (.uniform 5) (.uniform 5),
      .addMember (.uniform 0) (.uniform 3) (.uniform 5),
      .addMember (.uniform 0) (.uniform 4) (.uniform 5), .activateContact 7,
      .createBatch (.uniform 6) (.uniform 0)]
    let w : World := ⟨.after ops, 7, []⟩
    let r : Http.Request := ⟨"PUT", ⟨"/notifications/sendBatch",
      some "batch_id=66666666-6666-6666-6666-666666666666"⟩, [], []⟩
    let ds : List Delivery :=
      [⟨.uniform 7, 7, "leave the house"⟩, ⟨.uniform 8, 7, "leave the house"⟩]
    queryId r.query "batch_id" "notification batch" = .ok (.uniform 6) ∧ hindered.OthersRemove ∧
      ∃ s w', w.database.store.startBatch (.uniform 0) (.uniform 6) (.ofSeconds 0)
          (fun i => hindered.ids (w.issued + i)) = .ok (ds, s) ∧
        hindered.SendsBatch (.ofSeconds 0) (.uniform 0) r ds s w w' := by
  intro ops w r ds
  have hspelled : (r.query.get? "batch_id").bind (fun v => Uuid.accept? (Text.trim v.toList)) =
      some (.uniform 6) := by decide +kernel
  have hbatch : queryId r.query "batch_id" "notification batch" = .ok (.uniform 6) := by
    rw [queryId, hspelled]
  have hstart : w.database.store.startBatch (.uniform 0) (.uniform 6) (.ofSeconds 0)
      (fun i => hindered.ids (w.issued + i)) = .ok (ds, _) := rfl
  obtain ⟨w', hsends⟩ := sendBatch_delivers rfl hbatch hstart othersRemove_hindered
  exact ⟨hbatch, othersRemove_hindered, _, w', hstart, hsends⟩

end Service

end AlertService
