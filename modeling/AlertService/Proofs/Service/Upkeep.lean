import AlertService.Proofs.Service.Order

/-!
# Requests that leave users alone

The work on rows of a caller, the notifications of a batch and the updates of the bot keep a world
in order, whatever holds of its users.

* `runs_handleGuarded_orderly`: the work on rows.
* `runs_sendBatch_orderly`, `runs_botUpdate_orderly`: requests that hand messages over.
-/

namespace AlertService

namespace Service

open Handler

variable {service : Service} {n : Nat} {p : List User → Prop} {w : World} {α : Type}
  {P : World → Prop} {E : Failure → World → Prop} {now : Instant} {caller : Uuid}
  {r : Http.Request} {k : Kind}

/-! ## Requests for rows -/

theorem runs_payload_orderly {read : Json.Reader α} {body : Bytes} :
    Runs (service.Orderly n p) (Handler.payload read body) (fun _ => service.Orderly n p)
      (service.Fails now n p) :=
  runs_payload (fun _ _ hw _ => hw) fun _ _ hw => fails_of_ne hw nofun

theorem runs_id_orderly {name label : String} :
    Runs (service.Orderly n p) (Handler.id r name label) (fun _ => service.Orderly n p)
      (service.Fails now n p) :=
  runs_id (fun _ _ hw _ => hw) fun _ hw => fails_of_ne hw nofun

theorem runs_reply_orderly {f : α → Reply} {h : Handler α} {R : α → World → Prop}
    (hh : Runs P h R (service.Fails now n p)) (hR : ∀ a w, R a w → service.Orderly n p w) :
    Runs P (h >>= fun a => pure (f a)) (fun _ => service.Orderly n p) (service.Fails now n p) :=
  runs_bind hh fun a => runs_pure (hR a)

/-- The caller is one of the users. -/
def HasCaller (caller : Uuid) (users : List User) : Prop := ∃ u ∈ users, u.id = .value caller

theorem Orderly.hasUser (h : service.Orderly n p w)
    (hcaller : ∀ users, p users → HasCaller caller users) :
    w.database.store.hasUser caller = true :=
  Store.hasUser_iff.mpr (hcaller _ h.users)

theorem runs_create_orderly {body : Bytes} (hdistinct : service.Distinct n)
    (hcaller : ∀ users, p users → HasCaller caller users) :
    Runs (service.Orderly n p) (service.create caller k body) (fun _ => service.Orderly n p)
      (service.Fails now n p) := by
  refine runs_bind runs_payload_orderly fun fields => ?_
  refine runs_bind (runs_freshId_orderly hdistinct) fun id => ?_
  refine runs_reply_orderly (runs_change_orderly (.insertDraft k id caller fields) (fun _ => rfl)
    (by simp [Operation.writes]) (canMake_of_fresh ?_ fun _ => rfl)) fun _ _ hw => hw
  exact fun w hw hlacks => ⟨hw.hasUser hcaller, hlacks⟩

theorem runs_confirm_orderly (hdistinct : service.Distinct n) :
    Runs (service.Orderly n p) (service.confirm caller k r) (fun _ => service.Orderly n p)
      (service.Fails now n p) := by
  refine runs_bind runs_id_orderly fun draft => ?_
  refine runs_bind (runs_freshId_orderly hdistinct) fun id => ?_
  exact runs_reply_orderly (runs_store_orderly (.confirmDraft k caller draft id) (fun _ => rfl)
    (by simp [Operation.writes]) (canMake_of_fresh (fun _ _ hlacks => hlacks) fun _ => rfl))
      fun _ _ hw => hw

theorem runs_createBatch_orderly (hdistinct : service.Distinct n)
    (hcaller : ∀ users, p users → HasCaller caller users) :
    Runs (service.Orderly n p) (service.createBatch caller) (fun _ => service.Orderly n p)
      (service.Fails now n p) := by
  refine runs_bind (runs_freshId_orderly hdistinct) fun batch => ?_
  refine runs_reply_orderly (runs_change_orderly (.createBatch batch caller) (fun _ => rfl)
    (by simp [Operation.writes]) (canMake_of_fresh ?_ fun _ => rfl)) fun _ _ hw => hw
  exact fun w hw hlacks => ⟨hw.hasUser hcaller, hlacks⟩

theorem runs_getOne_orderly : Runs (service.Orderly n p) (getOne caller k r)
    (fun _ => service.Orderly n p) (service.Fails now n p) := by
  refine runs_bind runs_id_orderly fun id => ?_
  exact runs_reply_orderly (runs_ask_orderly fun _ _ => Store.faultless_getEntity)
    fun _ _ hw => hw.1

theorem runs_modify_orderly : Runs (service.Orderly n p) (modify caller k r)
    (fun _ => service.Orderly n p) (service.Fails now n p) := by
  refine runs_bind runs_payload_orderly fun fields => ?_
  refine runs_bind runs_id_orderly fun id => ?_
  exact runs_reply_orderly (runs_store_orderly (.updateEntity k caller id fields) (fun _ => rfl)
    (by simp [Operation.writes]) (canMake_of_adds_nil (fun _ => trivial) fun _ => rfl))
      fun _ _ hw => hw

theorem runs_delete_orderly : Runs (service.Orderly n p) (delete caller k r)
    (fun _ => service.Orderly n p) (service.Fails now n p) := by
  refine runs_bind runs_id_orderly fun id => ?_
  exact runs_reply_orderly (runs_change_orderly (.deleteEntity k caller id) (fun _ => rfl)
    (by simp [Operation.writes]) (canMake_of_adds_nil (fun _ => trivial) fun _ => rfl))
      fun _ _ hw => hw

theorem runs_membersOf_orderly : Runs (service.Orderly n p) (membersOf caller r)
    (fun _ => service.Orderly n p) (service.Fails now n p) := by
  refine runs_bind runs_id_orderly fun group => ?_
  exact runs_reply_orderly (runs_ask_orderly fun _ _ => Store.faultless_groupMembers)
    fun _ _ hw => hw.1

theorem runs_addMember_orderly : Runs (service.Orderly n p) (addMember caller r)
    (fun _ => service.Orderly n p) (service.Fails now n p) := by
  refine runs_bind runs_id_orderly fun group => ?_
  refine runs_bind runs_id_orderly fun recipient => ?_
  exact runs_reply_orderly (runs_change_orderly (.addMember caller group recipient)
    (fun _ => rfl) (by simp [Operation.writes])
    (canMake_of_adds_nil (fun _ => trivial) fun _ => rfl)) fun _ _ hw => hw

theorem runs_removeMember_orderly : Runs (service.Orderly n p) (removeMember caller r)
    (fun _ => service.Orderly n p) (service.Fails now n p) := by
  refine runs_bind runs_id_orderly fun group => ?_
  refine runs_bind runs_id_orderly fun recipient => ?_
  exact runs_reply_orderly (runs_change_orderly (.removeMember caller group recipient)
    (fun _ => rfl) (by simp [Operation.writes])
    (canMake_of_adds_nil (fun _ => trivial) fun _ => rfl)) fun _ _ hw => hw

theorem runs_cancelNotification_orderly : Runs (service.Orderly n p)
    (cancelNotification caller r) (fun _ => service.Orderly n p) (service.Fails now n p) := by
  refine runs_bind runs_id_orderly fun id => ?_
  exact runs_reply_orderly (runs_change_orderly (.cancelNotification caller id) (fun _ => rfl)
    (by simp [Operation.writes]) (canMake_of_adds_nil (fun _ => trivial) fun _ => rfl))
      fun _ _ hw => hw

/-! ## Requests for notifications -/

theorem exists_mapM {α β : Type} {f : α → Option β} {xs : List α}
    (h : ∀ x ∈ xs, ∃ y, f x = some y) : ∃ ys, xs.mapM f = some ys := by
  induction xs with
  | nil => exact ⟨[], rfl⟩
  | cons x xs ih =>
    obtain ⟨y, hy⟩ := h x List.mem_cons_self
    obtain ⟨ys, hys⟩ := ih fun a ha => h a (List.mem_cons_of_mem _ ha)
    refine ⟨y :: ys, ?_⟩
    rw [List.mapM_cons, hy, hys]
    rfl

theorem exists_toJson? {s : Store} (hs : s.Legible) {m : Notification}
    (hm : m ∈ s.notifications) : ∃ j, m.record.toJson? = some j := by
  have hchannel : Channel.ofName? m.channel = some .telegram := by
    rw [hs.channels m hm]
    rfl
  exact ⟨_, congrArg (Option.map _) hchannel⟩

theorem runs_getNotification_orderly : Runs (service.Orderly n p) (getNotification caller r)
    (fun _ => service.Orderly n p) (service.Fails now n p) := by
  refine runs_bind runs_id_orderly fun id => ?_
  refine runs_bind (runs_ask_orderly fun _ hw => hw.sound.typed.faultless_getNotification)
    fun record => ?_
  refine runs_reply (runs_require (fun _ _ hw _ => hw.1) ?_)
  rintro w ⟨hw, hrecord⟩ hnone
  have hmem := ((hw.sound.typed.getNotification_eq_ok hw.sound.coherent).mp hrecord).1
  obtain ⟨m, hm, rfl⟩ := List.mem_map.mp hmem
  obtain ⟨j, hj⟩ := exists_toJson? hw.legible (List.mem_of_mem_filter hm)
  exact nomatch hnone.symm.trans hj

theorem runs_notifications_orderly {pendingOnly : Bool} :
    Runs (service.Orderly n p) (notifications caller pendingOnly)
      (fun _ => service.Orderly n p) (service.Fails now n p) := by
  refine runs_bind (runs_ask_orderly fun w hw =>
    faultless_of_exists ⟨_, hw.sound.typed.listNotifications caller pendingOnly⟩)
    fun records => ?_
  refine runs_reply (runs_require (fun _ _ hw _ => hw.1) ?_)
  rintro w ⟨hw, hrecords⟩ hnone
  rw [hw.sound.typed.listNotifications] at hrecords
  obtain rfl := Except.ok.inj hrecords
  obtain ⟨js, hjs⟩ := exists_mapM (f := NotificationRecord.toJson?) (List.forall_mem_map.mpr
    fun m hm => exists_toJson? hw.legible (List.mem_of_mem_filter hm))
  exact nomatch hnone.symm.trans hjs

theorem runs_handleGuarded_orderly {e : GuardedEndpoint} (hdistinct : service.Distinct n)
    (hcaller : ∀ users, p users → HasCaller caller users)
    (he : e ∉ [.deleteUser, .modifyUser, .sendBatch]) :
    Runs (service.Orderly n p) (service.handleGuarded now e caller r)
      (fun _ => service.Orderly n p) (service.Fails now n p) := by
  cases e with
  | deleteUser | modifyUser | sendBatch => exact absurd (by simp) he
  | getOne k => exact runs_getOne_orderly
  | getAll k =>
    exact runs_reply_orderly (runs_ask_orderly fun _ _ => faultless_ok _) fun _ _ hw => hw.1
  | create k => exact runs_create_orderly hdistinct hcaller
  | confirm k => exact runs_confirm_orderly hdistinct
  | modify k => exact runs_modify_orderly
  | delete k => exact runs_delete_orderly
  | activeGroups =>
    exact runs_reply_orderly (runs_ask_orderly fun _ _ => faultless_ok _) fun _ _ hw => hw.1
  | membersOf => exact runs_membersOf_orderly
  | addMember => exact runs_addMember_orderly
  | removeMember => exact runs_removeMember_orderly
  | getNotification => exact runs_getNotification_orderly
  | allNotifications => exact runs_notifications_orderly
  | pendingNotifications => exact runs_notifications_orderly
  | createBatch => exact runs_createBatch_orderly hdistinct hcaller
  | cancelNotification => exact runs_cancelNotification_orderly

/-! ## Requests that hand messages over -/

theorem runs_deliverAll_orderly {ds : List Delivery}
    (hothers : service.notifier.Calls (service.Tolerates n p)) :
    Runs (service.Orderly n p) (service.deliverAll now ds) (fun _ => service.Orderly n p) E := by
  refine @runs_deliverAll service now E (fun _ => service.Orderly n p)
    (survives_orderly hothers).tracks [] ds fun d _ _ w s hw _ hs => ?_
  have hs : (Operation.completeNotification d.notification now).apply w.database.store =
      .ok s := hs
  exact hw.callOnRows hs (by simp [Operation.writes]) (Nat.le_refl _)
    fun _ _ _ => List.not_mem_nil

/-- The identifiers from `first` on are issued only after the batch was started. -/
theorem runs_startBatch_orderly {first : Nat} {batch : Uuid} (hdistinct : service.Distinct n) :
    Runs (fun w => service.Orderly n p w ∧ w.issued = first + 1 ∧
        ∀ i, first ≤ i → i < n → w.database.store.Lacks (service.ids i))
      (Handler.store fun s => s.startBatch caller batch now fun i => service.ids (first + i))
      (fun ds w => service.Orderly n p { w with issued := w.issued + ds.length })
      (service.Fails now n p) := by
  refine runs_store ?_ ?_
  · rintro w ds s ⟨hw, hfirst, hlacks⟩ _ h
    have hs : (Operation.startBatch caller batch now fun i => service.ids (first + i)).apply
        w.database.store = .ok s := map_eq_ok.mpr ⟨_, h, rfl⟩
    refine hw.callOnRows hs (by simp [Operation.writes]) (Nat.le_add_right _ _)
      fun i hi hn hadds => ?_
    -- the notifications have the identifiers from `first` to `first + ds.length - 1`
    have hmade : service.ids i ∈ ds.map Delivery.notification := by
      simpa only [Operation.adds, Operation.generated?, Operation.notifies, h, Option.toList_none,
        List.nil_append] using hadds
    obtain ⟨-, -, rfl, -⟩ :=
      (Store.startBatch_eq_ok hw.sound.coherent.notificationIds).mp h
    simp only [Store.queuedDeliveries, List.map_map, List.mem_map, Function.comp_def,
      List.length_map, List.length_zipIdx, Prod.exists] at hmade hi
    obtain ⟨target, j, hj, he⟩ := hmade
    have hlt := (List.mem_zipIdx hj).2.1
    exact hdistinct (first + j) i (by omega) hn he
  · rintro w e ⟨hw, hfirst, hlacks⟩ h
    refine ⟨hw, fun hinternal _ => ⟨caller, Nat.lt_of_not_le fun hroom => ?_⟩⟩
    have hready : (Operation.startBatch caller batch now fun i => service.ids (first + i)).Ready
        w.database.store := supplies_of_not_spent hdistinct hlacks (by omega)
    have herror : (Operation.startBatch caller batch now fun i => service.ids (first + i)).apply
        w.database.store = .error e := map_eq_error.mpr (error_of_call hw.sound.poisoned h)
    exact ofStore_ne_internal
      (Store.faultless_apply hw.sound.coherent hw.legible hready e herror) hinternal

theorem runs_sendBatch_orderly (hdistinct : service.Distinct n)
    (hothers : service.notifier.Calls (service.Tolerates n p)) :
    Runs (service.Orderly n p) (service.sendBatch now caller r) (fun _ => service.Orderly n p)
      (service.Fails now n p) := by
  refine runs_bind runs_id_orderly fun batch => ?_
  refine runs_bind (runs_issue (Q := fun first w => service.Orderly n p w ∧ w.issued = first + 1 ∧
    ∀ i, first ≤ i → i < n → w.database.store.Lacks (service.ids i))
    fun w hw => ⟨hw.issue 1, rfl, hw.unissued⟩) fun first => ?_
  refine runs_bind (runs_startBatch_orderly hdistinct) fun ds => ?_
  refine runs_bind (runs_issueMore (Q := fun _ => service.Orderly n p) fun _ hw => hw) fun _ => ?_
  exact runs_reply_orderly (runs_deliverAll_orderly hothers) fun _ _ hw => hw

theorem runs_react_orderly {chat : Int64} {text : String} :
    Runs (service.Orderly n p) (react chat text) (fun _ => service.Orderly n p)
      (service.Fails now n p) := by
  have hcontact : ∀ (op : Operation) (f : Store → Bool × Store), (∀ s, op.apply s = .ok (f s).2) →
      op.writes = [.contacts] → (∀ s, op.adds s = []) → (∀ s, op.Ready s) →
        Runs (service.Orderly n p) (Handler.store fun s => .ok (f s))
          (fun _ => service.Orderly n p) (service.Fails now n p) := by
    intro op f hf hwrites hadds hready
    exact runs_store_orderly op (fun s => (hf s).symm) (by simp [hwrites])
      (canMake_of_adds_nil hready hadds)
  unfold react
  split
  · exact runs_pure fun _ hw => hw
  · exact runs_pure fun _ hw => hw
  · exact runs_pure fun _ hw => hw
  · exact runs_reply (hcontact (.activateContact chat) _ (fun _ => rfl) rfl (fun _ => rfl)
      fun _ => trivial)
  · exact runs_reply (hcontact (.deactivateContact chat) _ (fun _ => rfl) rfl (fun _ => rfl)
      fun _ => trivial)

theorem runs_botUpdate_orderly (hothers : service.notifier.Calls (service.Tolerates n p)) :
    Runs (service.Orderly n p) (service.botUpdate r) (fun _ => service.Orderly n p)
      (service.Fails now n p) := by
  refine runs_bind runs_payload_orderly fun update => ?_
  have hguarded : ∀ answer : Handler Reply,
      Runs (service.Orderly n p) answer (fun _ => service.Orderly n p) (service.Fails now n p) →
      Runs (service.Orderly n p) (do
        if !service.showsSecret r then throw .unauthenticated
        answer) (fun _ => service.Orderly n p) (service.Fails now n p) := by
    intro answer hanswer
    cases service.showsSecret r with
    | false =>
      refine runs_bind (R := fun _ _ => False) ?_ fun _ _ hw => hw.elim
      exact runs_throw fun _ hw => fails_of_ne hw nofun
    | true => exact hanswer
  obtain ⟨-, message⟩ := update
  cases message with
  | none => exact hguarded _ (runs_pure fun _ hw => hw)
  | some message =>
    refine hguarded _ (runs_bind runs_react_orderly fun reaction => ?_)
    exact runs_reply (runs_send_survives (survives_orderly hothers))

end Service

end AlertService
