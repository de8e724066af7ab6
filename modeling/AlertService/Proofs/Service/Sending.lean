import AlertService.Account.Argon2
import AlertService.Proofs.Service.Calls

/-!
# Requests that hand messages over

Sending a batch and answering the bot. While messages are on their way others may change the store,
so that what holds afterwards is what the calls of the request and the others keep.

* `runs_sendBatch_tracks`, `runs_sendBatch`: sending a batch fails before it makes a call, or does
  not fail.
* `runs_botUpdate`: nor does an update of the bot.
-/

namespace AlertService

namespace Service

open Handler World

variable {service : Service} {now : Instant} {caller : Uuid} {w₀ : World} {I : World → Prop}
  {E : Failure → World → Prop}

/-- What survives a message being handed over: the message itself, and what others do meanwhile. -/
structure Survives (service : Service) (I : World → Prop) : Prop where
  handed : ∀ w m, I w → I { w with handed := w.handed ++ [m] }
  meanwhile : ∀ w m f, I w → w.database.poisoned = false →
    service.notifier.meanwhile w.handed m = some f →
      I { w with database := { w.database with store := f w.database.store } }

theorem runs_send_survives (h : service.Survives I) {m : Message} :
    Runs I (service.send m) (fun _ => I) E := by
  refine runs_send (fun w _ hw => h.handed w m hw) (fun w _ f hw hp hf => ?_) fun _ hw _ => hw
  exact h.handed _ m (h.meanwhile w m f hw hp hf)

/-! ## Deliveries one after the other -/

/-- What is said of the deliveries made so far goes on to be true when another one is made. -/
structure Tracks (service : Service) (I : List Delivery → World → Prop) : Prop where
  handed : ∀ made d w, I made w →
    I (made ++ [d]) { w with handed := w.handed ++ [⟨d.chat, d.text⟩] }
  meanwhile : ∀ made w m f, I made w → w.database.poisoned = false →
    service.notifier.meanwhile w.handed m = some f →
      I made { w with database := { w.database with store := f w.database.store } }
  kept : ∀ made d w, I made w → w.database.poisoned = true → I (made ++ [d]) w

theorem Survives.tracks (h : service.Survives I) : service.Tracks fun _ => I :=
  ⟨fun _ d w => h.handed w ⟨d.chat, d.text⟩, fun _ => h.meanwhile, fun _ _ _ hw _ => hw⟩

theorem runs_deliver {I : List Delivery → World → Prop} (h : service.Tracks I)
    {made : List Delivery} {d : Delivery}
    (hdone : ∀ made w s, I made w → w.database.poisoned = false →
      w.database.store.completeNotification d.notification now = .ok s →
        I made { w with database := { w.database with store := s } }) :
    Runs (I made) (service.deliver now d) (fun _ => I (made ++ [d])) E := by
  have hsend : Runs (I made) (service.send ⟨d.chat, d.text⟩) (fun _ => I (made ++ [d])) E := by
    refine runs_send (fun w _ hw => h.handed made d w hw) (fun w _ f hw hp hf => ?_)
      fun w hw hp => h.kept made d w hw hp
    exact h.handed made d _ (h.meanwhile made w _ f hw hp hf)
  refine runs_bind hsend fun delivered => ?_
  cases delivered with
  | false => exact runs_pure fun _ hw => hw
  | true => exact runs_attempt (runs_change (hdone _) fun _ _ hw _ => hw)

theorem runs_deliverAll {I : List Delivery → World → Prop} (h : service.Tracks I)
    {made ds : List Delivery}
    (hdone : ∀ d ∈ ds, ∀ made w s, I made w → w.database.poisoned = false →
      w.database.store.completeNotification d.notification now = .ok s →
        I made { w with database := { w.database with store := s } }) :
    Runs (I made) (service.deliverAll now ds) (fun _ => I (made ++ ds)) E := by
  induction ds generalizing made with
  | nil => exact runs_pure fun _ hw => by rwa [List.append_nil]
  | cons d ds ih =>
    refine runs_bind (runs_deliver h (hdone d List.mem_cons_self)) fun _ => ?_
    rw [List.append_cons made d ds]
    exact ih fun d' hd => hdone d' (List.mem_cons_of_mem _ hd)

/-- Until the batch is started nothing is done. From then on nothing fails, and all deliveries are
made. -/
theorem runs_sendBatch_tracks {r : Http.Request} {I : (ds made : List Delivery) → World → Prop}
    (hstart : ∀ w i batch ds s, w₀.Idle w → w.database.poisoned = false → w₀.issued ≤ i →
      w.database.store.startBatch caller batch now (fun j => service.ids (i + j)) = .ok (ds, s) →
        I ds [] { w with
          database := { w.database with store := s }
          issued := w.issued + ds.length })
    (htracks : ∀ ds, service.Tracks (I ds))
    (hdone : ∀ ds, ∀ d ∈ ds, ∀ made w s, I ds made w → w.database.poisoned = false →
      w.database.store.completeNotification d.notification now = .ok s →
        I ds made { w with database := { w.database with store := s } }) :
    Runs w₀.Idle (service.sendBatch now caller r) (fun _ w => ∃ ds, I ds ds w)
      fun _ => w₀.Idle := by
  refine runs_bind runs_id_idle fun batch => ?_
  refine runs_bind (runs_issue (Q := fun i w => w₀.Idle w ∧ w₀.issued ≤ i)
    fun w hw => ⟨hw.issue, hw.issued⟩) fun i => ?_
  refine runs_of_and fun hi => ?_
  refine runs_bind (runs_store (Q := fun ds w => I ds [] { w with issued := w.issued + ds.length })
    (fun w ds s hw hp h => hstart w i batch ds s hw hp hi h) fun _ _ hw _ => hw) fun ds => ?_
  refine runs_bind (runs_issueMore (Q := fun _ => I ds []) fun _ hw => hw) fun _ => ?_
  refine runs_bind (runs_deliverAll (htracks ds) (hdone ds)) fun _ => ?_
  exact runs_pure fun _ hw => ⟨ds, hw⟩

/-- What holds from the start of the batch on and survives the deliveries holds in the end. -/
theorem runs_sendBatch {r : Http.Request} {I : List Delivery → World → Prop}
    (hstart : ∀ w i batch ds s, w₀.Idle w → w.database.poisoned = false → w₀.issued ≤ i →
      w.database.store.startBatch caller batch now (fun j => service.ids (i + j)) = .ok (ds, s) →
        I ds { w with database := { w.database with store := s }, issued := w.issued + ds.length })
    (hsurvives : ∀ ds, service.Survives (I ds))
    (hdone : ∀ ds, ∀ d ∈ ds, ∀ w s, I ds w → w.database.poisoned = false →
      w.database.store.completeNotification d.notification now = .ok s →
        I ds { w with database := { w.database with store := s } }) :
    Runs w₀.Idle (service.sendBatch now caller r) (fun _ w => ∃ ds, I ds w) fun _ => w₀.Idle :=
  runs_sendBatch_tracks (I := fun ds _ => I ds) hstart (fun ds => (hsurvives ds).tracks)
    fun ds d hd _ => hdone ds d hd

/-- An update that is not refused lets its chat opt in or out at most. -/
theorem runs_botUpdate {r : Http.Request} (hidle : ∀ w, w₀.Idle w → I w)
    (hactivate : ∀ w chat, w₀.Idle w → w.database.poisoned = false → I { w with
      database := { w.database with store := (w.database.store.activateContact chat).2 } })
    (hdeactivate : ∀ w chat, w₀.Idle w → w.database.poisoned = false → I { w with
      database := { w.database with store := (w.database.store.deactivateContact chat).2 } })
    (hsurvives : service.Survives I) :
    Runs w₀.Idle (service.botUpdate r) (fun _ => I) fun _ => w₀.Idle := by
  refine runs_bind runs_payload_idle fun update => ?_
  have hreact : ∀ chat text, Runs w₀.Idle (react chat text) (fun _ => I) fun _ => w₀.Idle := by
    intro chat text
    unfold react
    split
    · exact runs_pure hidle
    · exact runs_pure hidle
    · exact runs_pure hidle
    · refine runs_reply (runs_store (fun w _ s hw hp h => ?_) fun _ _ hw _ => hw)
      rw [← (Prod.mk.inj (Except.ok.inj h)).2]
      exact hactivate w chat hw hp
    · refine runs_reply (runs_store (fun w _ s hw hp h => ?_) fun _ _ hw _ => hw)
      rw [← (Prod.mk.inj (Except.ok.inj h)).2]
      exact hdeactivate w chat hw hp
  have hguarded : ∀ answer : Handler Reply, Runs w₀.Idle answer (fun _ => I) (fun _ => w₀.Idle) →
      Runs w₀.Idle (do
        if !service.showsSecret r then throw .unauthenticated
        answer) (fun _ => I) fun _ => w₀.Idle := by
    intro answer hanswer
    cases service.showsSecret r with
    | false => exact runs_bind (runs_throw fun _ hw => hw) fun _ => hanswer
    | true => exact hanswer
  obtain ⟨-, message⟩ := update
  cases message with
  | none => exact hguarded _ (runs_pure hidle)
  | some message =>
    refine hguarded _ (runs_bind (hreact _ _) fun reaction => ?_)
    exact runs_reply (runs_send_survives hsurvives)

/-- A service whose messages all arrive while nobody else is there. -/
def solitary : Service where
  tokens := ⟨"secret", 900, 604800, by decide, by decide⟩
  notifier := ⟨fun _ _ => true, fun _ _ => none⟩
  webhookSecret := none
  digest := PasswordHash.argon2
  ids := fun i => .uniform (Fin.ofNat 16 i)
  salts := fun i => List.replicate 16 (UInt8.ofNat i)

theorem ids_solitary_ne {i j : Nat} (hij : i < j) (hj : j < 16) :
    solitary.ids i ≠ solitary.ids j := by
  intro he
  have hdigit : Fin.ofNat 16 i = Fin.ofNat 16 j :=
    Option.some.inj (congrArg (·.digits.head?) he)
  have hval := congrArg Fin.val hdigit
  simp only [Fin.val_ofNat] at hval
  omega

end Service

end AlertService
