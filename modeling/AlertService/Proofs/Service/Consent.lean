import AlertService.Proofs.Service.Routes
import AlertService.Proofs.Service.Worlds
import AlertService.Proofs.Store.Contacts
import Mathlib.Data.List.Induction

/-!
# Consent

A chat is active while the last choice that it made with the bot was to opt in. Nothing else counts,
and the bot tells a chat whether its choice changed anything. Batches go to active chats only.

* `Service.choice?`: the choice that a request makes for a chat.
* `Service.Consents`: what choices do, after any requests.
* `consents`: it holds as long as nobody else changes contacts meanwhile.
-/

namespace AlertService

namespace Telegram

/-- The chat that a message opts in or out, and which of the two. -/
def Message.choice? (m : Message) : Option (Int64 × Bool) :=
  match Command.parse (m.text.getD "") with
  | some .sendNotifications => some (m.chat.id, true)
  | some .stopNotifications => some (m.chat.id, false)
  | _ => none

/-- What the bot says to a choice, depending on whether it changed anything. -/
def Reaction.to (active changed : Bool) : Reaction :=
  match active, changed with
  | true, true => .subscribed
  | true, false => .alreadySubscribed
  | false, true => .unsubscribed
  | false, false => .notSubscribed

end Telegram

namespace Service

open Handler World Telegram

/-- The message of an update that is accepted: the body can be read as an update, and the request
shows the secret if one is wanted. -/
def accepted? (service : Service) (r : Http.Request) : Option Telegram.Message :=
  if bodyLimit < r.body.length then none
  else
    match Json.parseBody Update.shape.read r.body with
    | .ok update => if service.showsSecret r then update.message else none
    | .error _ => none

/-- The choice that a request makes: for which chat, and whether it opts in. -/
def choice? (service : Service) (r : Http.Request) : Option (Int64 × Bool) :=
  if r.IsFor (.anyone .botUpdate) then (service.accepted? r).bind Telegram.Message.choice? else none

/-- The choices for a chat, in their order. -/
def choices (service : Service) (chat : Int64) (log : List (Instant × Http.Request)) :
    List Bool :=
  log.filterMap fun x => (service.choice? x.2).bind fun (c, active) =>
    if c = chat then some active else none

variable {service : Service} {now : Instant} {caller : Uuid} {r : Http.Request} {w : World}
  {m : Telegram.Message} {chat : Int64} {active : Bool} {table : Table}
  {log : List (Instant × Http.Request)}

/-! ## The bot -/

theorem react_of_choice (hw : w.database.poisoned = false) (h : m.choice? = some (chat, active)) :
    react m.chat.id (m.text.getD "") w =
      (.ok (.to active (w.database.store.choose chat active).1), { w with
        database := { w.database with store := (w.database.store.choose chat active).2 } }) := by
  unfold Telegram.Message.choice? at h
  unfold react
  cases hparse : Command.parse (m.text.getD "") with
  | none =>
    rw [hparse] at h
    exact nomatch h
  | some command =>
    rw [hparse] at h
    cases command with
    | start | help => exact nomatch h
    | sendNotifications =>
      cases h
      have hcall : Handler.store (fun s => .ok (s.activateContact m.chat.id)) w =
          (.ok (w.database.store.activateContact m.chat.id).1, { w with database :=
            { w.database with store := (w.database.store.activateContact m.chat.id).2 } }) :=
        store_of_ok hw rfl
      simp only [bind_apply, hcall, Store.choose, if_true]
      cases (w.database.store.activateContact m.chat.id).1 <;> rfl
    | stopNotifications =>
      cases h
      have hcall : Handler.store (fun s => .ok (s.deactivateContact m.chat.id)) w =
          (.ok (w.database.store.deactivateContact m.chat.id).1, { w with database :=
            { w.database with store := (w.database.store.deactivateContact m.chat.id).2 } }) :=
        store_of_ok hw rfl
      simp only [bind_apply, hcall, Store.choose, Bool.false_eq_true, if_false]
      cases (w.database.store.deactivateContact m.chat.id).1 <;> rfl

theorem react_of_no_choice (h : m.choice? = none) :
    react m.chat.id (m.text.getD "") w = (.ok .help, w) := by
  unfold Telegram.Message.choice? at h
  unfold react
  cases hparse : Command.parse (m.text.getD "") with
  | none => rfl
  | some command =>
    rw [hparse] at h
    cases command with
    | start | help => rfl
    | sendNotifications | stopNotifications => exact nomatch h

theorem botUpdate_accepted (h : service.accepted? r = some m) :
    service.botUpdate r w = (do
      let reaction ← react m.chat.id (m.text.getD "")
      let _ ← service.send ⟨m.chat.id, reaction.text⟩
      return Reply.done) w := by
  unfold accepted? at h
  split at h
  · exact nomatch h
  · rename_i hlimit
    split at h
    · rename_i update hparse
      obtain ⟨hsecret, hmessage⟩ := Option.ite_none_right_eq_some.mp h
      have hpayload : Handler.payload Update.shape.read r.body w = (.ok update, w) := by
        simp only [Handler.payload, hlimit, if_false, hparse]
      unfold botUpdate
      rw [bind_apply, hpayload]
      simp only [hsecret, hmessage]
      rfl
    · exact nomatch h

/-- Without a message that is accepted nothing is done. -/
theorem runs_botUpdate_not_accepted {w₀ : World} (h : service.accepted? r = none) :
    Runs w₀.Idle (service.botUpdate r) (fun _ => w₀.Idle) fun _ => w₀.Idle := by
  refine runs_bind (runs_payload (Q := fun update w => w₀.Idle w ∧
    (service.showsSecret r = true → update.message = none)) ?_ fun _ _ hw => hw) fun update => ?_
  · intro w update hw hpayload
    refine ⟨hw, fun hsecret => ?_⟩
    unfold accepted? at h
    unfold Handler.payload at hpayload
    split at hpayload
    · exact nomatch hpayload
    · rename_i hlimit
      rw [if_neg hlimit] at h
      split at hpayload
      · rename_i update' hparse
        cases hpayload
        simpa [hparse, hsecret] using h
      · exact nomatch hpayload
  refine runs_of_and fun hmessage => ?_
  cases hsecret : service.showsSecret r with
  | false => exact runs_throw fun _ hw => hw
  | true =>
    simp only [hmessage hsecret]
    exact runs_pure fun _ hw => hw

/-! ## Calls that leave contacts alone -/

theorem contacts_of_caller {op : Operation} {user : Uuid} (h : op.caller? = some user) :
    Table.contacts ∉ op.writes := by
  cases op with
  | completeNotification id time => exact nomatch h
  | activateContact chat => exact nomatch h
  | deactivateContact chat => exact nomatch h
  | _ => simp [Operation.writes]

theorem contacts_of_acts {w₀ : World} (h : service.Acts caller w₀ w) :
    Database.Leaves .contacts w₀.database w.database := by
  obtain ⟨-, -, ops, hdb, hops⟩ := h
  exact ⟨ops, hdb, fun op hop => contacts_of_caller (hops op hop).1⟩

theorem contacts_of_idle {w₀ : World} (h : w₀.Idle w) :
    Database.Leaves .contacts w₀.database w.database := by
  rw [h.database]
  exact .refl _ _

section Others

variable (hothers : service.notifier.Calls fun op => Table.contacts ∉ op.writes)

include hothers

/-- What is said hands it to the notifier. Meanwhile nobody changes contacts. -/
theorem runs_send_leaves {d : Database} {before : List AlertService.Message}
    {message : AlertService.Message} {E : Failure → World → Prop} (hd : d.poisoned = false) :
    Runs (fun w => Database.Leaves .contacts d w.database ∧ w.handed = before)
      (service.send message)
      (fun _ w => Database.Leaves .contacts d w.database ∧ w.handed = before ++ [message]) E := by
  refine runs_send ?_ ?_ ?_
  · rintro w - ⟨hleaves, rfl⟩
    exact ⟨hleaves, rfl⟩
  · rintro w - f ⟨hleaves, rfl⟩ hp hf
    exact ⟨hleaves.trans (hothers _ _ _ hf w.database hp), rfl⟩
  · rintro w ⟨hleaves, -⟩ hp
    exact nomatch hp.symm.trans (hleaves.poisoned.trans hd)

/-- A choice is made and the bot says whether it changed anything. -/
theorem runs_botUpdate_choice (hw : w.database.poisoned = false)
    (haccepted : service.accepted? r = some m) (hchoice : m.choice? = some (chat, active)) :
    Runs (· = w) (service.botUpdate r) (fun _ w' =>
      Database.Leaves .contacts
        { w.database with store := (w.database.store.choose chat active).2 } w'.database ∧
      w'.handed = w.handed ++
        [⟨chat, (Reaction.to active (w.database.store.choose chat active).1).text⟩])
      fun _ _ => False := by
  have hchat : chat = m.chat.id := by
    unfold Telegram.Message.choice? at hchoice
    split at hchoice <;> cases hchoice <;> rfl
  have hchosen : ({ w.database with
      store := (w.database.store.choose chat active).2 } : Database).poisoned = false := hw
  intro w' hw'
  rw [hw', botUpdate_accepted haccepted, bind_apply, react_of_choice hw hchoice, ← hchat]
  exact runs_reply (runs_send_leaves hothers hchosen) _ ⟨.refl _ _, rfl⟩

/-- An update without a choice changes no contacts. -/
theorem runs_botUpdate_other (hw : w.database.poisoned = false)
    (h : (service.accepted? r).bind Telegram.Message.choice? = none) :
    Runs (· = w) (service.botUpdate r)
      (fun _ w' => Database.Leaves .contacts w.database w'.database)
      fun _ w' => Database.Leaves .contacts w.database w'.database := by
  have hidle : ∀ w', w.Idle w' → Database.Leaves .contacts w.database w'.database := by
    intro w' hidle
    rw [hidle.database]
    exact .refl _ _
  cases haccepted : service.accepted? r with
  | none =>
    refine (runs_botUpdate_not_accepted haccepted).mono ?_ (fun _ => hidle) fun _ => hidle
    rintro _ rfl
    exact idle_refl _
  | some m =>
    rw [haccepted, Option.bind_some] at h
    intro w' hw'
    rw [hw', botUpdate_accepted haccepted, bind_apply, react_of_no_choice h]
    exact (runs_reply (runs_send_leaves hothers hw)).mono (fun _ hw => hw) (fun _ _ hw => hw.1)
      (fun _ _ hw => hw) _ ⟨.refl _ _, rfl⟩

/-- Sending a batch changes no contacts, and what it hands over is for active ones. -/
theorem runs_sendBatch_active {w₀ : World} (hw₀ : w₀.database.Sound) :
    Runs w₀.Idle (service.sendBatch now caller r)
      (fun _ w => Database.Leaves .contacts w₀.database w.database ∧
        ∃ messages, w.handed = w₀.handed ++ messages ∧
          ∀ m ∈ messages, w₀.database.store.contactIsActive m.chat = true)
      fun _ => w₀.Idle := by
  refine (runs_sendBatch_tracks (I := fun ds made w =>
    Database.Leaves .contacts w₀.database w.database ∧
      w.handed = w₀.handed ++ made.map (fun d => ⟨d.chat, d.text⟩) ∧
      ∀ d ∈ ds, w₀.database.store.contactIsActive d.chat = true) ?_ ?_ ?_).mono (fun _ hw => hw) ?_
    fun _ _ hw => hw
  · intro w i batch ds s hidle hp _ hs
    obtain ⟨-, -, rfl, -⟩ := (Store.startBatch_eq_ok (hidle.database ▸
      hw₀.coherent.notificationIds)).mp hs
    refine ⟨?_, ?_, ?_⟩
    · have hop : (Operation.startBatch caller batch now fun j => service.ids (i + j)).apply
          w.database.store = .ok s := map_snd_eq_ok hs
      exact hidle.database ▸ Database.Leaves.call hp hop (by simp [Operation.writes])
    · simpa using hidle.handed
    · intro d hd
      obtain ⟨⟨target, j⟩, hj, rfl⟩ := List.mem_map.mp hd
      rw [← hidle.database]
      exact Store.contactIsActive_of_mem_targets (List.fst_mem_of_mem_zipIdx hj)
  · refine fun ds => ⟨?_, ?_, ?_⟩
    · rintro made d w ⟨hleaves, hhanded, hactive⟩
      exact ⟨hleaves, by simp [hhanded], hactive⟩
    · rintro made w m f ⟨hleaves, hhanded, hactive⟩ hp hf
      exact ⟨hleaves.trans (hothers _ _ _ hf w.database hp), hhanded, hactive⟩
    · rintro made d w ⟨hleaves, -⟩ hp
      cases hp.symm.trans (hleaves.poisoned.trans hw₀.poisoned)
  · rintro ds d - made w s ⟨hleaves, hhanded, hactive⟩ hp hs
    have hop : (Operation.completeNotification d.notification now).apply w.database.store =
        .ok s := hs
    exact ⟨hleaves.trans (.call hp hop (by simp [Operation.writes])), hhanded, hactive⟩
  · rintro - w ⟨ds, hleaves, hhanded, hactive⟩
    refine ⟨hleaves, _, hhanded, fun m hm => ?_⟩
    obtain ⟨d, hd, rfl⟩ := List.mem_map.mp hm
    exact hactive d hd

/-! ## Requests -/

/-- Apart from the bot, nothing that is asked for changes contacts. -/
theorem runs_answer_leaves (now : Instant) {e : Endpoint}
    (he : Endpoint.ofPath? r.target.path = some e)
    (hbot : e ≠ .anyone .botUpdate) (hw : w.database.Sound) :
    Runs (· = w) (service.answer now e r)
      (fun _ w' => Database.Leaves .contacts w.database w'.database)
      fun _ w' => Database.Leaves .contacts w.database w'.database := by
  refine runs_answer (fun _ => contacts_of_idle) (fun _ _ => contacts_of_idle) ?_ ?_
  · rintro e rfl
    have hacted : ∀ w', service.Acted now r w w' →
        Database.Leaves .contacts w.database w'.database := by
      rintro w' (hidle | ⟨user, -, hacts⟩)
      · exact contacts_of_idle hidle
      · exact contacts_of_acts hacts
    exact (runs_handleOpen he fun h => hbot (congrArg _ h)).mono (fun _ hw => hw)
      (fun _ => hacted) fun _ => hacted
  · rintro e caller rfl -
    by_cases hsend : e = .sendBatch
    · subst hsend
      exact (runs_sendBatch_active hothers hw).mono (fun _ hw => hw) (fun _ _ hw => hw.1)
        fun _ _ => contacts_of_idle
    · exact (runs_handleGuarded hsend).mono (fun _ hw => hw) (fun _ _ => contacts_of_acts)
        fun _ _ => contacts_of_idle

theorem respond_no_choice (hw : w.database.Sound) (h : service.choice? r = none) :
    Database.Leaves .contacts w.database (service.respond now r w).2.database := by
  rcases respond_cases service now r w with ⟨hr, -⟩ | ⟨e, he, hr, -⟩
  · rw [hr]
    exact .refl _ _
  · by_cases hbot : e = .anyone .botUpdate
    · subst hbot
      by_cases hmethod : r.method ∈ (Endpoint.anyone .botUpdate).methods
      · have hfor : r.IsFor (.anyone .botUpdate) := ⟨(Endpoint.path_of_ofPath? he).symm, hmethod⟩
        rw [choice?, if_pos hfor] at h
        rw [respond_anyone service now hfor]
        exact (runs_botUpdate_other hothers hw.poisoned h).snd rfl
      · rw [hr, answer_wrong service now hmethod]
        exact .refl _ _
    · rw [hr]
      exact (runs_answer_leaves hothers now he hbot hw).snd rfl

theorem respond_choice (now : Instant) (hw : w.database.Sound)
    (h : service.choice? r = some (chat, active)) :
    (service.respond now r w).1.status = 200 ∧
      Database.Leaves .contacts
        { w.database with store := (w.database.store.choose chat active).2 }
        (service.respond now r w).2.database ∧
      (service.respond now r w).2.handed = w.handed ++
        [⟨chat, (Reaction.to active (w.database.store.choose chat active).1).text⟩] := by
  obtain ⟨hfor, h⟩ := Option.ite_none_right_eq_some.mp h
  obtain ⟨m, haccepted, hchoice⟩ := Option.bind_eq_some_iff.mp h
  have hrun := runs_botUpdate_choice hothers hw.poisoned haccepted hchoice w rfl
  rw [respond_anyone service now hfor, Http.Response.status_sent]
  simp only [handleOpen]
  generalize service.botUpdate r w = result at hrun ⊢
  rcases result with ⟨e | reply, w'⟩
  · exact hrun.elim
  · exact ⟨by cases reply <;> rfl, hrun⟩

/-- A batch is sent by its own endpoint only, to chats that are active when it is. -/
theorem respond_sendBatch (hw : w.database.Sound)
    (hpath : r.target.path = (Endpoint.guarded .sendBatch).path) :
    ∃ messages, (service.respond now r w).2.handed = w.handed ++ messages ∧
      ∀ m ∈ messages, w.database.store.contactIsActive m.chat = true := by
  have hidle : ∀ w', w.Idle w' → ∃ messages, w'.handed = w.handed ++ messages ∧
      ∀ m ∈ messages, w.database.store.contactIsActive m.chat = true := by
    intro w' hidle
    exact ⟨[], by rw [hidle.handed, List.append_nil], by simp⟩
  rcases respond_cases service now r w with ⟨hr, -⟩ | ⟨e, he, hr, -⟩
  · rw [hr]
    exact hidle w (idle_refl w)
  · rw [hpath, Endpoint.ofPath?_path] at he
    obtain rfl := Option.some.inj he
    have hrun : Runs (· = w) (service.answer now (.guarded .sendBatch) r)
        (fun _ w' => ∃ messages, w'.handed = w.handed ++ messages ∧
          ∀ m ∈ messages, w.database.store.contactIsActive m.chat = true)
        (fun _ w' => ∃ messages, w'.handed = w.handed ++ messages ∧
          ∀ m ∈ messages, w.database.store.contactIsActive m.chat = true) := by
      refine runs_answer hidle (fun _ => hidle) (fun _ h => nomatch h) ?_
      rintro e caller h -
      cases h
      exact (runs_sendBatch_active hothers hw).mono (fun _ hw => hw) (fun _ _ hw => hw.2)
        fun _ => hidle
    rw [hr]
    exact hrun.snd rfl

end Others

/-! ## Whole logs -/

theorem contactIsActive_of_leaves {d d' : Database} {c : Int64}
    (h : Database.Leaves .contacts d d') (hd : d.store.Coherent) :
    d'.store.contactIsActive c = d.store.contactIsActive c := by
  have hsame : d'.store.contacts = d.store.contacts := h.same hd
  rw [Store.contactIsActive, hsame, Store.contactIsActive]

/-- What becomes of contacts after the requests of a log. -/
structure Consents (service : Service) (log : List (Instant × Http.Request)) : Prop where
  /-- A chat is active if its last choice was to opt in. -/
  active : ∀ chat, (service.after log).database.store.contactIsActive chat = true ↔
    (service.choices chat log).getLast? = some true
  /-- A request that makes no choice for it does not change that. -/
  unchanged : ∀ now r chat, (∀ active, service.choice? r ≠ some (chat, active)) →
    (service.respond now r (service.after log)).2.database.store.contactIsActive chat =
      (service.after log).database.store.contactIsActive chat
  /-- A choice is in force at once. One message is handed to the notifier, which says whether the
  choice changed anything. -/
  answered : ∀ now r chat active, service.choice? r = some (chat, active) →
    let w := service.after log
    let x := service.respond now r w
    x.1.status = 200 ∧ x.2.database.store.contactIsActive chat = active ∧
      ∃ reaction : Reaction, x.2.handed = w.handed ++ [⟨chat, reaction.text⟩] ∧
        (reaction = (if active then .subscribed else .unsubscribed) ↔
          x.2.database.store.contactIsActive chat ≠ w.database.store.contactIsActive chat) ∧
        (reaction = (if active then .alreadySubscribed else .notSubscribed) ↔
          x.2.database.store.contactIsActive chat = w.database.store.contactIsActive chat)
  /-- What is handed over when a batch is sent is for chats that were active before. -/
  sends : ∀ now r, r.target.path = "/notifications/sendBatch" →
    ∃ messages, (service.respond now r (service.after log)).2.handed =
        (service.after log).handed ++ messages ∧
      ∀ m ∈ messages, (service.after log).database.store.contactIsActive m.chat = true

section Others

variable (hothers : service.notifier.Calls fun op => Table.contacts ∉ op.writes)

include hothers

/-- A request changes contacts by the choice that it makes, if it makes one. -/
theorem contactIsActive_respond (hw : w.database.Sound) (c : Int64) :
    (service.respond now r w).2.database.store.contactIsActive c =
      match service.choice? r with
      | some (chat, active) => if c = chat then active else w.database.store.contactIsActive c
      | none => w.database.store.contactIsActive c := by
  cases hchoice : service.choice? r with
  | none => exact contactIsActive_of_leaves (respond_no_choice hothers hw hchoice) hw.coherent
  | some choice =>
    obtain ⟨chat, active⟩ := choice
    obtain ⟨-, hleaves, -⟩ := respond_choice hothers now hw hchoice
    rw [contactIsActive_of_leaves hleaves (hw.coherent.choose chat active)]
    exact Store.contactIsActive_choose

/-- The state of a chat is its last choice. -/
theorem contactIsActive_after (chat : Int64) :
    (service.after log).database.store.contactIsActive chat =
      ((service.choices chat log).getLast?.getD false) := by
  induction log using List.reverseRecOn with
  | nil => rfl
  | append_singleton log x ih =>
    have hlast : service.after (log ++ [x]) = (service.respond x.1 x.2 (service.after log)).2 :=
      List.foldl_concat _ _ _ _
    rw [hlast, contactIsActive_respond hothers (sound_after hothers log), ih, choices, choices,
      List.filterMap_append]
    cases hchoice : service.choice? x.2 with
    | none => simp [hchoice]
    | some choice =>
      obtain ⟨c, active⟩ := choice
      by_cases hc : chat = c
      · simp [hchoice, hc]
      · simp [hchoice, hc, Ne.symm hc]

/-- Whatever is asked of a service: as long as others leave contacts alone while messages are on
their way, chats alone decide whether they get any. -/
theorem consents (log : List (Instant × Http.Request)) : service.Consents log where
  active chat := by
    rw [contactIsActive_after hothers chat]
    cases (service.choices chat log).getLast? <;> simp
  unchanged now r chat hnot := by
    rw [contactIsActive_respond hothers (sound_after hothers log)]
    split
    · rename_i c active hchoice
      have hne : chat ≠ c := fun h => hnot active (h ▸ hchoice)
      rw [if_neg hne]
    · rfl
  answered now r chat active hchoice := by
    have hsound := sound_after hothers log
    obtain ⟨hstatus, -, hhanded⟩ := respond_choice hothers now hsound hchoice
    have hactive : (service.respond now r
        (service.after log)).2.database.store.contactIsActive chat = active := by
      rw [contactIsActive_respond hothers hsound, hchoice]
      exact if_pos rfl
    refine ⟨hstatus, hactive, _, hhanded, ?_⟩
    rw [hactive, Store.choose_fst]
    cases active <;> cases (service.after log).database.store.contactIsActive chat <;>
      simp [Reaction.to]
  sends now r hpath := respond_sendBatch hothers (sound_after hothers log) hpath

end Others

/-- A chat opts in, and nobody is there who could change contacts meanwhile. -/
theorem consents_of_update :
    let message := "\x7b\"chat\":\x7b\"id\":7\x7d,\"text\":\"/send_notifications\"\x7d"
    let update : Http.Request := ⟨"POST", ⟨"/telegram/update", none⟩, [],
      Utf8.encode ("\x7b\"update_id\":1,\"message\":" ++ message ++ "\x7d")⟩
    (∀ before m, solitary.notifier.meanwhile before m = none) ∧
      solitary.choices 7 [(.ofSeconds 0, update)] = [true] ∧
      solitary.Consents [(.ofSeconds 0, update)] := by
  intro message update
  have hnobody : ∀ before m, solitary.notifier.meanwhile before m = none := fun _ _ => rfl
  have hchoices : solitary.choices 7 [(.ofSeconds 0, update)] = [true] := by decide +kernel
  refine ⟨hnobody, hchoices, consents (fun before m f hf => ?_) _⟩
  exact nomatch (hnobody before m).symm.trans hf

end Service

end AlertService
