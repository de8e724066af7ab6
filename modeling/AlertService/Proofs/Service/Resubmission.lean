import AlertService.Proofs.Entity.Bodies
import AlertService.Proofs.Json.Rereading
import AlertService.Proofs.Service.Precedence
import AlertService.Proofs.Token.RoundTrip

/-!
# What was got is sent back

The value that is got of an entity, without the identifier and the owner, is a body from which the
fields of the entity are read. To send it back changes nothing: a template that a group refers to is
still there and still the caller's. To send it as a new draft makes a second entity like the first.

* `payload_rest`: what is read of such a body.
* `Coherent.updateEntity_self`, `Coherent.confirmDraft_insertDraft`: what the store does with it.
* `Service.resubmits`: what is answered, in every world that requests lead to.
-/

namespace AlertService

/-- The value without the members of these names. -/
def Json.without (names : List String) : Json → Json
  | .object ms => .object (ms.filter fun m => m.1 ∉ names)
  | j => j

/-- The body is a text of the value that is got of the entity, less its identifier and its owner. -/
def Kind.IsRest (k : Kind) (e : Owned k.Fields) (body : Bytes) : Prop :=
  Json.Documents (.of ((k.entityToJson e).without [k.idColumn, "master_id"])) body

variable {k : Kind} {e : Owned k.Fields} {body : Bytes}

/-! ## The body -/

/-- In particular the text that is written for what is left of the value. -/
theorem Kind.isRest_text (k : Kind) (e : Owned k.Fields) :
    k.IsRest e (Utf8.encode ((k.entityToJson e).without [k.idColumn, "master_id"]).text) :=
  Json.documents_text _

theorem Kind.without_entityToJson (k : Kind) (e : Owned k.Fields) :
    (k.entityToJson e).without [k.idColumn, "master_id"] = .object (k.members e.fields) := by
  have hnames : ∀ d ∈ k.declared, d.name ∉ [k.idColumn, "master_id"] := by
    cases k <;> decide
  have hmembers : ∀ m ∈ k.members e.fields, m.1 ∉ [k.idColumn, "master_id"] := by
    intro m hm
    obtain ⟨vs, hvs⟩ := k.exists_build e.fields
    rw [hvs, k.members_build] at hm
    obtain ⟨d, hd, hname, -⟩ := Json.accepts_of_mem_written hm
    exact hname ▸ hnames d hd
  have hkept : (k.members e.fields).filter (fun m => m.1 ∉ [k.idColumn, "master_id"]) =
      k.members e.fields :=
    List.filter_eq_self.mpr fun m hm => decide_eq_true (hmembers m hm)
  simp only [entityToJson, toJson, Json.without, List.mem_cons, true_or, or_true, not_true_eq_false,
    decide_false, Bool.false_eq_true, not_false_eq_true, List.filter_cons_of_neg]
  simp only [List.mem_cons] at hkept
  rw [hkept]

theorem Handler.payload_rest (h : k.IsRest e body) (hlimit : body.length ≤ bodyLimit) (w : World) :
    payload k.shape.read body w = (.ok e.fields, w) := by
  refine payload_eq_ok.mpr ⟨hlimit, ?_⟩
  rw [Kind.IsRest, k.without_entityToJson] at h
  rw [k.shape_eq]
  exact Json.readBody_written k.declared_names k.members_build k.exists_build e.fields h

/-! ## The store -/

theorem PerKind.set_get_self {α : Kind → Type} (t : PerKind α) (k : Kind) : t.set k (t.get k) = t := by
  cases k <;> rfl

theorem PerKind.set_set {α : Kind → Type} (t : PerKind α) (k : Kind) (x y : α k) :
    (t.set k x).set k y = t.set k y := by
  cases k <;> rfl

namespace Store

variable {s : Store} {draft new : Uuid}

theorem Coherent.getEntity_self (h : s.Coherent) (he : e ∈ s.entities.get k) :
    s.getEntity k e.owner e.id = .ok e :=
  getEntity_eq_ok.mpr ⟨h.entity?_eq_some.mpr ⟨he, rfl⟩, rfl⟩

/-- What an entity refers to could be referred to anew. -/
theorem Coherent.checkReferences_self (h : s.Coherent) (he : e ∈ s.entities.get k) :
    s.checkReferences e.owner k e.fields = .ok () := by
  cases k with
  | recipient | template => rfl
  | group => exact checkReferences_group_eq_ok.mpr (h.references e he)

theorem Coherent.updateEntity_self (h : s.Coherent) (he : e ∈ s.entities.get k) :
    s.updateEntity k e.owner e.id e.fields = .ok (e, s) := by
  have hrows : (s.entities.get k).map (fun x => if x.id = e.id then { x with fields := e.fields }
      else x) = s.entities.get k := by
    refine (List.map_congr_left fun x hx => ?_).trans (List.map_id _)
    by_cases hid : x.id = e.id
    · rw [if_pos hid, h.entity_ext hx he hid]
      rfl
    · rw [if_neg hid]
      rfl
  refine updateEntity_eq_ok.mpr ⟨⟨e, h.entity?_eq_some.mpr ⟨he, rfl⟩, rfl⟩,
    h.checkReferences_self he, rfl, ?_⟩
  rw [hrows, PerKind.set_get_self]

/-- A draft that was just made for the user of an entity, with its fields, becomes a second one. -/
theorem Coherent.confirmDraft_insertDraft (h : s.Coherent) (he : e ∈ s.entities.get k)
    (hdraft : ∀ d ∈ s.drafts.get k, d.id ≠ draft) (hnew : ∀ x ∈ s.entities.get k, x.id ≠ new) :
    ∃ t, s.insertDraft k draft e.owner e.fields = .ok t ∧
      t.confirmDraft k e.owner draft new = .ok (⟨new, e.owner, e.fields⟩, { s with
        entities := s.entities.set k (s.entities.get k ++ [⟨new, e.owner, e.fields⟩]) }) := by
  have huser : s.hasUser e.owner = true := h.entityOwners k e he
  refine ⟨_, insertDraft_eq_ok.mpr ⟨find?_key_eq_none.mpr hdraft, huser, rfl⟩, ?_⟩
  generalize ht : ({ s with drafts := s.drafts.set k (s.drafts.get k ++
    [⟨⟨draft, e.owner, e.fields⟩, none⟩]) } : Store) = t
  have hrows : t.drafts.get k = s.drafts.get k ++ [⟨⟨draft, e.owner, e.fields⟩, none⟩] := by
    rw [← ht, PerKind.get_set_self]
  have hfound : t.draft? k draft = some ⟨⟨draft, e.owner, e.fields⟩, none⟩ := by
    rw [draft?, hrows, List.find?_append, find?_key_eq_none.mpr hdraft]
    simp
  have hchecked : t.checkReferences e.owner k e.fields = .ok () := by
    rw [← h.checkReferences_self he, ← ht]
    cases k <;> rfl
  have hleft : (t.drafts.get k).filter (fun d => d.id ≠ draft) = s.drafts.get k := by
    rw [hrows, List.filter_append, List.filter_eq_self.mpr fun d hd => decide_eq_true (hdraft d hd)]
    simp
  refine confirmDraft_eq_ok.mpr
    ⟨_, e.fields, hfound, rfl, draftFields_of_not_stray rfl, hchecked, ?_, ?_, rfl, ?_⟩
  · rw [← ht]
    exact find?_key_eq_none.mpr hnew
  · rw [← ht]
    exact huser
  · rw [hleft, ← ht]
    simp only [PerKind.set_set, PerKind.set_get_self]

end Store

/-! ## The handlers -/

namespace Service

open Handler

variable {service : Service} {now : Instant} {w : World} {r : Http.Request} {id : Uuid}
  {name label : String} {log : List (Instant × Http.Request)} {others : Operation → Prop}

theorem getOne_self (hw : w.database.poisoned = false) (hs : w.database.store.Coherent)
    (he : e ∈ w.database.store.entities.get k) (hid : namedId? r k.idParameter = some e.id) :
    getOne e.owner k r w = (.ok (.value (k.entityToJson e)), w) := by
  have hask : ask (fun s => s.getEntity k e.owner e.id) w = (.ok e, w) :=
    ask_of_ok hw (hs.getEntity_self he)
  simp only [getOne, entityId, bind_apply, id_of_named hid, hask]
  rfl

theorem modify_self (hw : w.database.poisoned = false) (hs : w.database.store.Coherent)
    (he : e ∈ w.database.store.entities.get k) (hid : namedId? r k.idParameter = some e.id)
    (hbody : k.IsRest e r.body) (hlimit : r.body.length ≤ bodyLimit) :
    modify e.owner k r w = (.ok (.value (k.entityToJson e)), w) := by
  have hstore : store (fun s => s.updateEntity k e.owner e.id e.fields) w = (.ok e, w) :=
    store_of_ok hw (hs.updateEntity_self he)
  simp only [modify, entityId, bind_apply, payload_rest hbody hlimit, id_of_named hid, hstore]
  rfl

theorem create_rest {caller : Uuid} {t : Store} (hw : w.database.poisoned = false)
    (hbody : k.IsRest e body) (hlimit : body.length ≤ bodyLimit)
    (ht : w.database.store.insertDraft k (service.ids w.issued) caller e.fields = .ok t) :
    service.create caller k body w =
      (.ok (.value (k.draftToJson ⟨service.ids w.issued, caller, e.fields⟩)),
        ⟨{ w.database with store := t }, w.issued + 1, w.handed⟩) := by
  have hfresh : service.freshId w = (.ok (service.ids w.issued), { w with issued := w.issued + 1 }) :=
    rfl
  have hchange : change (fun s => s.insertDraft k (service.ids w.issued) caller e.fields)
      { w with issued := w.issued + 1 } =
        (.ok (), ⟨{ w.database with store := t }, w.issued + 1, w.handed⟩) :=
    store_of_ok hw (congrArg (Except.map fun s => ((), s)) ht)
  simp only [create, bind_apply, payload_rest hbody hlimit, hfresh, hchange]
  rfl

theorem confirm_of_ok {caller draft : Uuid} {new : Owned k.Fields} {t : Store}
    (hw : w.database.poisoned = false) (hid : namedId? r "draft_id" = some draft)
    (ht : w.database.store.confirmDraft k caller draft (service.ids w.issued) = .ok (new, t)) :
    service.confirm caller k r w = (.ok (.value (k.entityToJson new)),
      ⟨{ w.database with store := t }, w.issued + 1, w.handed⟩) := by
  have hfresh : service.freshId w = (.ok (service.ids w.issued), { w with issued := w.issued + 1 }) :=
    rfl
  have hstore : store (fun s => s.confirmDraft k caller draft (service.ids w.issued))
      { w with issued := w.issued + 1 } =
        (.ok new, ⟨{ w.database with store := t }, w.issued + 1, w.handed⟩) :=
    store_of_ok hw ht
  simp only [confirm, bind_apply, id_of_named hid, hfresh, hstore]
  rfl

/-! ## The responses -/

/-- The response is a success with that value, and this is the world afterwards. -/
def Answers (service : Service) (now : Instant) (r : Http.Request) (w : World) (j : Json)
    (w' : World) : Prop :=
  service.respond now r w = ((Http.Response.make 200 (some j)).sent r.method, w')

theorem answers_of_admits {x : GuardedEndpoint} {caller : Uuid} {j : Json} {w' : World}
    (hw : w.database.Sound) (hr : r.IsFor (.guarded x))
    (hadmits : service.Admits .access now w r caller)
    (h : service.handleGuarded now x caller r w = (.ok (.value j), w')) :
    service.Answers now r w j w' := by
  have hadmitted := (admitted?_eq_some hw.typed).mpr hadmits
  rw [Answers, respond_admitted hw.poisoned hr hadmitted, h]
  rfl

/-- A request that is let in is handled next. -/
theorem after_of_admits {x : GuardedEndpoint} {caller : Uuid}
    (hw : (service.after log).database.Sound) (hr : r.IsFor (.guarded x))
    (hadmits : service.Admits .access now (service.after log) r caller) :
    service.after (log ++ [(now, r)]) =
      (service.handleGuarded now x caller r (service.after log)).2 := by
  rw [after_concat, respond_admitted hw.poisoned hr ((admitted?_eq_some hw.typed).mpr hadmits)]

/-- What is got of an entity can be sent back and sent as new. -/
structure Resubmits (service : Service) (w : World) (k : Kind) (e : Owned k.Fields) : Prop where
  got : ∀ now r, r.IsFor (.guarded (.getOne k)) → service.Admits .access now w r e.owner →
    namedId? r k.idParameter = some e.id → service.Answers now r w (k.entityToJson e) w
  /-- Sent back it gets the same answer, and nothing changes. -/
  modified : ∀ now r, r.IsFor (.guarded (.modify k)) → service.Admits .access now w r e.owner →
    namedId? r k.idParameter = some e.id → k.IsRest e r.body → r.body.length ≤ bodyLimit →
      service.Answers now r w (k.entityToJson e) w
  /-- Sent as new and confirmed it makes an entity that differs in its identifier alone. -/
  doubled : service.IssuesOnce (w.issued + 2) → ∀ now r, r.IsFor (.guarded (.create k)) →
    service.Admits .access now w r e.owner → k.IsRest e r.body → r.body.length ≤ bodyLimit →
      ∃ w₁, service.Answers now r w (k.draftToJson { e with id := service.ids w.issued }) w₁ ∧
        ∀ now' r', r'.IsFor (.guarded (.confirm k)) →
          service.Admits .access now' w₁ r' e.owner →
          namedId? r' "draft_id" = some (service.ids w.issued) →
            ∃ new w₂, (∀ x ∈ w.database.store.entities.get k, x.id ≠ new) ∧
              service.Answers now' r' w₁ (k.entityToJson { e with id := new }) w₂ ∧
              w₂.database = { w.database with
                store.entities := w.database.store.entities.set k
                  (w.database.store.entities.get k ++ [{ e with id := new }]) }

/-- Whatever was asked before, what is got of an entity can be sent back and changes nothing, and can
be sent as new and makes another one like it. -/
theorem resubmits (h : service.notifier.Calls others) (log : List (Instant × Http.Request))
    (he : e ∈ (service.after log).database.store.entities.get k) :
    service.Resubmits (service.after log) k e := by
  have hsound := sound_after h log
  constructor
  case got =>
    intro now r hr hadmits hid
    exact answers_of_admits hsound hr hadmits (getOne_self hsound.poisoned hsound.coherent he hid)
  case modified =>
    intro now r hr hadmits hid hbody hlimit
    exact answers_of_admits hsound hr hadmits
      (modify_self hsound.poisoned hsound.coherent he hid hbody hlimit)
  case doubled =>
    intro hissues now r hr hadmits hbody hlimit
    have hdraft : ∀ d ∈ (service.after log).database.store.drafts.get k,
        d.id ≠ service.ids (service.after log).issued :=
      fun d hd => ne_of_draft hissues hd (Nat.le_refl _) (by omega)
    have hnew : ∀ x ∈ (service.after log).database.store.entities.get k,
        x.id ≠ service.ids ((service.after log).issued + 1) :=
      fun x hx => ne_of_entity hissues hx (by omega) (by omega)
    obtain ⟨t, hinsert, hconfirm⟩ := hsound.coherent.confirmDraft_insertDraft he hdraft hnew
    refine ⟨_, answers_of_admits hsound hr hadmits
      (create_rest hsound.poisoned hbody hlimit hinsert), fun now' r' hr' hadmits' hid => ?_⟩
    -- the database is still in order after the draft was made
    have hsound' : ({ (service.after log).database with store := t } : Database).Sound := by
      have hmade : (service.after log).database.perform
          (.insertDraft k (service.ids (service.after log).issued) e.owner e.fields) =
            { (service.after log).database with store := t } :=
        Database.perform_of_ok hsound.poisoned hinsert
      exact hmade ▸ hsound.run [_]
    exact ⟨_, _, hnew, answers_of_admits hsound' hr' hadmits'
      (confirm_of_ok hsound'.poisoned hid hconfirm), rfl⟩

/-- A recipient is confirmed and sent back. -/
theorem resubmits_recipient :
    let headers : List (String × Bytes) := [("authorization", Http.headerBytes ("Bearer " ++
      Token.ofPayload "secret" (⟨.uniform 1, .uniform 2, .access, 0, 900⟩ : Claims).toJson.text))]
    let signUp : Http.Request := ⟨"POST", ⟨"/user/create", none⟩, [],
      Utf8.encode "\x7b\"name\":\"anna\",\"password\":\"secret\"\x7d"⟩
    let create : Http.Request := ⟨"POST", ⟨"/recipients/create", none⟩, headers,
      Utf8.encode "\x7b\"name\":\"bo\",\"telegram_id\":7\x7d"⟩
    let confirm : Http.Request := ⟨"PUT", ⟨"/recipients/confirmCreation",
      some ("draft_id=" ++ (Uuid.uniform 3).text)⟩, headers, []⟩
    let log := [(.ofSeconds 0, signUp), (.ofSeconds 1, create), (.ofSeconds 2, confirm)]
    let e : Owned Kind.recipient.Fields := ⟨.uniform 4, .uniform 1, "bo", none, none, some 7⟩
    let rest := Utf8.encode
      ((Kind.recipient.entityToJson e).without [Kind.recipient.idColumn, "master_id"]).text
    let modify : Http.Request := ⟨"PUT", ⟨"/recipients/modifyRecipient",
      some ("recipient_id=" ++ (Uuid.uniform 4).text)⟩, headers, rest⟩
    e ∈ (solitary.after log).database.store.entities.get .recipient ∧
      solitary.Resubmits (solitary.after log) .recipient e ∧
      solitary.Answers (.ofSeconds 3) modify (solitary.after log) (Kind.recipient.entityToJson e)
        (solitary.after log) := by
  intro headers signUp create confirm log e rest modify
  have hcalls : solitary.notifier.Calls fun _ => True := fun _ _ _ h => nomatch h
  have hadmits : ∀ (now : Instant) (w : World) (r : Http.Request), now.seconds ≤ 900 →
      r.headers = headers → ⟨.uniform 2, .uniform 1, .value (some 604800)⟩ ∈
        w.database.store.sessions → solitary.Admits .access now w r (.uniform 1) := by
    intro now w r hnow hr hsession
    exact admits_ofPayload ⟨.uniform 1, .uniform 2, .access, 0, 900⟩ hr hnow (by omega) hsession
  have hcreated : solitary.after (log.take 1 ++ [(.ofSeconds 1, create)]) =
      (solitary.handleGuarded (.ofSeconds 1) (.create .recipient) (.uniform 1) create
        (solitary.after (log.take 1))).2 :=
    after_of_admits (sound_after hcalls _) ⟨rfl, by decide⟩
      (hadmits _ _ create (by decide) rfl (by decide +kernel))
  have hconfirmed : solitary.after (log.take 2 ++ [(.ofSeconds 2, confirm)]) =
      (solitary.handleGuarded (.ofSeconds 2) (.confirm .recipient) (.uniform 1) confirm
        (solitary.after (log.take 2))).2 :=
    after_of_admits (sound_after hcalls _) ⟨rfl, by decide⟩
      (hadmits _ _ confirm (by decide) rfl (by
        rw [show log.take 2 = log.take 1 ++ [(.ofSeconds 1, create)] from rfl, hcreated]
        decide +kernel))
  have hlog : solitary.after log = (solitary.handleGuarded (.ofSeconds 2) (.confirm .recipient)
      (.uniform 1) confirm (solitary.handleGuarded (.ofSeconds 1) (.create .recipient) (.uniform 1)
        create (solitary.after (log.take 1))).2).2 := by
    rw [← hcreated]
    exact hconfirmed
  have he : e ∈ (solitary.after log).database.store.entities.get .recipient := by
    rw [hlog]
    decide +kernel
  have hsession : ⟨.uniform 2, .uniform 1, .value (some 604800)⟩ ∈
      (solitary.after log).database.store.sessions := by
    rw [hlog]
    decide +kernel
  have hnamed : namedId? modify "recipient_id" = some (.uniform 4) := by decide +kernel
  have hrest : Kind.recipient.IsRest e rest := Kind.isRest_text .recipient e
  have hlimit : rest.length ≤ bodyLimit := by decide +kernel
  -- nothing else is needed of the text
  clear_value rest
  have hresubmits := resubmits hcalls log he
  exact ⟨he, hresubmits, hresubmits.modified (.ofSeconds 3) modify
    ⟨rfl, List.mem_singleton_self _⟩
    (hadmits _ _ modify (by decide) rfl hsession) hnamed hrest hlimit⟩

end Service

end AlertService
