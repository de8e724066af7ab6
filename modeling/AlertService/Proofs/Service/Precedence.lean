import AlertService.Proofs.Service.Reliability

/-!
# Which objection comes first

A request about a row that it names by an identifier may be wrong in several ways at once. What it is
told is settled by one order, the same for all kinds of rows and for all that can be done with them:
the body, the identifier, the row, its owner, and last the template that a group refers to.

* `Errand.objection?`: the first objection to a request.
* `objectionTo_payload`, `objectionTo_id`, `refusalOf_requireOwner`: each check objects, or leaves it
  to those after it.
* `answersInOrder`: the first objection makes the response, whatever was asked before.
-/

namespace AlertService

/-- The template that the fields refer to. -/
def Kind.reference? : (k : Kind) → k.Fields → Option Uuid
  | .recipient, _ => none
  | .template, _ => none
  | .group, f => f.template

/-- The response that tells of a problem. -/
def Http.Response.problem (status : Nat) (message : String) : Http.Response :=
  .make status (some (.object [("message", .string message)]))

open Http.Response (problem)

namespace Service

/-! ## The order -/

/-- The body is too long, or it does not spell the fields. -/
def bodyObjection? (k : Kind) (body : Bytes) : Option Http.Response :=
  if bodyLimit < body.length then
    some (problem 422 "Failed to buffer the request body: length limit exceeded")
  else
    match Json.parseBody k.shape.read body with
    | .ok _ => none
    | .error message => some (problem 422 message)

/-- There is no identifier, or else there is what comes after it. -/
def idObjection? (id? : Option Uuid) (label : String) (next : Uuid → Option Http.Response) :
    Option Http.Response :=
  match id? with
  | none => some (problem 404 (label ++ " not found"))
  | some id => next id

/-- There is no row, or it is someone else's, or else there is what comes after that. -/
def ownerObjection? (owner? : Option Uuid) (caller : Uuid) (label : String)
    (next : Option Http.Response) : Option Http.Response :=
  match owner? with
  | none => some (problem 404 (label ++ " not found"))
  | some owner => if owner = caller then next else some (problem 401 "unauthorized")

/-- The template is not one of the caller's. -/
def referenceObjection? (s : Store) (caller : Uuid) (template? : Option Uuid) :
    Option Http.Response :=
  if template?.any fun t => !s.owns caller .template t then
    some (problem 422 "invalid notification_template_id")
  else none

/-- What can be done with a row by its identifier. -/
inductive Errand where
  | confirm
  | getOne
  | modify
  | delete

namespace Errand

variable (x : Errand) (s : Store) (k : Kind) (id : Uuid) (body : Bytes)

def endpoint (k : Kind) : Errand → GuardedEndpoint
  | confirm => .confirm k
  | getOne => .getOne k
  | modify => .modify k
  | delete => .delete k

def parameter (k : Kind) : Errand → String
  | confirm => "draft_id"
  | _ => k.idParameter

def label (k : Kind) : Errand → String
  | confirm => k.draftLabel
  | _ => k.label

/-- The owner of the row: of a draft, if it is to be confirmed, or else of an entity. -/
def owner? : Errand → Option Uuid
  | confirm => (s.draft? k id).map fun d => d.owner
  | _ => (s.entity? k id).map Owned.owner

/-- The template that the row is to refer to, by the draft or by the body. -/
def template? : Errand → Option Uuid
  | confirm => (s.draft? k id).bind fun d => k.reference? d.fields
  | modify => (Json.parseBody k.shape.read body).toOption.bind k.reference?
  | _ => none

def rowObjection? (caller : Uuid) : Option Http.Response :=
  ownerObjection? (x.owner? s k id) caller (x.label k)
    (referenceObjection? s caller (x.template? s k id body))

/-- The first objection to the request of the caller, if there is any. -/
def objection? (caller : Uuid) (r : Http.Request) : Option Http.Response :=
  (match x with
    | modify => bodyObjection? k r.body
    | _ => none).or
  (idObjection? (namedId? r (x.parameter k)) (x.label k) fun id =>
    x.rowObjection? s k id r.body caller)

end Errand

/-! ## What failures tell -/

/-- The response to a failure. -/
def objectionTo {α : Type} : Except Failure α → Option Http.Response
  | .ok _ => none
  | .error f => some f.response

def refusalOf {α : Type} (x : Except StoreError α) : Option Http.Response :=
  objectionTo (x.mapError .ofStore)

section Handlers

open Handler

variable {α β : Type} {s : Store} {k : Kind} {caller id new : Uuid} {body : Bytes} {w : World}
  {name label : String} {r : Http.Request} {service : Service}

theorem objectionTo_reply {h : Handler α} {f : α → β} :
    objectionTo ((h >>= fun a => pure (f a)) w).1 = objectionTo (h w).1 := by
  rw [bind_apply]
  rcases h w with ⟨e | a, w'⟩ <;> rfl

theorem objectionTo_store {f : Store → Except StoreError (α × Store)}
    (hw : w.database.poisoned = false) :
    objectionTo (store f w).1 = refusalOf (f w.database.store) := by
  cases hf : f w.database.store with
  | ok x =>
    obtain ⟨a, s⟩ := x
    rw [store_of_ok hw hf]
    rfl
  | error e =>
    simp only [store, Database.call_of_error hw hf]
    rfl

theorem refusalOf_map {x : Except StoreError α} {f : α → β} : refusalOf (x.map f) = refusalOf x := by
  cases x <;> rfl

theorem objectionTo_id {f : Uuid → Handler α} :
    objectionTo ((Handler.id r name label >>= f) w).1 =
      idObjection? (namedId? r name) label fun id => objectionTo (f id w).1 := by
  simp only [bind_apply, Handler.id, queryId, namedId?]
  cases (r.query.get? name).bind fun v => Uuid.accept? (Text.trim v.toList) <;> rfl

theorem objectionTo_payload {f : k.Fields → Handler α} {next : Option Http.Response}
    (hnext : ∀ fields, Json.parseBody k.shape.read body = .ok fields →
      objectionTo (f fields w).1 = next) :
    objectionTo ((Handler.payload k.shape.read body >>= f) w).1 =
      (bodyObjection? k body).or next := by
  rw [bind_apply, Handler.payload, bodyObjection?]
  by_cases hlong : bodyLimit < body.length
  · simp only [if_pos hlong]
    rfl
  · simp only [if_neg hlong]
    cases hbody : Json.parseBody k.shape.read body with
    | error message => rfl
    | ok fields => exact hnext fields hbody

/-! ## The calls of the store -/

theorem refusalOf_references (s : Store) (caller : Uuid) (k : Kind) (fields : k.Fields) :
    refusalOf (s.checkReferences caller k fields) =
      referenceObjection? s caller (k.reference? fields) := by
  cases k with
  | recipient | template => rfl
  | group =>
    obtain ⟨name, active, template⟩ := fields
    cases template with
    | none => rfl
    | some t =>
      simp only [Store.checkReferences, Kind.reference?, referenceObjection?, Option.any_some]
      by_cases ho : s.owns caller .template t = true
      · simp only [ho, if_true, Bool.not_true, Bool.false_eq_true, if_false]
        rfl
      · simp only [ho, Bool.false_eq_true, if_false, Bool.not_false, if_true]
        rfl

/-- The row is looked for, and then its owner is looked at, before anything else is done. -/
theorem refusalOf_requireOwner {row? : Option α} {ownerOf : α → Uuid} {f : α → Except StoreError β}
    {next : Option Http.Response}
    (hnext : ∀ row, row? = some row → ownerOf row = caller → refusalOf (f row) = next) :
    refusalOf (Store.requireOwner row? ownerOf caller label >>= f) =
      ownerObjection? (row?.map ownerOf) caller label next := by
  cases row? with
  | none => rfl
  | some row =>
    by_cases ho : ownerOf row = caller
    · simp only [Store.requireOwner, Option.map_some, ownerObjection?, if_pos ho]
      exact hnext row rfl ho
    · simp only [Store.requireOwner, Option.map_some, ownerObjection?, if_neg ho]
      rfl

theorem refusalOf_getEntity : refusalOf (s.getEntity k caller id) =
    Errand.getOne.rowObjection? s k id body caller := by
  rw [← bind_pure (s.getEntity k caller id)]
  exact refusalOf_requireOwner fun _ _ _ => rfl

theorem refusalOf_deleteEntity : refusalOf (s.deleteEntity k caller id) =
    Errand.delete.rowObjection? s k id body caller :=
  refusalOf_requireOwner fun _ _ _ => rfl

theorem refusalOf_updateEntity {fields : k.Fields}
    (hbody : Json.parseBody k.shape.read body = .ok fields) :
    refusalOf (s.updateEntity k caller id fields) =
      Errand.modify.rowObjection? s k id body caller := by
  refine refusalOf_requireOwner fun e _ _ => ?_
  have htemplate : Errand.modify.template? s k id body = k.reference? fields := by
    rw [Errand.template?, hbody]
    rfl
  rw [htemplate, ← refusalOf_references]
  cases s.checkReferences caller k fields <;> rfl

/-- A draft that can be read becomes an entity under any identifier that is free. -/
theorem refusalOf_confirmDraft (h : s.Coherent) (hread : ∀ d ∈ s.drafts.get k, d.stray = none)
    (hnew : ∀ e ∈ s.entities.get k, e.id ≠ new) :
    refusalOf (s.confirmDraft k caller id new) =
      Errand.confirm.rowObjection? s k id body caller := by
  refine refusalOf_requireOwner fun d hd ho => ?_
  obtain ⟨hmem, -⟩ := h.draft?_eq_some.mp hd
  have hfields : Store.draftFields k d = .ok d.fields :=
    Store.draftFields_of_not_stray (hread d hmem)
  -- the engine has nothing against the new row: its key is free and its owner exists
  have huser : s.hasUser caller = true := ho ▸ h.draftOwners k d hmem
  have hinsert : s.insertEntity k ⟨new, caller, d.fields⟩ = .ok { s with
      entities := s.entities.set k (s.entities.get k ++ [⟨new, caller, d.fields⟩]) } :=
    Store.insertEntity_eq_ok.mpr ⟨find?_key_eq_none.mpr hnew, huser, rfl⟩
  have htemplate : Errand.confirm.template? s k id body = k.reference? d.fields := by
    rw [Errand.template?, hd]
    rfl
  rw [htemplate, ← refusalOf_references, hfields]
  cases hcheck : s.checkReferences caller k d.fields with
  | error e => simp only [bind, Except.bind, hcheck]; rfl
  | ok u => simp only [bind, Except.bind, hcheck, hinsert]; rfl

/-! ## The handlers -/

section Calls

variable (hw : w.database.poisoned = false)

include hw

theorem objectionTo_getOne : objectionTo (getOne caller k r w).1 =
    Errand.getOne.objection? w.database.store k caller r := by
  rw [getOne, entityId, objectionTo_id]
  refine congrArg _ (funext fun id => ?_)
  rw [objectionTo_reply, ask, objectionTo_store hw, refusalOf_map]
  exact refusalOf_getEntity

theorem objectionTo_delete : objectionTo (delete caller k r w).1 =
    Errand.delete.objection? w.database.store k caller r := by
  rw [delete, entityId, objectionTo_id]
  refine congrArg _ (funext fun id => ?_)
  rw [objectionTo_reply, change, objectionTo_store hw, refusalOf_map]
  exact refusalOf_deleteEntity

theorem objectionTo_modify : objectionTo (modify caller k r w).1 =
    Errand.modify.objection? w.database.store k caller r := by
  rw [modify]
  refine objectionTo_payload fun fields hbody => ?_
  rw [entityId, objectionTo_id]
  refine congrArg _ (funext fun id => ?_)
  rw [objectionTo_reply, objectionTo_store hw]
  exact refusalOf_updateEntity hbody

theorem objectionTo_confirm (h : w.database.store.Coherent)
    (hread : ∀ d ∈ w.database.store.drafts.get k, d.stray = none)
    (hnew : ∀ e ∈ w.database.store.entities.get k, e.id ≠ service.ids w.issued) :
    objectionTo (service.confirm caller k r w).1 =
      Errand.confirm.objection? w.database.store k caller r := by
  rw [confirm, objectionTo_id]
  refine congrArg _ (funext fun id => ?_)
  -- the fresh identifier is issued before the row is looked for
  show objectionTo (((store fun s => s.confirmDraft k caller id (service.ids w.issued)) >>=
    fun e => pure (Reply.value (k.entityToJson e)) : Handler Reply)
      { w with issued := w.issued + 1 }).1 = _
  rw [objectionTo_reply, objectionTo_store (w := { w with issued := w.issued + 1 }) hw]
  exact refusalOf_confirmDraft h hread hnew

end Calls

end Handlers

/-! ## The response -/

variable {service : Service} {now : Instant} {log : List (Instant × Http.Request)} {w : World}
  {x : Errand} {k : Kind} {s : Store} {caller : Uuid} {r : Http.Request} {f : Http.Response}

theorem responseOf_of_objection {result : Except Failure Reply} (h : objectionTo result = some f) :
    responseOf (result.map some) = f := by
  cases result with
  | ok reply => exact nomatch h
  | error failure => exact Option.some.inj h

theorem status_of_no_objection {result : Except Failure Reply} (h : objectionTo result = none) :
    (responseOf (result.map some)).status = 200 := by
  cases result with
  | ok reply => exact status_of_reply reply
  | error failure => exact nomatch h

theorem Errand.objection?_cases (h : x.objection? s k caller r = some f) :
    (∃ message, f = problem 422 message) ∨ f = problem 404 (x.label k ++ " not found") ∨
      f = problem 401 "unauthorized" := by
  rcases Option.or_eq_some_iff.mp h with hbody | ⟨-, hrow⟩
  · cases x with
    | modify =>
      simp only [bodyObjection?] at hbody
      split at hbody
      · exact .inl ⟨_, (Option.some.inj hbody).symm⟩
      · split at hbody
        · exact nomatch hbody
        · exact .inl ⟨_, (Option.some.inj hbody).symm⟩
    | confirm | getOne | delete => exact nomatch hbody
  · simp only [idObjection?] at hrow
    split at hrow
    · exact .inr (.inl (Option.some.inj hrow).symm)
    · simp only [rowObjection?, ownerObjection?] at hrow
      split at hrow
      · exact .inr (.inl (Option.some.inj hrow).symm)
      · split at hrow
        · simp only [referenceObjection?] at hrow
          split at hrow
          · exact .inl ⟨_, (Option.some.inj hrow).symm⟩
          · exact nomatch hrow
        · exact .inr (.inr (Option.some.inj hrow).symm)

/-- The first objection to the request of the caller makes the response. -/
structure AnswersInOrder (service : Service) (now : Instant) (w : World) (x : Errand) (k : Kind)
    (caller : Uuid) (r : Http.Request) : Prop where
  refused : ∀ f, x.objection? w.database.store k caller r = some f →
    (service.respond now r w).1 = f.sent r.method
  answered : x.objection? w.database.store k caller r = none →
    (service.respond now r w).1.status = 200
  /-- Whose row is someone else's is told what everyone is told who is not let in. -/
  foreign : x.objection? w.database.store k caller r = some (problem 401 "unauthorized") →
    ∀ e r', r'.IsFor (.guarded e) → r'.method = r.method →
      (∀ user, ¬service.Admits .access now w r' user) →
        (service.respond now r w).1 = (service.respond now r' w).1
  /-- Whether there is no identifier or no row is not told. -/
  missing : ∀ f, x.objection? w.database.store k caller r = some f → f.status = 404 →
    f = problem 404 (x.label k ++ " not found")

theorem objectionTo_handleGuarded (hissues : service.IssuesOnce ((service.after log).issued + 1))
    (now : Instant) (x : Errand) (k : Kind) (caller : Uuid) (r : Http.Request) :
    objectionTo (service.handleGuarded now (x.endpoint k) caller r (service.after log)).1 =
      x.objection? (service.after log).database.store k caller r := by
  obtain ⟨ops, hdb, -⟩ := exists_after hissues.others log
  have hsound : (service.after log).database.Sound := hdb ▸ Database.sound_after ops
  cases x with
  | confirm =>
    refine objectionTo_confirm hsound.poisoned hsound.coherent ?_ fun e he => ?_
    · rw [hdb]
      exact fun d hd => (insertDraft_of_mem hd).1
    · exact ne_of_entity hissues he (Nat.le_refl _) (Nat.lt_succ_self _)
  | getOne => exact objectionTo_getOne hsound.poisoned
  | modify => exact objectionTo_modify hsound.poisoned
  | delete => exact objectionTo_delete hsound.poisoned

/-- Whatever was asked before, a caller who wants something done with a row is told the first
objection in the order of the checks, if there is any. No identifier was issued twice. -/
theorem answersInOrder (hissues : service.IssuesOnce ((service.after log).issued + 1))
    (hr : r.IsFor (.guarded (x.endpoint k)))
    (hadmits : service.Admits .access now (service.after log) r caller) :
    service.AnswersInOrder now (service.after log) x k caller r := by
  obtain ⟨ops, hdb, -⟩ := exists_after hissues.others log
  have hgate : service.Gate now (service.after log) := gate service now Database.sound_fresh hdb
  have hresponse := hgate.admits _ r caller hr hadmits
  have hobjection := objectionTo_handleGuarded hissues now x k caller r
  have hrefused : ∀ f, x.objection? (service.after log).database.store k caller r = some f →
      (service.respond now r (service.after log)).1 = f.sent r.method := by
    intro f hf
    rw [hresponse, responseOf_of_objection (hobjection.trans hf)]
  constructor
  case refused => exact hrefused
  case answered =>
    intro hnone
    rw [hresponse, Http.Response.status_sent]
    exact status_of_no_objection (hobjection.trans hnone)
  case foreign =>
    intro hforeign e r' hr' hmethod hnot
    rw [hrefused _ hforeign, hgate.refuses e r' hr' hnot, hmethod]
    rfl
  case missing =>
    intro f hf hstatus
    rcases Errand.objection?_cases hf with ⟨message, rfl⟩ | hmissing | rfl
    · exact absurd hstatus (show 422 ≠ 404 by decide)
    · exact hmissing
    · exact absurd hstatus (show 401 ≠ 404 by decide)

/-- Of a body without fields and an identifier that is not there, the body is objected to. -/
theorem answersInOrder_of_two_faults :
    let log : List (Instant × Http.Request) := [(.ofSeconds 0, ⟨"POST", ⟨"/user/create", none⟩, [],
      Utf8.encode "\x7b\"name\":\"anna\",\"password\":\"secret\"\x7d"⟩)]
    let token : String := Token.ofPayload "secret"
      (⟨.uniform 1, .uniform 2, .access, 0, 900⟩ : Claims).toJson.text
    let r : Http.Request := ⟨"PUT", ⟨"/groups/modifyGroup", none⟩,
      [("authorization", Http.headerBytes ("Bearer " ++ token))], Utf8.encode "\x7b\x7d"⟩
    solitary.Admits .access (.ofSeconds 1) (solitary.after log) r (.uniform 1) ∧
      (Errand.modify.objection? (solitary.after log).database.store .group (.uniform 1) r).map
        (·.status) = some 422 ∧
      solitary.AnswersInOrder (.ofSeconds 1) (solitary.after log) .modify .group (.uniform 1) r := by
  intro log token r
  have hissued : (solitary.after log).issued = 3 := by decide +kernel
  have hissues : solitary.IssuesOnce ((solitary.after log).issued + 1) :=
    issuesOnce_solitary (by omega)
  have hr : r.IsFor (.guarded (Errand.modify.endpoint .group)) :=
    ⟨rfl, List.mem_singleton_self _⟩
  have hsession : ⟨.uniform 2, .uniform 1, .value (some 604800)⟩ ∈
      (solitary.after log).database.store.sessions := by
    decide +kernel
  have hnow : (Instant.ofSeconds 1).seconds ≤ (900 : UInt64).toNat := by decide
  have hadmits : solitary.Admits .access (.ofSeconds 1) (solitary.after log) r (.uniform 1) :=
    admits_ofPayload ⟨.uniform 1, .uniform 2, .access, 0, 900⟩ rfl hnow (by decide) hsession
  have hobjection : (Errand.modify.objection? (solitary.after log).database.store .group
      (.uniform 1) r).map (·.status) = some 422 := by
    decide +kernel
  exact ⟨hadmits, hobjection, answersInOrder hissues hr hadmits⟩

end Service

end AlertService
