import AlertService.Proofs.Service.Handler
import AlertService.Proofs.Store.Operation
import AlertService.Service.Router

/-!
# Requests as calls of the store

What requests do to the database comes down to calls on behalf of one user. Most requests make one
call at most, and as the last thing that can fail, so that one that failed made none. Sending a
batch is left out here, as are signing up and the bot.

* `World.Idle`: the database is as it was.
* `Service.Acts`: the service has made calls on behalf of one user.
* `runs_handleGuarded`: so it does for all who are authenticated, unless it fails.
-/

namespace AlertService

/-- Since `w₀`, fresh material was used up and nothing else was done. -/
structure World.Idle (w₀ w : World) : Prop where
  database : w.database = w₀.database
  handed : w.handed = w₀.handed
  issued : w₀.issued ≤ w.issued

namespace World

variable {w₀ w : World}

theorem idle_refl (w : World) : w.Idle w := ⟨rfl, rfl, Nat.le_refl _⟩

theorem Idle.issue (h : w₀.Idle w) : w₀.Idle { w with issued := w.issued + 1 } :=
  ⟨h.database, h.handed, Nat.le_succ_of_le h.issued⟩

end World

namespace Service

open Handler World

/-- The identifier was issued since `w₀`. -/
def Issued (service : Service) (w₀ w : World) (id : Uuid) : Prop :=
  ∃ i, w₀.issued ≤ i ∧ i < w.issued ∧ id = service.ids i

/-- Since `w₀`, the service has made calls on behalf of the caller and nothing else was done. New
rows are under identifiers issued since then. -/
structure Acts (service : Service) (caller : Uuid) (w₀ w : World) : Prop where
  handed : w.handed = w₀.handed
  issued : w₀.issued ≤ w.issued
  database : ∃ ops, w.database = w₀.database.run ops ∧ ∀ op ∈ ops,
    op.caller? = some caller ∧ ∀ id, op.generated? = some id → service.Issued w₀ w id

variable {service : Service} {now : Instant} {caller : Uuid} {w₀ w : World} {α : Type}
  {P : World → Prop} {E : Failure → World → Prop}

theorem Issued.mono {id : Uuid} {w₁ w₂ : World} (h : service.Issued w₀ w id)
    (h₁ : w₁.issued ≤ w₀.issued) (h₂ : w.issued ≤ w₂.issued) : service.Issued w₁ w₂ id := by
  obtain ⟨i, hi, hlt, he⟩ := h
  exact ⟨i, Nat.le_trans h₁ hi, Nat.lt_of_lt_of_le hlt h₂, he⟩

theorem acts_of_idle (h : w₀.Idle w) : service.Acts caller w₀ w :=
  ⟨h.handed, h.issued, [], h.database, by simp⟩

theorem runs_acts_of_idle {h : Handler α} (hr : Runs P h (fun _ => w₀.Idle) E) :
    Runs P h (fun _ => service.Acts caller w₀) E :=
  hr.mono (fun _ hw => hw) (fun _ _ hw => acts_of_idle hw) fun _ _ hw => hw

/-! ## Steps that do nothing -/

theorem runs_payload_idle {read : Json.Reader α} {body : Bytes} :
    Runs w₀.Idle (Handler.payload read body) (fun _ => w₀.Idle) fun _ => w₀.Idle :=
  runs_payload (fun _ _ hw _ => hw) fun _ _ hw => hw

theorem runs_id_idle {r : Http.Request} {name label : String} :
    Runs w₀.Idle (Handler.id r name label) (fun _ => w₀.Idle) fun _ => w₀.Idle :=
  runs_id (fun _ _ hw _ => hw) fun _ hw => hw

theorem runs_ask_idle {f : Store → Except StoreError α} :
    Runs w₀.Idle (Handler.ask f) (fun _ => w₀.Idle) fun _ => w₀.Idle :=
  runs_ask (fun _ _ hw _ => hw) fun _ _ hw => hw

theorem runs_require_idle {x : Option α} :
    Runs w₀.Idle (Handler.require x) (fun _ => w₀.Idle) fun _ => w₀.Idle :=
  runs_require (fun _ _ hw _ => hw) fun _ hw _ => hw

theorem runs_issue_idle : Runs w₀.Idle Handler.issue (fun _ => w₀.Idle) E :=
  runs_issue fun _ hw => hw.issue

theorem runs_freshId_idle :
    Runs w₀.Idle service.freshId (fun id w => w₀.Idle w ∧ service.Issued w₀ w id) E :=
  runs_freshId fun w hw => ⟨hw.issue, w.issued, hw.issued, Nat.lt_succ_self _, rfl⟩

/-! ## A call -/

theorem eq_ok_of_map_unit {ε σ : Type} {x : Except ε σ} {u : Unit} {t : σ}
    (h : x.map (fun s => ((), s)) = .ok (u, t)) : x = .ok t := by
  obtain ⟨s, hs, he⟩ := map_eq_ok.mp h
  rw [hs, (Prod.mk.inj he).2]

theorem map_snd_eq_ok {ε σ : Type} {x : Except ε (α × σ)} {a : α} {t : σ} (h : x = .ok (a, t)) :
    x.map Prod.snd = .ok t :=
  map_eq_ok.mpr ⟨_, h, rfl⟩

/-- A successful call on behalf of the caller is one more. -/
theorem runs_call {f : Store → Except StoreError (α × Store)} (op : Operation)
    (hf : ∀ s x t, f s = .ok (x, t) → op.apply s = .ok t) (hcaller : op.caller? = some caller)
    (hP : ∀ w, P w → service.Acts caller w₀ w ∧
      ∀ id, op.generated? = some id → service.Issued w₀ w id)
    (hE : ∀ w e, P w → E e w) :
    Runs P (Handler.store f) (fun _ => service.Acts caller w₀) E := by
  refine runs_store (fun w x s hw hp h => ?_) fun w e hw _ => hE w _ hw
  obtain ⟨⟨hhanded, hissued, ops, hdb, hops⟩, hgen⟩ := hP w hw
  refine ⟨hhanded, hissued, ops ++ [op], ?_, ?_⟩
  · rw [Database.run_append, ← hdb]
    exact (Database.perform_of_ok hp (hf _ _ _ h)).symm
  · intro op' hop
    rcases List.mem_append.mp hop with hop | hop
    · exact hops op' hop
    · rw [List.mem_singleton.mp hop]
      exact ⟨hcaller, hgen⟩

/-- The call does nothing before it. -/
theorem runs_call_idle {f : Store → Except StoreError (α × Store)} (op : Operation)
    (hf : ∀ s x t, f s = .ok (x, t) → op.apply s = .ok t) (hcaller : op.caller? = some caller)
    (hgen : op.generated? = none) :
    Runs w₀.Idle (Handler.store f) (fun _ => service.Acts caller w₀) fun _ => w₀.Idle :=
  runs_call op hf hcaller (fun _ hw => ⟨acts_of_idle hw, by simp [hgen]⟩) fun _ _ hw => hw

theorem runs_call_fresh {f : Store → Except StoreError (α × Store)} {id : Uuid} (op : Operation)
    (hf : ∀ s x t, f s = .ok (x, t) → op.apply s = .ok t) (hcaller : op.caller? = some caller)
    (hgen : op.generated? = some id) :
    Runs (fun w => w₀.Idle w ∧ service.Issued w₀ w id) (Handler.store f)
      (fun _ => service.Acts caller w₀) fun _ => w₀.Idle := by
  refine runs_call op hf hcaller (fun _ hw => ⟨acts_of_idle hw.1, ?_⟩) fun _ _ hw => hw.1
  intro id' hid
  obtain rfl := Option.some.inj (hgen.symm.trans hid)
  exact hw.2

/-! ## Requests of those who are authenticated -/

section Guarded

variable {k : Kind} {r : Http.Request} {body : Bytes}

theorem runs_hashPassword_idle {password : String} :
    Runs w₀.Idle (service.hashPassword password) (fun _ => w₀.Idle) fun _ => w₀.Idle := by
  refine runs_bind runs_issue_idle fun salt => ?_
  refine runs_bind runs_require_idle fun hash => ?_
  exact runs_pure fun _ hw => hw

theorem runs_modifyUser : Runs w₀.Idle (service.modifyUser caller body)
    (fun _ => service.Acts caller w₀) fun _ => w₀.Idle := by
  refine runs_bind runs_payload_idle fun credentials => ?_
  refine runs_bind runs_hashPassword_idle fun hash => ?_
  exact runs_reply (runs_call_idle (.updateUser caller credentials.name hash)
    (fun _ _ _ => eq_ok_of_map_unit) rfl rfl)

theorem runs_deleteUser : Runs w₀.Idle (deleteUser caller)
    (fun _ => service.Acts caller w₀) fun _ => w₀.Idle :=
  runs_reply (runs_call_idle (.deleteUser caller) (fun _ _ _ => eq_ok_of_map_unit) rfl rfl)

theorem runs_create : Runs w₀.Idle (service.create caller k body)
    (fun _ => service.Acts caller w₀) fun _ => w₀.Idle := by
  refine runs_bind runs_payload_idle fun fields => ?_
  refine runs_bind runs_freshId_idle fun id => ?_
  exact runs_reply (runs_call_fresh (.insertDraft k id caller fields)
    (fun _ _ _ => eq_ok_of_map_unit) rfl rfl)

theorem runs_confirm : Runs w₀.Idle (service.confirm caller k r)
    (fun _ => service.Acts caller w₀) fun _ => w₀.Idle := by
  refine runs_bind runs_id_idle fun draft => ?_
  refine runs_bind runs_freshId_idle fun id => ?_
  exact runs_reply (runs_call_fresh (.confirmDraft k caller draft id)
    (fun _ _ _ => map_snd_eq_ok) rfl rfl)

theorem runs_getOne : Runs w₀.Idle (getOne caller k r) (fun _ => w₀.Idle) fun _ => w₀.Idle := by
  refine runs_bind runs_id_idle fun id => ?_
  exact runs_reply runs_ask_idle

theorem runs_modify : Runs w₀.Idle (modify caller k r)
    (fun _ => service.Acts caller w₀) fun _ => w₀.Idle := by
  refine runs_bind runs_payload_idle fun fields => ?_
  refine runs_bind runs_id_idle fun id => ?_
  exact runs_reply (runs_call_idle (.updateEntity k caller id fields)
    (fun _ _ _ => map_snd_eq_ok) rfl rfl)

theorem runs_delete : Runs w₀.Idle (delete caller k r)
    (fun _ => service.Acts caller w₀) fun _ => w₀.Idle := by
  refine runs_bind runs_id_idle fun id => ?_
  exact runs_reply (runs_call_idle (.deleteEntity k caller id)
    (fun _ _ _ => eq_ok_of_map_unit) rfl rfl)

theorem runs_membersOf : Runs w₀.Idle (membersOf caller r) (fun _ => w₀.Idle) fun _ => w₀.Idle := by
  refine runs_bind runs_id_idle fun group => ?_
  exact runs_reply runs_ask_idle

theorem runs_addMember : Runs w₀.Idle (addMember caller r)
    (fun _ => service.Acts caller w₀) fun _ => w₀.Idle := by
  refine runs_bind runs_id_idle fun group => ?_
  refine runs_bind runs_id_idle fun recipient => ?_
  exact runs_reply (runs_call_idle (.addMember caller group recipient)
    (fun _ _ _ => eq_ok_of_map_unit) rfl rfl)

theorem runs_removeMember : Runs w₀.Idle (removeMember caller r)
    (fun _ => service.Acts caller w₀) fun _ => w₀.Idle := by
  refine runs_bind runs_id_idle fun group => ?_
  refine runs_bind runs_id_idle fun recipient => ?_
  exact runs_reply (runs_call_idle (.removeMember caller group recipient)
    (fun _ _ _ => eq_ok_of_map_unit) rfl rfl)

theorem runs_getNotification : Runs w₀.Idle (getNotification caller r) (fun _ => w₀.Idle)
    fun _ => w₀.Idle := by
  refine runs_bind runs_id_idle fun id => ?_
  refine runs_bind runs_ask_idle fun n => ?_
  exact runs_reply runs_require_idle

theorem runs_notifications {pendingOnly : Bool} : Runs w₀.Idle (notifications caller pendingOnly)
    (fun _ => w₀.Idle) fun _ => w₀.Idle := by
  refine runs_bind runs_ask_idle fun ns => ?_
  exact runs_reply runs_require_idle

theorem runs_createBatch : Runs w₀.Idle (service.createBatch caller)
    (fun _ => service.Acts caller w₀) fun _ => w₀.Idle := by
  refine runs_bind runs_freshId_idle fun batch => ?_
  exact runs_reply (runs_call_fresh (.createBatch batch caller)
    (fun _ _ _ => eq_ok_of_map_unit) rfl rfl)

theorem runs_cancelNotification : Runs w₀.Idle (cancelNotification caller r)
    (fun _ => service.Acts caller w₀) fun _ => w₀.Idle := by
  refine runs_bind runs_id_idle fun id => ?_
  exact runs_reply (runs_call_idle (.cancelNotification caller id)
    (fun _ _ _ => eq_ok_of_map_unit) rfl rfl)

/-- Apart from sending batches, whatever an authenticated user asks for is done by calls on the
user's behalf. None was made by a request that fails. -/
theorem runs_handleGuarded {e : GuardedEndpoint} (he : e ≠ .sendBatch) :
    Runs w₀.Idle (service.handleGuarded now e caller r)
      (fun _ => service.Acts caller w₀) fun _ => w₀.Idle := by
  cases e with
  | deleteUser => exact runs_deleteUser
  | modifyUser => exact runs_modifyUser
  | getOne k => exact runs_acts_of_idle runs_getOne
  | getAll k => exact runs_acts_of_idle (runs_reply runs_ask_idle)
  | create k => exact runs_create
  | confirm k => exact runs_confirm
  | modify k => exact runs_modify
  | delete k => exact runs_delete
  | activeGroups => exact runs_acts_of_idle (runs_reply runs_ask_idle)
  | membersOf => exact runs_acts_of_idle runs_membersOf
  | addMember => exact runs_addMember
  | removeMember => exact runs_removeMember
  | getNotification => exact runs_acts_of_idle runs_getNotification
  | allNotifications => exact runs_acts_of_idle runs_notifications
  | pendingNotifications => exact runs_acts_of_idle runs_notifications
  | createBatch => exact runs_createBatch
  | sendBatch => exact absurd rfl he
  | cancelNotification => exact runs_cancelNotification

end Guarded

/-! ## Requests that open sessions -/

section Sessions

variable {r : Http.Request} {body : Bytes} {user : Uuid}

theorem Acts.issue (h : service.Acts caller w₀ w) :
    service.Acts caller w₀ { w with issued := w.issued + 1 } := by
  obtain ⟨hhanded, hissued, ops, hdb, hops⟩ := h
  refine ⟨hhanded, Nat.le_succ_of_le hissued, ops, hdb, fun op hop => ⟨(hops op hop).1, ?_⟩⟩
  exact fun id hid => ((hops op hop).2 id hid).mono (Nat.le_refl _) (Nat.le_succ _)

/-- The session is there before its tokens are made. -/
theorem runs_openSession (hP : ∀ w, P w → service.Acts user w₀ w)
    (hissue : ∀ w, P w → P { w with issued := w.issued + 1 }) :
    Runs P (service.openSession now user) (fun _ => service.Acts user w₀)
      fun _ w => P w ∨ service.Acts user w₀ w ∧
        ∃ session, service.tokens.issuePair now user session = none := by
  refine runs_bind (runs_require (Q := fun _ => P) (fun _ _ hw _ => hw)
    fun _ hw _ => Or.inl hw) fun expiry => ?_
  refine runs_bind (runs_freshId (Q := fun id w => P w ∧ service.Issued w₀ w id)
    fun w hw => ⟨hissue w hw, w.issued, (hP w hw).issued, Nat.lt_succ_self _, rfl⟩)
    fun session => ?_
  refine runs_bind (runs_call (.createSession now.seconds session user expiry)
    (fun _ _ _ => eq_ok_of_map_unit) rfl (fun w hw => ⟨hP w hw.1, ?_⟩)
    fun _ _ hw => Or.inl hw.1) fun _ => ?_
  · intro id hid
    obtain rfl := Option.some.inj hid
    exact hw.2
  · exact runs_require (fun _ _ hw _ => hw) fun _ hw hp => Or.inr ⟨hw, session, hp⟩

theorem runs_signUp : Runs (· = w₀) (service.signUp now body)
    (fun _ => service.Acts (service.ids (w₀.issued + 1)) w₀)
    fun _ => service.Acts (service.ids (w₀.issued + 1)) w₀ := by
  refine runs_bind (runs_payload (Q := fun _ w => w = w₀) (fun _ _ hw _ => hw) ?_)
    fun credentials => ?_
  · rintro _ _ rfl
    exact acts_of_idle (idle_refl _)
  -- the salt is the first thing issued and the identifier of the user the second
  refine runs_bind (R := fun _ w => w₀.Idle w ∧ w.issued = w₀.issued + 1) ?_ fun hash => ?_
  · refine runs_bind (runs_issue (Q := fun _ w => w₀.Idle w ∧ w.issued = w₀.issued + 1) ?_)
      fun salt => ?_
    · rintro _ rfl
      exact ⟨⟨rfl, rfl, Nat.le_succ _⟩, rfl⟩
    · exact runs_reply (runs_require (fun _ _ hw _ => hw) fun _ hw _ => acts_of_idle hw.1)
  refine runs_bind (runs_freshId (Q := fun user w => w₀.Idle w ∧
    user = service.ids (w₀.issued + 1)) ?_) fun user => ?_
  · rintro w ⟨hw, hi⟩
    exact ⟨hw.issue, congrArg service.ids hi⟩
  refine runs_of_and fun huser => ?_
  subst huser
  refine runs_bind (R := fun _ => service.Acts (service.ids (w₀.issued + 1)) w₀) ?_ fun _ => ?_
  · exact runs_call (.createUser _ credentials.name hash) (fun _ _ _ => eq_ok_of_map_unit) rfl
      (fun _ hw => ⟨acts_of_idle hw, fun _ h => nomatch h⟩) fun _ _ hw => acts_of_idle hw
  · refine runs_reply ((runs_openSession (fun _ hw => hw) fun _ hw => hw.issue).mono
      (fun _ hw => hw) (fun _ _ hw => hw) ?_)
    exact fun _ w hw => hw.elim (fun hw => hw) fun hw => hw.1

/-- The user that the credentials in the body name. -/
def namedUser? (body : Bytes) (w : World) : Option Uuid :=
  match (Handler.payload Credentials.shape.read body w).1 with
  | .ok credentials =>
    match w.database.store.userByName credentials.name with
    | .ok account? => account?.map Account.id
    | .error _ => none
  | .error _ => none

/-- Logging in that fails changes nothing, unless it is for want of tokens. -/
theorem runs_logIn : Runs (· = w₀) (service.logIn now body)
    (fun _ w => ∃ user, namedUser? body w₀ = some user ∧ service.Acts user w₀ w)
    fun _ w => w₀.Idle w ∨ ∃ user, namedUser? body w₀ = some user ∧ service.Acts user w₀ w ∧
      ∃ session, service.tokens.issuePair now user session = none := by
  refine runs_bind (runs_payload (Q := fun credentials w => w = w₀ ∧
    Handler.payload Credentials.shape.read body w₀ = (.ok credentials, w₀)) ?_ ?_)
    fun credentials => ?_
  · rintro _ _ rfl h
    exact ⟨rfl, h⟩
  · rintro _ _ rfl
    exact Or.inl (idle_refl _)
  refine runs_of_and fun hbody => ?_
  refine runs_bind (runs_ask (Q := fun account? w => w₀.Idle w ∧
    namedUser? body w₀ = account?.map Account.id) ?_ ?_) fun account? => ?_
  · rintro _ account? rfl h
    refine ⟨idle_refl _, ?_⟩
    simp only [namedUser?, hbody, h]
  · rintro _ _ rfl
    exact Or.inl (idle_refl _)
  refine runs_of_and fun hnamed => ?_
  cases account? with
  | none => exact runs_throw fun _ hw => Or.inl hw
  | some account =>
    refine runs_bind (R := fun _ => w₀.Idle) ?_ fun verified => ?_
    · exact runs_reply (runs_require (fun _ _ hw _ => hw) fun _ hw _ => Or.inl hw)
    · cases verified with
      | false => exact runs_throw fun _ hw => Or.inl hw
      | true =>
        refine runs_reply ((runs_openSession (fun _ => acts_of_idle) fun _ => Idle.issue).mono
          (fun _ hw => hw) (fun _ w hw => ⟨account.id, hnamed, hw⟩) ?_)
        exact fun _ w hw => hw.imp_right fun hw => ⟨account.id, hnamed, hw⟩

/-- So does refreshing. -/
theorem runs_refresh : Runs (· = w₀) (service.refresh now r)
    (fun _ w => ∃ claims, service.claims? now r .refresh = some claims ∧
      service.Acts claims.subject w₀ w)
    fun _ w => w₀.Idle w ∨ ∃ claims, service.claims? now r .refresh = some claims ∧
      service.Acts claims.subject w₀ w ∧
        ∃ session, service.tokens.issuePair now claims.subject session = none := by
  unfold refresh
  cases hclaims : service.claims? now r .refresh with
  | none =>
    refine runs_throw ?_
    rintro _ rfl
    exact Or.inl (idle_refl _)
  | some claims =>
    refine runs_bind (runs_require (Q := fun _ => w₀.Idle) ?_ ?_) fun expiry => ?_
    · rintro _ _ rfl _
      exact idle_refl _
    · rintro _ rfl _
      exact Or.inl (idle_refl _)
    refine runs_bind (runs_tryCatch (Q := fun _ => service.Acts claims.subject w₀)
      (F := fun _ => w₀.Idle) ?_ fun failure => ?_) fun session => ?_
    · refine runs_bind runs_freshId_idle fun session => ?_
      exact runs_reply (runs_call_fresh
        (.rotateSession now.seconds claims.session claims.subject session expiry)
        (fun _ _ _ => eq_ok_of_map_unit) rfl rfl)
    · split <;> exact runs_throw fun _ hw => Or.inl hw
    · refine runs_reply (runs_require (fun _ _ hw _ => ⟨claims, rfl, hw⟩) fun _ hw hp => ?_)
      exact Or.inr ⟨claims, rfl, hw, session, hp⟩

end Sessions

/-! ## On whose behalf -/

/-- The user on whose behalf a request is answered: the one that it authenticates, the one that
signs up or is named where it logs in, or the one that its token was issued to. -/
def actor? (service : Service) (now : Instant) (r : Http.Request) (w : World) : Option Uuid :=
  match Endpoint.ofPath? r.target.path with
  | some (.guarded _) => (service.authenticate now r w).1.toOption
  | some (.anyone .signUp) => some (service.ids (w.issued + 1))
  | some (.anyone .logIn) => namedUser? r.body w
  | some (.anyone .refresh) => (service.claims? now r .refresh).map Claims.subject
  | _ => none

/-- All that was done is on behalf of the user for whom the request is answered. -/
def Acted (service : Service) (now : Instant) (r : Http.Request) (w₀ w : World) : Prop :=
  w₀.Idle w ∨ ∃ user, service.actor? now r w₀ = some user ∧ service.Acts user w₀ w

variable {r : Http.Request}

theorem runs_authenticate : Runs w₀.Idle (service.authenticate now r) (fun _ => w₀.Idle)
    fun _ => w₀.Idle := by
  unfold authenticate
  split
  · exact runs_throw fun _ hw => hw
  · refine runs_bind runs_ask_idle fun live => ?_
    split
    · exact runs_pure fun _ hw => hw
    · exact runs_throw fun _ hw => hw

theorem runs_handleOpen {e : OpenEndpoint} (he : Endpoint.ofPath? r.target.path = some (.anyone e))
    (hbot : e ≠ .botUpdate) : Runs (· = w₀) (service.handleOpen now e r)
      (fun _ => service.Acted now r w₀) fun _ => service.Acted now r w₀ := by
  cases e with
  | health =>
    refine runs_pure ?_
    rintro _ rfl
    exact Or.inl (idle_refl _)
  | signUp =>
    have hactor : service.actor? now r w₀ = some (service.ids (w₀.issued + 1)) := by
      simp only [actor?, he]
    exact runs_signUp.mono (fun _ hw => hw) (fun _ _ hw => Or.inr ⟨_, hactor, hw⟩)
      fun _ _ hw => Or.inr ⟨_, hactor, hw⟩
  | logIn =>
    have hactor : service.actor? now r w₀ = namedUser? r.body w₀ := by simp only [actor?, he]
    refine runs_logIn.mono (fun _ hw => hw) ?_ ?_
    · rintro _ w ⟨user, hu, hw⟩
      exact Or.inr ⟨user, hactor.trans hu, hw⟩
    · rintro _ w (hw | ⟨user, hu, hw, -⟩)
      · exact Or.inl hw
      · exact Or.inr ⟨user, hactor.trans hu, hw⟩
  | refresh =>
    have hactor : service.actor? now r w₀ =
        (service.claims? now r .refresh).map Claims.subject := by simp only [actor?, he]
    refine runs_refresh.mono (fun _ hw => hw) ?_ ?_
    · rintro _ w ⟨claims, hc, hw⟩
      exact Or.inr ⟨claims.subject, by rw [hactor, hc, Option.map_some], hw⟩
    · rintro _ w (hw | ⟨claims, hc, hw, -⟩)
      · exact Or.inl hw
      · exact Or.inr ⟨claims.subject, by rw [hactor, hc, Option.map_some], hw⟩
  | botUpdate => exact absurd rfl hbot

/-! ## Responses -/

/-- An endpoint answers, unless the method is wrong or the caller is not authenticated. -/
theorem runs_answer {Q : Option Reply → World → Prop} {e : Endpoint}
    (hnone : ∀ w, w₀.Idle w → Q none w) (hrefused : ∀ f w, w₀.Idle w → E f w)
    (hopen : ∀ e', e = .anyone e' →
      Runs (· = w₀) (service.handleOpen now e' r) (fun x => Q (some x)) E)
    (hguarded : ∀ e' caller, e = .guarded e' → (service.authenticate now r w₀).1 = .ok caller →
      Runs w₀.Idle (service.handleGuarded now e' caller r) (fun x => Q (some x)) E) :
    Runs (· = w₀) (service.answer now e r) Q E := by
  have hidle : ∀ w, w = w₀ → w₀.Idle w := by
    rintro w rfl
    exact idle_refl w
  unfold answer
  cases e with
  | anyone e =>
    dsimp only
    split
    · exact runs_pure fun w hw => hnone w (hidle w hw)
    · exact runs_map (hopen e rfl)
  | guarded e =>
    refine runs_bind (runs_value (runs_authenticate.mono hidle (fun _ _ hw => hw)
      hrefused)) fun caller => ?_
    refine runs_of_and fun hcaller => ?_
    split
    · exact runs_pure hnone
    · exact runs_map (hguarded e caller rfl hcaller)

/-- Either nothing is done, or an endpoint answers and decides about the status. -/
theorem respond_cases (service : Service) (now : Instant) (r : Http.Request) (w : World) :
    ((service.respond now r w).2 = w ∧
      ((service.respond now r w).1.status = 200 ∨ (service.respond now r w).1.status = 404)) ∨
    ∃ e, Endpoint.ofPath? r.target.path = some e ∧
      (service.respond now r w).2 = (service.answer now e r w).2 ∧
      (service.respond now r w).1.status = (responseOf (service.answer now e r w).1).status := by
  have hmeasure : ∀ x : Http.Response × World,
      (if statesLength r.target.path then x.1 else x.1.withoutLength).status = x.1.status := by
    intro x
    split <;> rfl
  have hhead : ∀ x : Http.Response, (if r.method = "HEAD" then x.withoutBody else x).status =
      x.status := by
    intro x
    split <;> rfl
  have hrespond : (service.respond now r w).2 = (service.respondUnmeasured now r w).2 ∧
      (service.respond now r w).1.status = (service.respondUnmeasured now r w).1.status :=
    ⟨rfl, hmeasure _⟩
  rw [hrespond.1, hrespond.2]
  unfold respondUnmeasured
  by_cases ho : r.method = "OPTIONS"
  · rw [if_pos ho]
    exact Or.inl ⟨rfl, Or.inl rfl⟩
  · rw [if_neg ho]
    cases he : Endpoint.ofPath? r.target.path with
    | none => exact Or.inl ⟨rfl, Or.inr (hhead _)⟩
    | some e => exact Or.inr ⟨e, rfl, rfl, hhead _⟩

end Service

end AlertService
