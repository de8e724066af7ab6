import AlertService.Proofs.Http.Bearer
import AlertService.Proofs.Service.Routes
import AlertService.Proofs.Service.Sending
import AlertService.Proofs.Store.Sessions
import AlertService.Proofs.Token.RoundTrip

/-!
# Who is let in

A token opens the endpoints of its kind while its session is live: an access token those that need
a caller, a refresh token the one that issues new tokens. Everyone else is told the same, whatever
the reason and whatever else is wrong with the request.

* `Service.Admits`: the request brings such a token.
* `Service.Gate`: what follows from that for all requests.
* `gate`: it holds in every world that calls lead to.
-/

namespace AlertService

namespace Service

open Handler World

/-- The request brings a token of that kind which is verified now, and there is a session with the
identifier and of the user that the token names, without an expiry or with one to come. -/
def Admits (service : Service) (kind : TokenKind) (now : Instant) (w : World) (r : Http.Request)
    (user : Uuid) : Prop :=
  ∃ token claims, r.Bears token ∧ service.tokens.verify now token kind = some claims ∧
    claims.subject = user ∧ ∃ x ∈ w.database.store.sessions, x.id = claims.session ∧
      x.user = user ∧
        (x.expiry = .value none ∨ ∃ e, x.expiry = .value (some e) ∧ now.seconds < e)

/-- The user that the request is admitted as, if it is. -/
def admitted? (service : Service) (kind : TokenKind) (now : Instant) (w : World)
    (r : Http.Request) : Option Uuid :=
  ((service.claims? now r kind).filter fun claims =>
    w.database.store.sessionIsLive now.seconds claims.session claims.subject).map Claims.subject

variable {service : Service} {kind : TokenKind} {now : Instant} {r : Http.Request} {w : World}
  {user : Uuid} {claims : Claims}

theorem claims?_eq_some : service.claims? now r kind = some claims ↔
    ∃ token, r.Bears token ∧ service.tokens.verify now token kind = some claims := by
  simp only [claims?, Option.bind_eq_some_iff, Http.bearerToken?_eq_some]

/-- A token that the service signed says what was signed until it expires. -/
theorem claims?_ofPayload (claims : Claims) (hr : r.headers = [("authorization", Http.headerBytes
    ("Bearer " ++ Token.ofPayload service.tokens.secret claims.toJson.text))])
    (hnow : now.seconds ≤ claims.expiresAt.toNat) :
    service.claims? now r claims.kind = some claims := by
  refine claims?_eq_some.mpr ⟨_, Token.bears_ofPayload _ _ hr, ?_⟩
  exact (TokenService.verify_ofPayload claims now claims.kind).trans (if_pos ⟨rfl, hnow⟩)

/-- It admits whom it names to what is for its kind, while the session is there. -/
theorem admits_ofPayload (claims : Claims) (hr : r.headers = [("authorization", Http.headerBytes
    ("Bearer " ++ Token.ofPayload service.tokens.secret claims.toJson.text))])
    (hnow : now.seconds ≤ claims.expiresAt.toNat) {expiry : Int} (hexpiry : now.seconds < expiry)
    (hsession : ⟨claims.session, claims.subject, .value (some expiry)⟩ ∈
      w.database.store.sessions) :
    service.Admits claims.kind now w r claims.subject := by
  obtain ⟨token, hbears, hverify⟩ := claims?_eq_some.mp (claims?_ofPayload claims hr hnow)
  exact ⟨token, claims, hbears, hverify, rfl, _, hsession, rfl, rfl, .inr ⟨expiry, rfl, hexpiry⟩⟩

theorem admitted?_eq_some (hw : w.database.store.Typed) :
    service.admitted? kind now w r = some user ↔ service.Admits kind now w r user := by
  have hlive : ∀ x ∈ w.database.store.sessions, x.isLive now.seconds = true ↔
      (x.expiry = .value none ∨ ∃ e, x.expiry = .value (some e) ∧ now.seconds < e) := by
    intro x hx
    obtain ⟨expiry, he⟩ := hw.expiries x hx
    rw [Session.isLive_iff he, he]
    cases expiry <;> simp
  simp only [admitted?, Option.map_eq_some_iff, Option.filter_eq_some_iff, claims?_eq_some,
    Store.sessionIsLive_iff]
  constructor
  · rintro ⟨claims, ⟨⟨token, hbears, hverify⟩, x, hx, hid, huser, h⟩, rfl⟩
    exact ⟨token, claims, hbears, hverify, rfl, x, hx, hid, huser, (hlive x hx).mp h⟩
  · rintro ⟨token, claims, hbears, hverify, rfl, x, hx, hid, huser, h⟩
    exact ⟨claims, ⟨⟨token, hbears, hverify⟩, x, hx, hid, huser, (hlive x hx).mpr h⟩, rfl⟩

theorem admitted?_eq_none (hw : w.database.store.Typed) :
    service.admitted? kind now w r = none ↔ ∀ user, ¬service.Admits kind now w r user := by
  rw [Option.eq_none_iff_forall_ne_some]
  exact forall_congr' fun user => not_congr (admitted?_eq_some hw)

/-! ## Callers -/

/-- The caller is the user that is admitted by an access token. Nothing is changed by asking. -/
theorem authenticate_apply (hw : w.database.poisoned = false) :
    service.authenticate now r w =
      match service.admitted? .access now w r with
      | some user => (.ok user, w)
      | none => (.error .unauthenticated, w) := by
  unfold authenticate admitted?
  cases service.claims? now r .access with
  | none => rfl
  | some claims =>
    have hask : Handler.ask (fun s : Store => .ok (s.sessionIsLive now.seconds claims.session
        claims.subject)) w =
          (.ok (w.database.store.sessionIsLive now.seconds claims.session claims.subject), w) :=
      ask_of_ok hw rfl
    simp only [bind_apply, hask, Option.filter_some]
    cases w.database.store.sessionIsLive now.seconds claims.session claims.subject <;> rfl

theorem respond_admitted {e : GuardedEndpoint} (hw : w.database.poisoned = false)
    (hr : r.IsFor (.guarded e)) (h : service.admitted? .access now w r = some user) :
    service.respond now r w =
      ((responseOf ((service.handleGuarded now e user r w).1.map some)).sent r.method,
        (service.handleGuarded now e user r w).2) := by
  have hanswer : service.answer now (.guarded e) r w =
      ((service.handleGuarded now e user r w).1.map some,
        (service.handleGuarded now e user r w).2) := by
    rw [answer_guarded service now hr, bind_apply, authenticate_apply hw, h]
    exact map_apply
  rw [respond_of_isFor service now hr, hanswer]

theorem respond_not_admitted {e : GuardedEndpoint} (hw : w.database.poisoned = false)
    (hr : r.IsFor (.guarded e)) (h : service.admitted? .access now w r = none) :
    service.respond now r w = ((Failure.response .unauthenticated).sent r.method, w) := by
  have hanswer : service.answer now (.guarded e) r w = (.error .unauthenticated, w) := by
    rw [answer_guarded service now hr, bind_apply, authenticate_apply hw, h]
  rw [respond_of_isFor service now hr, hanswer]
  rfl

/-! ## New tokens -/

/-- The session of the refresh token that the request brings has been replaced. -/
def Renews (service : Service) (now : Instant) (r : Http.Request) (w w' : World) : Prop :=
  ∃ claims expiry s, service.claims? now r .refresh = some claims ∧
    w.database.store.rotateSession now.seconds claims.session claims.subject
      (service.ids w.issued) expiry = .ok s ∧
    w'.database = { w.database with store := s }

theorem runs_replaceSession {expiry : Int} (hw : w.database.poisoned = false) :
    Runs (· = w) (service.replaceSession now claims expiry)
      (fun _ w' => ∃ s, w.database.store.rotateSession now.seconds claims.session claims.subject
        (service.ids w.issued) expiry = .ok s ∧ w'.database = { w.database with store := s })
      fun failure w' => w.Idle w' ∧ ∃ e, failure = .ofStore e ∧
        w.database.store.rotateSession now.seconds claims.session claims.subject
          (service.ids w.issued) expiry = .error e := by
  refine runs_bind (runs_freshId (Q := fun id w' => w.Idle w' ∧ id = service.ids w.issued) ?_)
    fun id => ?_
  · rintro _ rfl
    exact ⟨(idle_refl _).issue, rfl⟩
  refine runs_of_and fun hid => ?_
  subst hid
  refine runs_reply (runs_change ?_ ?_)
  · intro w' s hidle _ hs
    rw [hidle.database] at hs ⊢
    exact ⟨s, hs, rfl⟩
  · intro w' e hidle herror
    rw [hidle.database] at herror
    cases hrotate : w.database.store.rotateSession now.seconds claims.session claims.subject
      (service.ids w.issued) expiry with
    | ok s =>
      rw [Database.call_of_ok hw (by rw [hrotate]; rfl)] at herror
      exact nomatch herror
    | error e' =>
      rw [Database.call_of_error hw (by rw [hrotate]; rfl)] at herror
      cases herror
      exact ⟨hidle, e, rfl, rfl⟩

theorem runs_replaceSession_of_not_live {expiry : Int} (hw : w.database.poisoned = false)
    (h : w.database.store.sessionIsLive now.seconds claims.session claims.subject = false) :
    Runs (· = w) (service.replaceSession now claims expiry) (fun _ _ => False) fun failure w' =>
      w.Idle w' ∧ failure = .missing "session" := by
  refine (runs_replaceSession hw).mono (fun _ hw => hw) ?_ ?_
  · rintro - w' ⟨s, hs, -⟩
    rw [Store.rotateSession_of_not_live h] at hs
    exact nomatch hs
  · rintro _ w' ⟨hidle, e, rfl, he⟩
    rw [Store.rotateSession_of_not_live h] at he
    cases he
    exact ⟨hidle, rfl⟩

/-- A live session can be replaced by any that is not there. -/
theorem runs_replaceSession_of_live {expiry : Int} (hw : w.database.Sound)
    (h : w.database.store.sessionIsLive now.seconds claims.session claims.subject = true) :
    Runs (· = w) (service.replaceSession now claims expiry)
      (fun _ w' => ∃ s, w.database.store.rotateSession now.seconds claims.session claims.subject
        (service.ids w.issued) expiry = .ok s ∧ w'.database = { w.database with store := s })
      fun _ _ => ∃ x ∈ w.database.store.sessions, x.id = service.ids w.issued := by
  refine (runs_replaceSession hw.poisoned).mono (fun _ hw => hw) (fun _ _ hs => hs) ?_
  rintro failure w' ⟨-, e, -, he⟩
  by_contra hfree
  obtain ⟨t, ht⟩ := hw.coherent.rotateSession_of_live expiry h
    fun x hx hid => hfree ⟨x, hx, hid⟩
  exact nomatch ht.symm.trans he

/-- New tokens come with a new session. Without a live one to be replaced nothing changes and the
token is not found; with one only an identifier that is taken is in the way. -/
theorem runs_refresh_renews (service : Service) (now : Instant) (r : Http.Request)
    (hw : w.database.Sound) :
    Runs (· = w) (service.refresh now r) (fun _ => service.Renews now r w) fun failure w' =>
      match service.admitted? .refresh now w r with
      | none => (service.tokens.CanIssue now → failure = .missing "refresh token") ∧ w.Idle w'
      | some _ => service.tokens.CanIssue now →
        ∃ x ∈ w.database.store.sessions, x.id = service.ids w.issued := by
  unfold refresh admitted? Renews
  cases service.claims? now r .refresh with
  | none =>
    refine runs_throw ?_
    rintro _ rfl
    exact ⟨fun _ => rfl, idle_refl _⟩
  | some claims =>
    rw [Option.filter_some]
    cases hlive : w.database.store.sessionIsLive now.seconds claims.session claims.subject with
    | false =>
      refine runs_bind (runs_require (Q := fun _ => (· = w)) (fun _ _ hw _ => hw) ?_)
        fun expiry => ?_
      · rintro _ rfl hnone
        exact ⟨fun hnow => absurd hnone hnow.sessionExpiry_ne_none, idle_refl _⟩
      refine runs_bind (R := fun _ _ => False) (runs_tryCatch
        (runs_replaceSession_of_not_live hw.poisoned hlive) fun failure => ?_) fun _ _ hf => hf.elim
      refine runs_of_and fun hfailure => ?_
      subst hfailure
      exact runs_throw fun _ hidle => ⟨fun _ => rfl, hidle⟩
    | true =>
      refine runs_bind (runs_require (Q := fun _ => (· = w)) (fun _ _ hw _ => hw)
        fun _ _ hnone hnow => absurd hnone hnow.sessionExpiry_ne_none) fun expiry => ?_
      refine runs_bind (runs_tryCatch (runs_replaceSession_of_live hw hlive) fun failure => ?_)
        fun session => ?_
      · split <;> exact runs_throw fun _ htaken _ => htaken
      · refine runs_reply (runs_require ?_ fun _ _ hnone hnow =>
          absurd hnone (hnow.issuePair_ne_none _ _))
        rintro w' - ⟨s, hs, hdb⟩ -
        exact ⟨claims, expiry, s, rfl, hs, hdb⟩

/-- A refresh token whose session is gone costs an identifier. -/
theorem refresh_of_not_live (hw : w.database.poisoned = false)
    (hnow : service.tokens.CanIssue now) (hclaims : service.claims? now r .refresh = some claims)
    (hlive : w.database.store.sessionIsLive now.seconds claims.session claims.subject = false) :
    service.refresh now r w =
      (.error (.missing "refresh token"), { w with issued := w.issued + 1 }) := by
  obtain ⟨expiry, hexpiry⟩ := Option.ne_none_iff_exists'.mp hnow.sessionExpiry_ne_none
  have hreplace : service.replaceSession now claims expiry w =
      (.error (.missing "session"), { w with issued := w.issued + 1 }) := by
    show (Handler.change _ >>= _) { w with issued := w.issued + 1 } = _
    have hcall : w.database.call (fun s => (s.rotateSession now.seconds claims.session
        claims.subject (service.ids w.issued) expiry).map fun s => ((), s)) =
          (.error (.notFound "session"), w.database) :=
      Database.call_of_error hw (by rw [Store.rotateSession_of_not_live hlive]; rfl)
    simp only [bind_apply, change, store, hcall]
    rfl
  unfold refresh
  simp only [hclaims, hexpiry, bind_apply, tryCatch_apply, require, hreplace]
  rfl
/-- The session that is replaced admits its token until then. -/
theorem admitted?_of_renews {w' : World} (h : service.Renews now r w w') :
    service.admitted? .refresh now w r ≠ none := by
  obtain ⟨claims, expiry, s, hclaims, hs, -⟩ := h
  simp [admitted?, hclaims, Option.filter_some, Store.live_of_rotateSession hs]

theorem refresh_not_admitted (hw : w.database.Sound)
    (h : service.admitted? .refresh now w r = none) :
    ∃ failure w', service.refresh now r w = (.error failure, w') ∧ w.Idle w' ∧
      (service.tokens.CanIssue now → failure = .missing "refresh token") := by
  have hrun := runs_refresh_renews service now r hw w rfl
  rw [h] at hrun
  generalize service.refresh now r w = result at hrun ⊢
  rcases result with ⟨failure | reply, w'⟩
  · exact ⟨failure, w', rfl, hrun.2, hrun.1⟩
  · exact absurd h (admitted?_of_renews hrun)

/-! ## All requests -/

/-- Who is let in at a time, in a world. -/
structure Gate (service : Service) (now : Instant) (w : World) : Prop where
  /-- A caller is a user who is admitted by an access token. -/
  callers : ∀ r user,
    (service.authenticate now r w).1 = .ok user ↔ service.Admits .access now w r user
  /-- For that caller the endpoint does its work, and it makes the response. -/
  admits : ∀ e r user, r.IsFor (.guarded e) → service.Admits .access now w r user →
      service.respond now r w =
        ((responseOf ((service.handleGuarded now e user r w).1.map some)).sent r.method,
          (service.handleGuarded now e user r w).2)
  /-- Without a caller nothing is done, and there is one response whatever the reason. -/
  refuses : ∀ e r, r.IsFor (.guarded e) → (∀ user, ¬service.Admits .access now w r user) →
      service.respond now r w =
        ((Http.Response.make 401 (some (.object [("message", .string "unauthorized")]))).sent
          r.method, w)
  /-- New tokens are for those who are admitted by a refresh token. -/
  renews : ∀ r, r.IsFor (.anyone .refresh) → service.tokens.CanIssue now →
    (∀ x ∈ w.database.store.sessions, x.id ≠ service.ids w.issued) →
      ((service.respond now r w).1.status = 200 ↔
        ∃ user, service.Admits .refresh now w r user)
  /-- Everyone else is told that there is no such token, and no row changes. -/
  withholds : ∀ r, r.IsFor (.anyone .refresh) → service.tokens.CanIssue now →
    (∀ user, ¬service.Admits .refresh now w r user) →
      (service.respond now r w).1 = (Http.Response.make 404
        (some (.object [("message", .string "refresh token not found")]))).sent r.method ∧
        (service.respond now r w).2.database = w.database ∧
        (service.respond now r w).2.handed = w.handed
  /-- No token admits to both, at whatever times. -/
  apart : ∀ token now₁ now₂ w₁ w₂ r₁ r₂ user₁ user₂, r₁.Bears token → r₂.Bears token →
    service.Admits .access now₁ w₁ r₁ user₁ → ¬service.Admits .refresh now₂ w₂ r₂ user₂

theorem not_admits_both {token : String} {now₁ now₂ : Instant} {w₁ w₂ : World}
    {r₁ r₂ : Http.Request} {user₁ user₂ : Uuid} (h₁ : r₁.Bears token) (h₂ : r₂.Bears token)
    (haccess : service.Admits .access now₁ w₁ r₁ user₁) :
    ¬service.Admits .refresh now₂ w₂ r₂ user₂ := by
  rintro ⟨token₂, claims₂, hbears₂, hverify₂, -⟩
  obtain ⟨token₁, claims₁, hbears₁, hverify₁, -⟩ := haccess
  obtain rfl := hbears₁.unique h₁
  obtain rfl := hbears₂.unique h₂
  rw [TokenService.verify_other hverify₁ (by decide)] at hverify₂
  exact nomatch hverify₂

/-- In every world that calls lead to, requests are let in by live sessions alone. -/
theorem gate (service : Service) (now : Instant) {d : Database} {ops : List Operation}
    (hd : d.Sound) (hw : w.database = d.run ops) : service.Gate now w := by
  have hsound : w.database.Sound := hw ▸ hd.run ops
  constructor
  case callers =>
    intro r user
    rw [authenticate_apply hsound.poisoned, ← admitted?_eq_some hsound.typed]
    cases service.admitted? .access now w r <;> simp
  case admits =>
    intro e r user hr hadmits
    exact respond_admitted hsound.poisoned hr
      ((admitted?_eq_some hsound.typed).mpr hadmits)
  case refuses =>
    intro e r hr hnot
    exact respond_not_admitted hsound.poisoned hr
      ((admitted?_eq_none hsound.typed).mpr hnot)
  case renews =>
    intro r hr hnow hid
    rw [respond_anyone service now hr, Http.Response.status_sent]
    simp only [handleOpen]
    have hrun := runs_refresh_renews service now r hsound w rfl
    generalize service.refresh now r w = result at hrun ⊢
    rcases result with ⟨failure | reply, w'⟩
    · refine iff_of_false failure.status_ne ?_
      rintro ⟨user, hadmits⟩
      rw [(admitted?_eq_some hsound.typed).mpr hadmits] at hrun
      obtain ⟨x, hx, htaken⟩ := hrun hnow
      exact hid x hx htaken
    · refine iff_of_true (by cases reply <;> rfl) ?_
      obtain ⟨user, huser⟩ := Option.ne_none_iff_exists'.mp (admitted?_of_renews hrun)
      exact ⟨user, (admitted?_eq_some hsound.typed).mp huser⟩
  case withholds =>
    intro r hr hnow hnot
    obtain ⟨failure, w', hrefresh, hidle, hmissing⟩ :=
      refresh_not_admitted hsound ((admitted?_eq_none hsound.typed).mpr hnot)
    obtain rfl := hmissing hnow
    rw [respond_anyone service now hr]
    simp only [handleOpen, hrefresh]
    exact ⟨rfl, hidle.database, hidle.handed⟩
  case apart =>
    intro token now₁ now₂ w₁ w₂ r₁ r₂ user₁ user₂ h₁ h₂
    exact not_admits_both h₁ h₂

/-- A user has a session that is live at the time. -/
theorem gate_of_session :
    let ops : List Operation := [.createUser (.uniform 0) "anna" "hash",
      .createSession 0 (.uniform 1) (.uniform 0) 60]
    let w : World := ⟨.after ops, 2, []⟩
    w.database.store.sessionIsLive 5 (.uniform 1) (.uniform 0) = true ∧
      solitary.Gate (.ofSeconds 5) w := by
  intro ops w
  have hlive : w.database.store.sessionIsLive 5 (.uniform 1) (.uniform 0) = true := by decide
  have hw : w.database = Database.fresh.run ops := rfl
  exact ⟨hlive, gate solitary (.ofSeconds 5) Database.sound_fresh hw⟩

end Service

end AlertService
