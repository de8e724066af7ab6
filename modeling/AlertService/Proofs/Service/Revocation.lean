import AlertService.Proofs.Service.Authentication

/-!
# Revoked tokens stay revoked

A token is as good as its session. Once the session has ended, be it that it was replaced, that its
user was deleted or that its time has come, no token for it is good for anything, whoever made it
and however well it is signed. As a refresh token ends its session by being used, it is used once.

* `Service.Revokes`: what this means for the requests of a run.
* `revokes`: it holds of every run in which sessions have identifiers of their own.
-/

namespace AlertService

namespace Service

open Handler World Database

variable {service : Service} {kind : TokenKind} {now : Instant} {r : Http.Request} {w : World}
  {d : Database} {ops : List Operation} {session : Uuid} {past : Int} {token : String}

/-! ## Requests that are not let in -/

/-- What a request is told of a session that has ended. -/
theorem admitted?_ended (hd : d.Sound) (hfresh : d.OpensOnce ops)
    (hended : d.Ended session past ops) (hclock : past ≤ now.seconds) (hw : w.database = d.run ops)
    (hsession : ∀ claims, service.claims? now r kind = some claims → claims.session = session) :
    service.admitted? kind now w r = none := by
  refine Option.eq_none_iff_forall_ne_some.mpr fun user hadmitted => ?_
  obtain ⟨claims, hclaims, -⟩ := Option.map_eq_some_iff.mp hadmitted
  obtain ⟨hclaims, hlive⟩ := Option.filter_eq_some_iff.mp hclaims
  rw [hsession claims hclaims, hw, hended.not_live hd hfresh hclock] at hlive
  exact nomatch hlive

/-- A request that brings a token names the session that the token names. -/
theorem session_of_claims? (hbears : r.Bears token) (hnames : Token.Names token session) :
    ∀ claims, service.claims? now r kind = some claims → claims.session = session := by
  intro claims hclaims
  obtain ⟨token', hbears', hverify⟩ := claims?_eq_some.mp hclaims
  obtain rfl := hbears'.unique hbears
  exact TokenService.session_of_verify hnames hverify

theorem not_refreshed (hw : w.database.Sound) (hr : r.IsFor (.anyone .refresh))
    (h : service.admitted? .refresh now w r = none) :
    (service.respond now r w).1.status ≠ 200 ∧
      (service.respond now r w).2.database = w.database := by
  obtain ⟨failure, w', hrefresh, hidle, -⟩ := refresh_not_admitted hw h
  rw [respond_anyone service now hr, Http.Response.status_sent]
  simp only [handleOpen, hrefresh]
  exact ⟨failure.status_ne, hidle.database⟩

/-- A refresh that succeeds replaces the session of its token. -/
theorem renews_of_refresh (hw : w.database.Sound) (hr : r.IsFor (.anyone .refresh))
    (hstatus : (service.respond now r w).1.status = 200) :
    service.Renews now r w (service.respond now r w).2 := by
  rw [respond_anyone service now hr, Http.Response.status_sent] at hstatus
  rw [respond_anyone service now hr]
  simp only [handleOpen] at hstatus ⊢
  have hrun := runs_refresh_renews service now r hw w rfl
  generalize service.refresh now r w = result at hstatus hrun ⊢
  rcases result with ⟨failure | reply, w'⟩
  · exact absurd hstatus failure.status_ne
  · exact hrun

/-! ## Runs -/

/-- What requests are told in the course of a run of calls, when their sessions have ended. -/
structure Revokes (service : Service) (d : Database) (ops : List Operation) : Prop where
  /-- A session that has ended is not live later on. -/
  dead : ∀ ops₁ ops₂, ops₁ ++ ops₂ <+: ops → ∀ session past now, d.Ended session past ops₁ →
    past ≤ now → ∀ user, (d.run (ops₁ ++ ops₂)).store.sessionIsLive now session user = false
  /-- Nobody is let in by a token that names it. -/
  refused : ∀ ops₁ ops₂, ops₁ ++ ops₂ <+: ops → ∀ session past now w r token e,
    d.Ended session past ops₁ → past ≤ now.seconds → w.database = d.run (ops₁ ++ ops₂) →
    r.IsFor (.guarded e) → r.Bears token → Token.Names token session →
      service.respond now r w = ((Failure.response .unauthenticated).sent r.method, w)
  /-- Nor is there anything new in exchange for such a token. -/
  withheld : ∀ ops₁ ops₂, ops₁ ++ ops₂ <+: ops → ∀ session past now w r token,
    d.Ended session past ops₁ → past ≤ now.seconds → w.database = d.run (ops₁ ++ ops₂) →
    r.IsFor (.anyone .refresh) → r.Bears token → Token.Names token session →
      (service.respond now r w).1.status ≠ 200 ∧
        (service.respond now r w).2.database = w.database
  /-- A refresh that succeeds makes one call, which replaces a session. After that call, whichever
  others come in between and whatever the clock says, no refresh with the same token succeeds. -/
  once : ∀ ops₁ now₁ w₁ r₁ token, w₁.database = d.run ops₁ → r₁.IsFor (.anyone .refresh) →
    r₁.Bears token → (service.respond now₁ r₁ w₁).1.status = 200 →
      ∃ op old user expiry,
        op = .rotateSession now₁.seconds old user (service.ids w₁.issued) expiry ∧
        (service.respond now₁ r₁ w₁).2.database = d.run (ops₁ ++ [op]) ∧
        ∀ ops₂ now₂ w₂ r₂, ops₁ ++ op :: ops₂ <+: ops → w₂.database = d.run (ops₁ ++ op :: ops₂) →
          r₂.IsFor (.anyone .refresh) → r₂.Bears token →
            (service.respond now₂ r₂ w₂).1.status ≠ 200 ∧
              (service.respond now₂ r₂ w₂).2.database = w₂.database

/-- Whatever calls are made, in whatever order: as long as sessions have identifiers of their own,
one that has ended lets nobody in again. -/
theorem revokes (service : Service) (hd : d.Sound) (hfresh : d.OpensOnce ops) :
    service.Revokes d ops := by
  constructor
  case dead =>
    intro ops₁ ops₂ hops session past now hended hclock user
    exact (hended.append ops₂).not_live hd (hfresh.of_prefix hops) hclock user
  case refused =>
    intro ops₁ ops₂ hops session past now w r token e hended hclock hw hr hbears hnames
    have hsound : w.database.Sound := hw ▸ hd.run _
    exact respond_not_admitted hsound.poisoned hr (admitted?_ended hd (hfresh.of_prefix hops)
      (hended.append ops₂) hclock hw (session_of_claims? hbears hnames))
  case withheld =>
    intro ops₁ ops₂ hops session past now w r token hended hclock hw hr hbears hnames
    have hsound : w.database.Sound := hw ▸ hd.run _
    exact not_refreshed hsound hr (admitted?_ended hd (hfresh.of_prefix hops)
      (hended.append ops₂) hclock hw (session_of_claims? hbears hnames))
  case once =>
    intro ops₁ now₁ w₁ r₁ token hw₁ hr₁ hbears₁ hstatus
    have hsound₁ : w₁.database.Sound := hw₁ ▸ hd.run ops₁
    obtain ⟨claims, expiry, s, hclaims, hs, hdb⟩ := renews_of_refresh hsound₁ hr₁ hstatus
    rw [hw₁] at hs hdb
    have hop : (Operation.rotateSession now₁.seconds claims.session claims.subject
        (service.ids w₁.issued) expiry).apply (d.run ops₁).store = .ok s := hs
    refine ⟨_, claims.session, claims.subject, expiry, rfl, ?_,
      fun ops₂ now₂ w₂ r₂ hops hw₂ hr₂ hbears₂ => ?_⟩
    · rw [hdb, run_append, run_cons, perform_of_ok (hd.run ops₁).poisoned hop]
      rfl
    · have hsound : w₂.database.Sound := hw₂ ▸ hd.run _
      -- the session of the token is gone, so the clock does not matter
      refine not_refreshed hsound hr₂ (admitted?_ended hd (hfresh.of_prefix hops)
        (.replaced hs) (Int.le_refl now₂.seconds) hw₂ fun claims₂ hclaims₂ => ?_)
      obtain ⟨token₁, hbears, hverify₁⟩ := claims?_eq_some.mp hclaims
      obtain ⟨token₂, hbears', hverify₂⟩ := claims?_eq_some.mp hclaims₂
      obtain rfl := hbears.unique hbears₁
      obtain rfl := hbears'.unique hbears₂
      rw [TokenService.verify_unique hverify₂ hverify₁]

/-- A session is replaced by another one. -/
theorem revokes_of_replaced :
    let ops : List Operation := [.createUser (.uniform 0) "anna" "hash",
      .createSession 0 (.uniform 1) (.uniform 0) 60,
      .rotateSession 5 (.uniform 1) (.uniform 0) (.uniform 2) 65]
    Database.fresh.Ended (.uniform 1) 5 ops ∧ Database.fresh.OpensOnce ops ∧
      solitary.Revokes .fresh ops := by
  intro ops
  have hrotated : (Database.fresh.run [.createUser (.uniform 0) "anna" "hash",
      .createSession 0 (.uniform 1) (.uniform 0) 60]).store.rotateSession 5 (.uniform 1)
        (.uniform 0) (.uniform 2) 65 = .ok (Database.fresh.run ops).store := rfl
  have hfresh : Database.fresh.OpensOnce ops := by
    unfold OpensOnce
    decide
  exact ⟨.replaced hrotated, hfresh, revokes solitary sound_fresh hfresh⟩

end Service

end AlertService
