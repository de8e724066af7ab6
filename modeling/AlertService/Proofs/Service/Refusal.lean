import AlertService.Proofs.Service.Authentication
import AlertService.Proofs.Service.Worlds
import AlertService.Proofs.Store.Supply

/-!
# Refused requests change nothing

No request is covered by one transaction, and some make several calls of the store. All the same a
request that is refused leaves the database as it was: what comes after the last call that may fail
does not fail. For someone who signs up this is a session under an identifier that no other session
has, for a user who is there, and tokens for it.

* `runs_signUp_refused`: signing up fails before the user is there.
* `respond_refused`: a response that tells of a failure comes from an unchanged world.
-/

namespace AlertService

namespace Service

open Handler World

variable {service : Service} {now : Instant} {r : Http.Request} {body : Bytes} {w₀ w : World}
  {log : List (Instant × Http.Request)}

/-- No session is under an identifier that is issued after `w`, as long as none is issued twice. -/
def Unused (service : Service) (w : World) : Prop :=
  ∀ n i, service.IssuesOnce n → w.issued ≤ i → i < n →
    ∀ x ∈ w.database.store.sessions, x.id ≠ service.ids i

/-- The user has just been added, and the sessions are those of `w₀`. -/
structure Added (user : Uuid) (w₀ w : World) : Prop where
  user : w.database.store.hasUser user = true
  sessions : w.database.store.sessions = w₀.database.store.sessions
  poisoned : w.database.poisoned = false
  issued : w₀.issued ≤ w.issued

/-- The first session of a new user can be opened. -/
theorem runs_openSession_added {user : Uuid} (hclock : now.IsCurrent) (h₀ : service.Unused w₀) :
    Runs (Added user w₀) (service.openSession now user) (fun _ _ => True)
      fun _ w => ¬service.IssuesOnce w.issued := by
  refine runs_bind (runs_require (Q := fun _ => Added user w₀) (fun _ _ hw _ => hw)
    fun _ _ h => absurd h ((hclock.canIssue _).sessionExpiry_ne_none)) fun expiry => ?_
  refine runs_bind (runs_freshId (Q := fun id w => Added user w₀ w ∧ service.Issued w₀ w id)
    fun w hw => ⟨⟨hw.user, hw.sessions, hw.poisoned, Nat.le_succ_of_le hw.issued⟩, w.issued,
      hw.issued, Nat.lt_succ_self _, rfl⟩) fun session => ?_
  refine runs_bind (runs_change (Q := fun _ _ => True) (fun _ _ _ _ _ => trivial) ?_) fun _ => ?_
  · rintro w e ⟨hw, i, hi, hlt, rfl⟩ herror hissues
    have hid : ∀ x ∈ w.database.store.sessions, x.id ≠ service.ids i := by
      rw [hw.sessions]
      exact h₀ w.issued i hissues hi hlt
    obtain ⟨t, ht⟩ := Store.exists_createSession now.seconds expiry hw.user hid
    rw [Database.call_of_ok hw.poisoned (by rw [ht]; rfl)] at herror
    exact nomatch herror
  · exact runs_require (fun _ _ _ _ => trivial) fun _ _ h =>
      absurd h ((hclock.canIssue _).issuePair_ne_none _ _)

theorem runs_signUp_refused (hclock : now.IsCurrent) (h₀ : service.Unused w₀) :
    Runs w₀.Idle (service.signUp now body) (fun _ _ => True)
      fun _ w => service.IssuesOnce w.issued → w₀.Idle w := by
  refine runs_bind (runs_payload_idle.mono (fun _ hw => hw) (fun _ _ hw => hw)
    fun _ _ hw _ => hw) fun credentials => ?_
  refine runs_bind (runs_hashPassword_idle.mono (fun _ hw => hw) (fun _ _ hw => hw)
    fun _ _ hw _ => hw) fun hash => ?_
  refine runs_bind runs_freshId_idle fun user => ?_
  refine runs_bind (runs_change (Q := fun _ => Added user w₀) ?_ fun _ _ hw _ _ => hw.1)
    fun _ => ?_
  · rintro w s ⟨hw, -⟩ hp hs
    obtain ⟨-, -, rfl⟩ := Store.createUser_eq_ok.mp hs
    refine ⟨?_, by rw [hw.database], hp, hw.issued⟩
    exact Store.hasUser_iff.mpr ⟨_, List.mem_append_right _ (List.mem_singleton_self _), rfl⟩
  · exact (runs_reply (Q := fun _ => True) (runs_openSession_added hclock h₀)).mono
      (fun _ hw => hw) (fun _ _ _ => trivial) fun _ _ hw hissues => absurd hissues hw

theorem survives_true : service.Survives fun _ => True :=
  ⟨fun _ _ _ => trivial, fun _ _ _ _ _ _ => trivial⟩

theorem runs_answer_refused {e : Endpoint} (hclock : now.IsCurrent) (h₀ : service.Unused w₀) :
    Runs (· = w₀) (service.answer now e r) (fun reply w => reply = none → w₀.Idle w)
      fun _ w => service.IssuesOnce w.issued → w₀.Idle w := by
  have hidle : ∀ w, w = w₀ → w₀.Idle w := by
    rintro w rfl
    exact idle_refl w
  have hanswered : ∀ {h : Handler Reply} {P : World → Prop} {Q : Reply → World → Prop},
      Runs P h Q (fun _ => w₀.Idle) →
      Runs P h (fun x w => some x = none → w₀.Idle w)
        fun _ w => service.IssuesOnce w.issued → w₀.Idle w :=
    fun hr => hr.mono (fun _ hw => hw) (fun _ _ _ h => nomatch h) fun _ _ hw _ => hw
  refine runs_answer (fun _ hw _ => hw) (fun _ _ hw _ => hw) ?_ ?_
  · rintro e rfl
    cases e with
    | health => exact runs_pure fun _ _ h => nomatch h
    | signUp =>
      exact (runs_signUp_refused hclock h₀).mono hidle (fun _ _ _ h => nomatch h) fun _ _ hw => hw
    | logIn =>
      refine hanswered (runs_logIn.mono (fun _ hw => hw) (fun _ _ hw => hw) ?_)
      rintro _ w (hw | ⟨user, -, -, session, hnone⟩)
      · exact hw
      · exact absurd hnone ((hclock.canIssue _).issuePair_ne_none _ _)
    | refresh =>
      refine hanswered (runs_refresh.mono (fun _ hw => hw) (fun _ _ hw => hw) ?_)
      rintro _ w (hw | ⟨claims, -, -, session, hnone⟩)
      · exact hw
      · exact absurd hnone ((hclock.canIssue _).issuePair_ne_none _ _)
    | botUpdate =>
      refine hanswered ((runs_botUpdate (I := fun _ => True) (fun _ _ => trivial)
        (fun _ _ _ _ => trivial) (fun _ _ _ _ => trivial) survives_true).mono hidle
        (fun _ _ hw => hw) fun _ _ hw => hw)
  · rintro e caller rfl -
    by_cases hsend : e = .sendBatch
    · subst hsend
      exact hanswered (runs_sendBatch (I := fun _ _ => True) (fun _ _ _ _ _ _ _ _ _ => trivial)
        (fun _ => survives_true) fun _ _ _ _ _ _ _ _ => trivial)
    · exact hanswered (runs_handleGuarded hsend)

theorem unused_after (log : List (Instant × Http.Request)) : service.Unused (service.after log) :=
  fun _ _ hissues hi hn _ hx => ne_of_session hissues hx hi hn

theorem status_of_failure (f : Failure) :
    (responseOf (.error f)).status ∈ [401, 404, 405, 409, 422, 500] := by
  show f.status ∈ _
  cases f <;> simp [Failure.status]

theorem status_of_reply (reply : Reply) : (responseOf (.ok (some reply))).status = 200 := by
  cases reply <;> rfl

/-- Whatever requests have come before, one that is answered with a failure changes no row of any
table, and nothing is handed to the notifier. The time is one of the years 1970 to 9999, and no
identifier was issued twice. -/
theorem respond_refused (hclock : now.IsCurrent)
    (hissues : service.IssuesOnce (service.respond now r (service.after log)).2.issued)
    (hstatus : ¬(200 ≤ (service.respond now r (service.after log)).1.status ∧
      (service.respond now r (service.after log)).1.status < 300)) :
    (service.respond now r (service.after log)).1.status ∈ [401, 404, 405, 409, 422, 500] ∧
      (service.respond now r (service.after log)).2.database = (service.after log).database ∧
      (service.respond now r (service.after log)).2.handed = (service.after log).handed := by
  rcases respond_cases service now r (service.after log) with ⟨hw, hs | hs⟩ | ⟨e, -, hw, hs⟩
  · rw [hs] at hstatus
    exact absurd (by decide) hstatus
  · rw [hw, hs]
    exact ⟨by decide, rfl, rfl⟩
  · have hunused : service.Unused (service.after log) := unused_after log
    have hrun := runs_answer_refused (r := r) (e := e) hclock hunused _ rfl
    rw [hw] at hissues ⊢
    rw [hs] at hstatus ⊢
    generalize service.answer now e r (service.after log) = result at *
    rcases result with ⟨f | reply, w⟩
    · have hidle := hrun hissues
      exact ⟨status_of_failure f, hidle.database, hidle.handed⟩
    · cases reply with
      | none =>
        have hidle := hrun rfl
        exact ⟨(by decide : 405 ∈ [401, 404, 405, 409, 422, 500]), hidle.database, hidle.handed⟩
      | some reply =>
        rw [status_of_reply] at hstatus
        exact absurd (by decide) hstatus

/-- A refresh takes a lapsed session out before it finds that its own is gone, and leaves it there. -/
theorem respond_refused_refresh :
    let signUp : Http.Request := ⟨"POST", ⟨"/user/create", none⟩, [],
      Utf8.encode "\x7b\"name\":\"anna\",\"password\":\"secret\"\x7d"⟩
    let claims : Claims := ⟨.uniform 1, .uniform 9, .refresh, 604800, 1209600⟩
    let r : Http.Request := ⟨"PUT", ⟨"/user/refreshToken", none⟩, [("authorization",
      Http.headerBytes ("Bearer " ++ Token.ofPayload "secret" claims.toJson.text))], []⟩
    let lapsed : Session := ⟨.uniform 2, .uniform 1, .value (some 604800)⟩
    let w := solitary.after [(.ofSeconds 0, signUp)]
    let answer := solitary.respond (.ofSeconds 604801) r w
    lapsed ∈ w.database.store.sessions ∧
      (w.database.store.pruneSessions 604801 (.uniform 1)).sessions = [] ∧
      answer.1.status = 404 ∧ answer.2.database = w.database ∧ answer.2.handed = w.handed := by
  intro signUp claims r lapsed w answer
  have hclock : (Instant.ofSeconds 604801).IsCurrent := ⟨by decide, by decide⟩
  have hnow : (Instant.ofSeconds 604801).seconds ≤ claims.expiresAt.toNat := by decide
  have hclaims : solitary.claims? (.ofSeconds 604801) r .refresh = some claims :=
    claims?_ofPayload claims rfl hnow
  have hfor : r.IsFor (.anyone .refresh) := ⟨rfl, by decide⟩
  -- nothing else is needed of the request
  clear_value r
  have hissued : w.issued = 3 := by decide +kernel
  have hgone : w.database.store.sessionIsLive 604801 (.uniform 9) (.uniform 1) = false := by
    decide +kernel
  have hrefresh : solitary.refresh (.ofSeconds 604801) r w =
      (.error (.missing "refresh token"), { w with issued := w.issued + 1 }) :=
    refresh_of_not_live (by decide +kernel) (hclock.canIssue _) hclaims hgone
  have hanswer : answer = ((Failure.response (.missing "refresh token")).sent r.method,
      { w with issued := w.issued + 1 }) := by
    show solitary.respond _ _ _ = _
    rw [respond_anyone solitary _ hfor w, handleOpen, hrefresh]
    rfl
  have hstatus : answer.1.status = 404 := by
    rw [hanswer, Http.Response.status_sent]
    rfl
  have hissues : solitary.IssuesOnce answer.2.issued := by
    rw [hanswer]
    exact issuesOnce_solitary (show w.issued + 1 ≤ 16 by omega)
  have hfailed : ¬(200 ≤ answer.1.status ∧ answer.1.status < 300) := by omega
  have hrefused := respond_refused hclock hissues hfailed
  exact ⟨by decide +kernel, by decide +kernel, hstatus, hrefused.2⟩

end Service

end AlertService
