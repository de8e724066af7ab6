import AlertService.Proofs.Service.Authentication
import AlertService.Proofs.Store.Holdings

/-!
# Requests change nothing of other users

A request is answered on behalf of one user at most. Whatever it asks for, and whatever identifiers
it names, all that other users own stays as it is. Deleting goes along references, and these stay
with one owner in every store that a run can lead to.

* `Notifier.Spares`: what others do meanwhile has nothing to do with a user.
* `respond_spares`: what a request leaves alone.
-/

namespace AlertService

/-- While messages are handed over after these, others leave alone what the user owns. -/
def Notifier.Spares (notifier : Notifier) (user : Uuid) (handed : List Message) : Prop :=
  ∀ before m f, handed <+: before → notifier.meanwhile before m = some f →
    ∀ s : Store, s.Coherent → (f s).Coherent ∧ (f s).holdings user = s.holdings user

/-- Since `w₀`, the rows of the user have stayed as they were. -/
structure World.Spares (user : Uuid) (w₀ w : World) : Prop where
  coherent : w.database.store.Coherent
  holdings : w.database.store.holdings user = w₀.database.store.holdings user
  handed : w₀.handed <+: w.handed

namespace Service

open Handler World

variable {service : Service} {now : Instant} {caller user : Uuid} {r : Http.Request}
  {w₀ w : World}

theorem spares_of_idle (h₀ : w₀.database.store.Coherent) (h : w₀.Idle w) : Spares user w₀ w where
  coherent := h.database ▸ h₀
  holdings := by rw [h.database]
  handed := h.handed ▸ List.prefix_rfl

theorem spares_of_caller {op : Operation} {own : Holdings} (hop : op.caller? = some caller)
    (hne : caller ≠ user) : op.Spares user own := by
  have hother : op.caller? ≠ some user := by
    rw [hop]
    exact fun he => hne (Option.some.inj he)
  cases op
  case completeNotification => exact nomatch hop
  all_goals exact hother

/-- Calls on behalf of one user leave alone what another one owns. -/
theorem spares_of_acts (h₀ : w₀.database.store.Coherent) (hne : caller ≠ user)
    (h : service.Acts caller w₀ w) : Spares user w₀ w := by
  obtain ⟨hhanded, -, ops, hdb, hops⟩ := h
  have hspares : ∀ op ∈ ops, op.Spares user (w₀.database.store.holdings user) :=
    fun op hop => spares_of_caller (hops op hop).1 hne
  obtain ⟨hcoherent, hholdings⟩ := Database.holdings_run h₀ hspares
  rw [← hdb] at hcoherent hholdings
  exact ⟨hcoherent, hholdings, hhanded ▸ List.prefix_rfl⟩

theorem survives_spares (h : service.notifier.Spares user w₀.handed) {c : Prop} :
    service.Survives fun w => Spares user w₀ w ∧ c where
  handed w m hw :=
    ⟨⟨hw.1.coherent, hw.1.holdings, hw.1.handed.trans (List.prefix_append _ _)⟩, hw.2⟩
  meanwhile w m f hw _ hf := by
    obtain ⟨hcoherent, hholdings⟩ := h w.handed m f hw.1.handed hf _ hw.1.coherent
    exact ⟨⟨hcoherent, hholdings.trans hw.1.holdings, hw.1.handed⟩, hw.2⟩

theorem runs_sendBatch_spares (h₀ : w₀.database.store.Coherent) (hne : caller ≠ user)
    (hnotifier : service.notifier.Spares user w₀.handed) :
    Runs w₀.Idle (service.sendBatch now caller r) (fun _ => Spares user w₀)
      fun _ => Spares user w₀ := by
  refine (runs_sendBatch (I := fun ds w => Spares user w₀ w ∧ ∀ d ∈ ds,
    ∀ n ∈ (w₀.database.store.holdings user).notifications, n.id ≠ d.notification)
    ?_ (fun ds => survives_spares hnotifier) ?_).mono (fun _ hw => hw)
    (fun _ _ ⟨ds, hw⟩ => hw.1) fun _ _ hw => spares_of_idle h₀ hw
  · intro w i batch ds s hw _ _ hs
    rw [hw.database] at hs
    refine ⟨⟨h₀.startBatch hs, h₀.holdings_startBatch hne hs, hw.handed ▸ List.prefix_rfl⟩, ?_⟩
    exact fun d hd n hn => h₀.ne_of_mem_deliveries hs hd (List.mem_of_mem_filter hn)
  · -- the notifications of the batch are not the other user's
    intro ds d hd w s hw _ hs
    refine ⟨⟨hw.1.coherent.completeNotification hs, ?_, hw.1.handed⟩, hw.2⟩
    refine (Store.holdings_completeNotification ?_ hs).trans hw.1.holdings
    rw [hw.1.holdings]
    exact hw.2 d hd

theorem runs_botUpdate_spares (h₀ : w₀.database.store.Coherent)
    (hnotifier : service.notifier.Spares user w₀.handed) :
    Runs w₀.Idle (service.botUpdate r) (fun _ => Spares user w₀) fun _ => Spares user w₀ := by
  refine (runs_botUpdate (I := fun w => Spares user w₀ w ∧ True)
    (fun w hw => ⟨spares_of_idle h₀ hw, trivial⟩) ?_ ?_ (survives_spares hnotifier)).mono
    (fun _ hw => hw) (fun _ _ hw => hw.1) fun _ _ hw => spares_of_idle h₀ hw
  · intro w chat hw _
    have hs : Spares user w₀ w := spares_of_idle h₀ hw
    exact ⟨⟨hs.coherent.activateContact chat,
      (Store.holdings_activateContact chat).trans hs.holdings, hs.handed⟩, trivial⟩
  · intro w chat hw _
    have hs : Spares user w₀ w := spares_of_idle h₀ hw
    exact ⟨⟨hs.coherent.deactivateContact chat,
      (Store.holdings_deactivateContact chat).trans hs.holdings, hs.handed⟩, trivial⟩

theorem spares_of_acted (h₀ : w₀.database.store.Coherent)
    (hother : service.actor? now r w₀ ≠ some user) (h : service.Acted now r w₀ w) :
    Spares user w₀ w := by
  rcases h with hw | ⟨caller, hc, hw⟩
  · exact spares_of_idle h₀ hw
  · refine spares_of_acts h₀ ?_ hw
    rintro rfl
    exact hother hc

theorem runs_answer_spares {e : Endpoint} (he : Endpoint.ofPath? r.target.path = some e)
    (h₀ : w₀.database.store.Coherent) (hnotifier : service.notifier.Spares user w₀.handed)
    (hother : service.actor? now r w₀ ≠ some user) :
    Runs (· = w₀) (service.answer now e r) (fun _ => Spares user w₀) fun _ => Spares user w₀ := by
  refine runs_answer (fun _ => spares_of_idle h₀) (fun _ _ => spares_of_idle h₀) ?_ ?_
  · rintro e rfl
    by_cases hbot : e = .botUpdate
    · subst hbot
      exact (runs_botUpdate_spares h₀ hnotifier).mono (fun w hw => hw ▸ idle_refl w)
        (fun _ _ hw => hw) fun _ _ hw => hw
    · exact (runs_handleOpen he hbot).mono (fun _ hw => hw)
        (fun _ _ => spares_of_acted h₀ hother) fun _ _ => spares_of_acted h₀ hother
  · rintro e caller rfl hcaller
    have hne : caller ≠ user := by
      rintro rfl
      refine hother ?_
      simp only [actor?, he, hcaller, Except.toOption]
    by_cases hsend : e = .sendBatch
    · subst hsend
      exact runs_sendBatch_spares h₀ hne hnotifier
    · exact (runs_handleGuarded hsend).mono (fun _ hw => hw)
        (fun _ _ => spares_of_acts h₀ hne) fun _ _ => spares_of_idle h₀

/-- In whatever state runs of calls have left the database, a request leaves alone all that a user
owns on whose behalf it is not answered. Updates of the bot are answered on behalf of nobody. -/
theorem respond_spares {ops : List Operation} (hw : w.database = .after ops)
    (hnotifier : service.notifier.Spares user w.handed)
    (hother : service.actor? now r w ≠ some user ∨ r.target.path = "/telegram/update") :
    (service.respond now r w).2.database.store.holdings user =
      w.database.store.holdings user := by
  have h₀ : w.database.store.Coherent := hw ▸ Database.coherent_run Database.coherent_fresh ops
  have hactor : service.actor? now r w ≠ some user := by
    refine hother.elim (fun h => h) fun hpath => ?_
    have he : Endpoint.ofPath? r.target.path = some (.anyone .botUpdate) := by
      rw [hpath]
      rfl
    simp [actor?, he]
  rcases respond_cases service now r w with ⟨h, -⟩ | ⟨e, he, h, -⟩
  · rw [h]
  · have hrun := runs_answer_spares he h₀ hnotifier hactor w rfl
    rw [h]
    generalize service.answer now e r w = result at hrun ⊢
    rcases result with ⟨_ | _, w'⟩ <;> exact hrun.holdings

/-- Of two users with a group each, one is deleted. -/
theorem respond_spares_deleteUser :
    let rows : Uuid → Uuid → Uuid → List Operation := fun owner recipient group =>
      [.insertDraft .recipient recipient owner ⟨"carl", none, none, some 7⟩,
        .confirmDraft .recipient owner recipient recipient,
        .insertDraft .group group owner ⟨"staff", true, none⟩,
        .confirmDraft .group owner group group, .addMember owner group recipient]
    let ops : List Operation := [.createUser (.uniform 0) "anna" "hash",
      .createUser (.uniform 1) "bo" "hash", .createSession 0 (.uniform 2) (.uniform 1) 60] ++
        rows (.uniform 0) (.uniform 3) (.uniform 4) ++ rows (.uniform 1) (.uniform 5) (.uniform 6)
    let claims : Claims := ⟨.uniform 1, .uniform 2, .access, 0, 60⟩
    let r : Http.Request := ⟨"DELETE", ⟨"/user", none⟩, [("authorization",
      Http.headerBytes ("Bearer " ++ Token.ofPayload "secret" claims.toJson.text))], []⟩
    let w : World := ⟨.after ops, 7, []⟩
    let answer := solitary.respond (.ofSeconds 30) r w
    solitary.actor? (.ofSeconds 30) r w = some (.uniform 1) ∧
      w.database.store.memberships =
        [⟨.uniform 4, .uniform 3⟩, ⟨.uniform 6, .uniform 5⟩] ∧
      answer.2.database.store.memberships = [⟨.uniform 4, .uniform 3⟩] ∧
      answer.2.database.store.holdings (.uniform 0) =
        w.database.store.holdings (.uniform 0) := by
  intro rows ops claims r w answer
  have hw : w.database = .after ops := rfl
  have hsound : w.database.Sound := hw ▸ Database.sound_after ops
  have hnow : (Instant.ofSeconds 30).seconds ≤ claims.expiresAt.toNat := by decide
  have hsession : ⟨.uniform 2, .uniform 1, .value (some 60)⟩ ∈ w.database.store.sessions := by
    decide +kernel
  have hadmits : solitary.Admits .access (.ofSeconds 30) w r (.uniform 1) :=
    admits_ofPayload claims rfl hnow (by decide) hsession
  have hcaller : solitary.admitted? .access (.ofSeconds 30) w r = some (.uniform 1) :=
    (admitted?_eq_some hsound.typed).mpr hadmits
  have hfor : r.IsFor (.guarded .deleteUser) := ⟨rfl, by decide⟩
  have hpath : Endpoint.ofPath? r.target.path = some (.guarded .deleteUser) := rfl
  -- nothing else is needed of the request
  clear_value r
  have hactor : solitary.actor? (.ofSeconds 30) r w = some (.uniform 1) := by
    simp only [actor?, hpath, authenticate_apply hsound.poisoned, hcaller]
    rfl
  have hhandler : solitary.handleGuarded (.ofSeconds 30) .deleteUser (.uniform 1) r =
      deleteUser (.uniform 1) := rfl
  have hanswer : answer.2 = (deleteUser (.uniform 1) w).2 := by
    show (solitary.respond _ _ _).2 = _
    rw [respond_admitted hsound.poisoned hfor hcaller, hhandler]
  refine ⟨hactor, by decide +kernel, ?_, respond_spares hw ?_ ?_⟩
  · rw [hanswer]
    decide +kernel
  · exact fun _ _ _ _ h => nomatch h
  · exact Or.inl (by rw [hactor]; decide)

end Service

end AlertService
