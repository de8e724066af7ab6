import AlertService.Proofs.Service.Sending
import AlertService.Proofs.Store.Columns

/-!
# The worlds of a service

What requests lead to, one after the other. Whatever the requests are, their effect on the database
is that of a run of calls, made by the service itself or by others while messages were on their way.

* `Service.after`: the world after some requests.
* `exists_after`, `sound_after`: its database is the one after some run, and so in order.
* `ne_of_session`, `ne_of_entity`, `ne_of_draft`: nothing is under an identifier that was not issued yet.
-/

namespace AlertService

/-- What others do while messages are on their way are such calls of the store. -/
def Notifier.Calls (notifier : Notifier) (others : Operation → Prop) : Prop :=
  ∀ before m f, notifier.meanwhile before m = some f → ∀ d : Database, d.poisoned = false →
    ∃ ops, { d with store := f d.store } = d.run ops ∧ ∀ op ∈ ops, others op

namespace Service

open Handler World

/-- The world after the requests, each of which comes at its time. -/
def after (service : Service) (log : List (Instant × Http.Request)) : World :=
  log.foldl (fun w x => (service.respond x.1 x.2 w).2) .fresh

/-- Since `w₀`, the database has changed by calls alone. The service gave new rows identifiers that
it issued since then. -/
structure Leads (service : Service) (others : Operation → Prop) (w₀ w : World) : Prop where
  issued : w₀.issued ≤ w.issued
  database : ∃ ops, w.database = w₀.database.run ops ∧ ∀ op ∈ ops,
    others op ∨ ∀ id, op.generated? = some id → service.Issued w₀ w id

variable {service : Service} {others : Operation → Prop} {now : Instant} {caller : Uuid}
  {r : Http.Request} {w₀ w w' : World} {log : List (Instant × Http.Request)}

theorem after_concat (service : Service) (log : List (Instant × Http.Request))
    (x : Instant × Http.Request) :
    service.after (log ++ [x]) = (service.respond x.1 x.2 (service.after log)).2 :=
  List.foldl_concat _ _ _ _

theorem Leads.refl (w : World) : service.Leads others w w := ⟨Nat.le_refl _, [], rfl, by simp⟩

theorem Leads.trans (h : service.Leads others w₀ w) (h' : service.Leads others w w') :
    service.Leads others w₀ w' := by
  obtain ⟨hi, ops, hdb, hops⟩ := h
  obtain ⟨hi', ops', hdb', hops'⟩ := h'
  refine ⟨Nat.le_trans hi hi', ops ++ ops', ?_, fun op hop => ?_⟩
  · rw [Database.run_append, ← hdb, hdb']
  · rcases List.mem_append.mp hop with hop | hop
    · exact (hops op hop).imp_right fun h id hid => (h id hid).mono (Nat.le_refl _) hi'
    · exact (hops' op hop).imp_right fun h id hid => (h id hid).mono hi (Nat.le_refl _)

theorem leads_of_idle (h : w₀.Idle w) : service.Leads others w₀ w :=
  ⟨h.issued, [], h.database, by simp⟩

theorem leads_of_acts (h : service.Acts caller w₀ w) : service.Leads others w₀ w := by
  obtain ⟨-, hi, ops, hdb, hops⟩ := h
  exact ⟨hi, ops, hdb, fun op hop => Or.inr (hops op hop).2⟩

theorem leads_of_acted (h : service.Acted now r w₀ w) : service.Leads others w₀ w :=
  h.elim leads_of_idle fun ⟨_, _, hw⟩ => leads_of_acts hw

/-- A successful call that needs no identifier, with more material used or messages handed over. -/
theorem Leads.call {s : Store} {n : Nat} {messages : List Message}
    (h : service.Leads others w₀ w) (op : Operation) (hp : w.database.poisoned = false)
    (hs : op.apply w.database.store = .ok s) (hgen : op.generated? = none) (hn : w.issued ≤ n) :
    service.Leads others w₀ ⟨{ w.database with store := s }, n, messages⟩ := by
  refine h.trans ⟨hn, [op], (Database.perform_of_ok hp hs).symm, fun op' hop => Or.inr ?_⟩
  rw [List.mem_singleton.mp hop, hgen]
  exact fun id hid => nomatch hid

theorem survives_leads (h : service.notifier.Calls others) :
    service.Survives (service.Leads others w₀) where
  handed w m hw := ⟨hw.issued, hw.database⟩
  meanwhile w m f hw hp hf := by
    obtain ⟨ops, hdb, hops⟩ := h w.handed m f hf w.database hp
    exact hw.trans ⟨Nat.le_refl _, ops, hdb, fun op hop => Or.inl (hops op hop)⟩

theorem runs_sendBatch_leads (h : service.notifier.Calls others) :
    Runs w₀.Idle (service.sendBatch now caller r) (fun _ => service.Leads others w₀)
      fun _ => service.Leads others w₀ := by
  refine (runs_sendBatch (I := fun _ => service.Leads others w₀) ?_ (fun _ => survives_leads h)
    ?_).mono (fun _ hw => hw) (fun _ _ ⟨_, hw⟩ => hw) fun _ _ hw => leads_of_idle hw
  · intro w i batch ds s hw hp _ hs
    exact (leads_of_idle hw).call (.startBatch caller batch now fun j => service.ids (i + j))
      hp (map_snd_eq_ok hs) rfl (Nat.le_add_right _ _)
  · intro ds d _ w s hw hp hs
    exact hw.call (.completeNotification d.notification now) hp hs rfl (Nat.le_refl _)

theorem runs_botUpdate_leads (h : service.notifier.Calls others) :
    Runs w₀.Idle (service.botUpdate r) (fun _ => service.Leads others w₀)
      fun _ => service.Leads others w₀ := by
  refine (runs_botUpdate (fun _ => leads_of_idle) ?_ ?_ (survives_leads h)).mono
    (fun _ hw => hw) (fun _ _ hw => hw) fun _ _ hw => leads_of_idle hw
  · intro w chat hw hp
    exact (leads_of_idle hw).call (.activateContact chat) hp rfl rfl (Nat.le_refl _)
  · intro w chat hw hp
    exact (leads_of_idle hw).call (.deactivateContact chat) hp rfl rfl (Nat.le_refl _)

theorem runs_answer_leads {e : Endpoint} (now : Instant)
    (he : Endpoint.ofPath? r.target.path = some e)
    (h : service.notifier.Calls others) :
    Runs (· = w₀) (service.answer now e r) (fun _ => service.Leads others w₀)
      fun _ => service.Leads others w₀ := by
  refine runs_answer (fun _ => leads_of_idle) (fun _ _ => leads_of_idle) ?_ ?_
  · rintro e rfl
    by_cases hbot : e = .botUpdate
    · subst hbot
      exact (runs_botUpdate_leads h).mono (fun w hw => hw ▸ idle_refl w) (fun _ _ hw => hw)
        fun _ _ hw => hw
    · exact (runs_handleOpen he hbot).mono (fun _ hw => hw) (fun _ _ => leads_of_acted)
        fun _ _ => leads_of_acted
  · rintro e caller rfl -
    by_cases hsend : e = .sendBatch
    · subst hsend
      exact runs_sendBatch_leads h
    · exact (runs_handleGuarded hsend).mono (fun _ hw => hw) (fun _ _ => leads_of_acts)
        fun _ _ => leads_of_idle

theorem respond_leads (h : service.notifier.Calls others) :
    service.Leads others w (service.respond now r w).2 := by
  rcases respond_cases service now r w with ⟨hr, -⟩ | ⟨e, he, hr, -⟩
  · rw [hr]
    exact Leads.refl w
  · rw [hr]
    exact (runs_answer_leads now he h).snd rfl

theorem after_leads (h : service.notifier.Calls others) (log : List (Instant × Http.Request)) :
    service.Leads others .fresh (service.after log) := by
  have hlog : ∀ w, service.Leads others w
      (log.foldl (fun w x => (service.respond x.1 x.2 w).2) w) := by
    induction log with
    | nil => exact .refl
    | cons x log ih => exact fun w => (respond_leads h).trans (ih _)
  exact hlog .fresh

/-- Whatever is asked of a service, its database is the one after some run of calls. -/
theorem exists_after (h : service.notifier.Calls others) (log : List (Instant × Http.Request)) :
    ∃ ops, (service.after log).database = .after ops ∧ ∀ op ∈ ops,
      others op ∨ ∀ id, op.generated? = some id → service.Issued .fresh (service.after log) id :=
  (after_leads h log).database

theorem sound_after (h : service.notifier.Calls others) (log : List (Instant × Http.Request)) :
    (service.after log).database.Sound := by
  obtain ⟨ops, hdb, -⟩ := exists_after h log
  exact hdb ▸ Database.sound_after ops

/-! ## Identifiers that are not in use -/

/-- The first `n` identifiers differ from each other, and from those that others use. -/
structure IssuesOnce (service : Service) (n : Nat) : Prop where
  distinct : ∀ i j, i < j → j < n → service.ids i ≠ service.ids j
  others : service.notifier.Calls fun op => ∀ i < n, op.generated? ≠ some (service.ids i)

theorem issuesOnce_solitary {n : Nat} (hn : n ≤ 16) : solitary.IssuesOnce n where
  distinct _ _ hij hj := ids_solitary_ne hij (Nat.lt_of_lt_of_le hj hn)
  others _ _ _ h := nomatch h

/-- What a row goes back to was not given an identifier that is not issued yet. -/
theorem ne_of_generated {n i : Nat} (h : service.IssuesOnce n) {op : Operation} {id : Uuid}
    (hop : (∀ i < n, op.generated? ≠ some (service.ids i)) ∨
      ∀ id, op.generated? = some id → service.Issued .fresh (service.after log) id)
    (hgen : op.generated? = some id) (hi : (service.after log).issued ≤ i) (hn : i < n) :
    id ≠ service.ids i := by
  rcases hop with hother | hown
  · exact fun he => hother i hn (he ▸ hgen)
  · obtain ⟨j, -, hj, he⟩ := hown id hgen
    rw [he]
    exact h.distinct j i (Nat.lt_of_lt_of_le hj hi) hn

/-- No session is under an identifier that is not issued yet. -/
theorem ne_of_session {n i : Nat} (h : service.IssuesOnce n) {x : Session}
    (hx : x ∈ (service.after log).database.store.sessions) (hi : (service.after log).issued ≤ i)
    (hn : i < n) : x.id ≠ service.ids i := by
  obtain ⟨ops, hdb, hops⟩ := exists_after h.others log
  rw [hdb] at hx
  obtain ⟨op, hop, hgen⟩ := generated_of_session hx
  exact ne_of_generated h (hops op hop) hgen hi hn

/-- Nor is an entity. -/
theorem ne_of_entity {n i : Nat} (h : service.IssuesOnce n) {k : Kind} {e : Owned k.Fields}
    (he : e ∈ (service.after log).database.store.entities.get k)
    (hi : (service.after log).issued ≤ i) (hn : i < n) : e.id ≠ service.ids i := by
  obtain ⟨ops, hdb, hops⟩ := exists_after h.others log
  rw [hdb] at he
  obtain ⟨before, draft, rest, rfl, -⟩ := confirmDraft_of_mem he
  exact ne_of_generated h (hops _ (List.mem_append_right _ List.mem_cons_self)) rfl hi hn

/-- Nor is a draft. -/
theorem ne_of_draft {n i : Nat} (h : service.IssuesOnce n) {k : Kind} {d : Draft k.Fields}
    (hd : d ∈ (service.after log).database.store.drafts.get k)
    (hi : (service.after log).issued ≤ i) (hn : i < n) : d.id ≠ service.ids i := by
  obtain ⟨ops, hdb, hops⟩ := exists_after h.others log
  rw [hdb] at hd
  obtain ⟨-, before, rest, rfl, -⟩ := insertDraft_of_mem hd
  exact ne_of_generated h (hops _ (List.mem_append_right _ List.mem_cons_self)) rfl hi hn

end Service

end AlertService
