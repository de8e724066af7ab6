import AlertService.Proofs.Store.Operation
import AlertService.Service.World

/-!
# Running handlers

What a handler does is said by a condition on the world that it starts from, one on its value and
the world in which it ends, and one on its failure and the world in which it fails. There is one
rule for every way to build a handler.

* `Runs`: from the first condition the handler gets to one of the others.
* `runs_bind`, `runs_store`, `runs_send`: the rules that handlers are mostly built with.
-/

namespace AlertService

namespace Handler

variable {α β : Type} {P P' : World → Prop} {Q R : α → World → Prop} {E F : Failure → World → Prop}

/-- From a world where `P` holds the handler ends where `Q` holds, or fails where `E` holds. -/
def Runs (P : World → Prop) (h : Handler α) (Q : α → World → Prop) (E : Failure → World → Prop) :
    Prop :=
  ∀ w, P w →
    match h w with
    | (.ok a, w) => Q a w
    | (.error e, w) => E e w

theorem Runs.mono {h : Handler α} (hr : Runs P h Q E) (hP : ∀ w, P' w → P w)
    (hQ : ∀ a w, Q a w → R a w) (hE : ∀ e w, E e w → F e w) : Runs P' h R F := by
  intro w hw
  have hend := hr w (hP w hw)
  generalize h w = result at hend ⊢
  rcases result with ⟨e | a, w'⟩
  · exact hE e w' hend
  · exact hQ a w' hend

/-- Where success and failure say the same of the world, that holds in the end. -/
theorem Runs.snd {h : Handler α} {Q : World → Prop} {w : World}
    (hr : Runs P h (fun _ => Q) fun _ => Q) (hw : P w) : Q (h w).2 := by
  have hend := hr w hw
  generalize h w = result at hend ⊢
  rcases result with ⟨e | a, w'⟩ <;> exact hend

/-- What does not depend on the world can be assumed beforehand. -/
theorem runs_of_and {h : Handler α} {c : Prop} (hh : c → Runs P h Q E) :
    Runs (fun w => P w ∧ c) h Q E :=
  fun w hw => hh hw.2 w hw.1

/-- From one world there is only one value. -/
theorem runs_value {h : Handler α} {w₀ : World} (hh : Runs (· = w₀) h Q E) :
    Runs (· = w₀) h (fun a w => Q a w ∧ (h w₀).1 = .ok a) E := by
  rintro w rfl
  have hend := hh w rfl
  generalize h w = result at hend ⊢
  rcases result with ⟨e | a, w'⟩
  · exact hend
  · exact ⟨hend, rfl⟩

/-! ## Combining handlers -/

theorem runs_pure {a : α} (h : ∀ w, P w → Q a w) : Runs P (pure a : Handler α) Q E := h

theorem runs_throw {e : Failure} (h : ∀ w, P w → E e w) : Runs P (throw e : Handler α) Q E := h

theorem bind_apply {h : Handler α} {f : α → Handler β} {w : World} :
    (h >>= f) w =
      match h w with
      | (.ok a, w) => f a w
      | (.error e, w) => (.error e, w) := by
  show ExceptT.bindCont f (h w).1 (h w).2 = _
  rcases h w with ⟨e | a, w'⟩ <;> rfl

theorem runs_bind {h : Handler α} {f : α → Handler β} {Q : β → World → Prop}
    (hh : Runs P h R E) (hf : ∀ a, Runs (R a) (f a) Q E) : Runs P (h >>= f) Q E := by
  intro w hw
  have hend := hh w hw
  rw [bind_apply]
  generalize h w = result at hend ⊢
  rcases result with ⟨e | a, w'⟩
  · exact hend
  · exact hf a w' hend

/-- The value does not matter to what is left of the world. -/
theorem runs_reply {h : Handler α} {f : α → β} {Q : World → Prop} (hh : Runs P h (fun _ => Q) E) :
    Runs P (h >>= fun a => pure (f a)) (fun _ => Q) E :=
  runs_bind hh fun _ => runs_pure fun _ hw => hw

theorem map_apply {h : Handler α} {f : α → β} {w : World} :
    (f <$> h) w = ((h w).1.map f, (h w).2) := by
  rw [map_eq_pure_bind, bind_apply]
  rcases h w with ⟨e | a, w'⟩ <;> rfl

theorem runs_map {h : Handler α} {f : α → β} {Q : β → World → Prop}
    (hh : Runs P h (fun a => Q (f a)) E) : Runs P (f <$> h) Q E := by
  rw [map_eq_pure_bind]
  exact runs_bind hh fun a => runs_pure fun _ hw => hw

theorem tryCatch_apply {h : Handler α} {f : Failure → Handler α} {w : World} :
    (tryCatch h f : Handler α) w =
      match h w with
      | (.ok a, w) => (.ok a, w)
      | (.error e, w) => f e w := by
  simp only [tryCatch, tryCatchThe, MonadExceptOf.tryCatch, ExceptT.tryCatch, ExceptT.mk, bind,
    StateT.bind]
  rcases h w with ⟨e | a, w'⟩ <;> rfl

theorem runs_tryCatch {h : Handler α} {f : Failure → Handler α} (hh : Runs P h Q F)
    (hf : ∀ e, Runs (F e) (f e) Q E) : Runs P (tryCatch h f) Q E := by
  intro w hw
  have hend := hh w hw
  rw [tryCatch_apply]
  generalize h w = result at hend ⊢
  rcases result with ⟨e | a, w'⟩
  · exact hf e w' hend
  · exact hend

/-! ## What handlers are made of -/

theorem runs_store {f : Store → Except StoreError (α × Store)}
    (hok : ∀ w x s, P w → w.database.poisoned = false → f w.database.store = .ok (x, s) →
      Q x { w with database := { w.database with store := s } })
    (herror : ∀ w e, P w → (w.database.call f).1 = .error e → E (.ofStore e) w) :
    Runs P (store f) Q E := by
  intro w hw
  have hcall : (w.database.poisoned = false ∧ ∃ x s, f w.database.store = .ok (x, s) ∧
      w.database.call f = (.ok x, { w.database with store := s })) ∨
      ∃ e, w.database.call f = (.error e, w.database) := by
    unfold Database.call
    split
    · exact Or.inr ⟨_, rfl⟩
    · rename_i hp
      split
      · rename_i x s h
        exact Or.inl ⟨by simpa using hp, x, s, h, rfl⟩
      · exact Or.inr ⟨_, rfl⟩
  rcases hcall with ⟨hp, x, s, h, hc⟩ | ⟨e, hc⟩
  · simp only [store, hc]
    exact hok w x s hw hp h
  · simp only [store, hc]
    exact herror w e hw (by rw [hc])

/-- A call that succeeds, on a database whose lock works. -/
theorem store_of_ok {f : Store → Except StoreError (α × Store)} {w : World} {x : α} {s : Store}
    (hp : w.database.poisoned = false) (h : f w.database.store = .ok (x, s)) :
    store f w = (.ok x, { w with database := { w.database with store := s } }) := by
  simp only [store, Database.call_of_ok hp h]

theorem ask_of_ok {f : Store → Except StoreError α} {w : World} {x : α}
    (hp : w.database.poisoned = false) (h : f w.database.store = .ok x) : ask f w = (.ok x, w) :=
  store_of_ok hp (by rw [h]; rfl)

theorem runs_change {f : Store → Except StoreError Store} {Q : Unit → World → Prop}
    (hok : ∀ w s, P w → w.database.poisoned = false → f w.database.store = .ok s →
      Q () { w with database := { w.database with store := s } })
    (herror : ∀ w e, P w →
      (w.database.call fun s => (f s).map fun s => ((), s)).1 = .error e → E (.ofStore e) w) :
    Runs P (change f) Q E := by
  refine runs_store (fun w x s hw hp h => ?_) herror
  cases hf : f w.database.store with
  | error e => simp [hf, Except.map] at h
  | ok t =>
    simp only [hf, Except.map, Except.ok.injEq, Prod.mk.injEq] at h
    exact h.2 ▸ hok w t hw hp hf

theorem runs_ask {f : Store → Except StoreError α}
    (hok : ∀ w x, P w → f w.database.store = .ok x → Q x w)
    (herror : ∀ w e, P w → E (.ofStore e) w) : Runs P (ask f) Q E := by
  refine runs_store (fun w x s hw _ h => ?_) fun w e hw _ => herror w e hw
  cases hf : f w.database.store with
  | error e => simp [hf, Except.map] at h
  | ok y =>
    simp only [hf, Except.map, Except.ok.injEq, Prod.mk.injEq] at h
    obtain ⟨rfl, rfl⟩ := h
    exact hok w y hw hf

theorem runs_issue {Q : Nat → World → Prop}
    (h : ∀ w, P w → Q w.issued { w with issued := w.issued + 1 }) : Runs P issue Q E := h

theorem runs_issueMore {n : Nat} {Q : Unit → World → Prop}
    (h : ∀ w, P w → Q () { w with issued := w.issued + n }) : Runs P (issueMore n) Q E := h

theorem runs_require {x : Option α} (hok : ∀ w a, P w → x = some a → Q a w)
    (herror : ∀ w, P w → x = none → E .internal w) : Runs P (require x) Q E := by
  intro w hw
  cases x with
  | none => exact herror w hw rfl
  | some a => exact hok w a hw rfl

theorem runs_attempt {h : Handler Unit} {Q : Unit → World → Prop}
    (hh : Runs P h Q fun _ => Q ()) : Runs P (attempt h) Q E := by
  intro w hw
  have hend := hh w hw
  simp only [attempt]
  generalize h w = result at hend ⊢
  rcases result with ⟨e | a, w'⟩ <;> exact hend

theorem runs_payload {read : Json.Reader α} {body : Bytes}
    (hok : ∀ w a, P w → payload read body w = (.ok a, w) → Q a w)
    (herror : ∀ w m, P w → E (.validation m) w) : Runs P (payload read body) Q E := by
  intro w hw
  have hcases : (∃ a, payload read body w = (.ok a, w)) ∨
      ∃ m, payload read body w = (.error (.validation m), w) := by
    unfold payload
    split
    · exact Or.inr ⟨_, rfl⟩
    · split
      · exact Or.inl ⟨_, rfl⟩
      · exact Or.inr ⟨_, rfl⟩
  rcases hcases with ⟨a, h⟩ | ⟨m, h⟩
  · rw [h]
    exact hok w a hw h
  · rw [h]
    exact herror w m hw

theorem runs_id {r : Http.Request} {name label : String} {Q : Uuid → World → Prop}
    (hok : ∀ w a, P w → queryId r.query name label = .ok a → Q a w)
    (herror : ∀ w, P w → E (.missing label) w) : Runs P (id r name label) Q E := by
  intro w hw
  cases h : queryId r.query name label with
  | error e =>
    have he : e = .missing label := by
      unfold queryId at h
      split at h
      · exact nomatch h
      · exact (Except.error.inj h).symm
    subst he
    simpa only [id, h] using herror w hw
  | ok a => simpa only [id, h] using hok w a hw h

end Handler

namespace Service

open Handler

variable {service : Service} {P : World → Prop} {E : Failure → World → Prop}

/-! ## Identifiers -/

section Identifiers

variable {r : Http.Request} {name label : String} {id : Uuid} {w : World}

/-- The identifier that a parameter of the request spells, if it is there and spells one. -/
def namedId? (r : Http.Request) (name : String) : Option Uuid :=
  (r.query.get? name).bind fun v => Uuid.accept? (Text.trim v.toList)

theorem id_of_named (h : namedId? r name = some id) : Handler.id r name label w = (.ok id, w) := by
  simp only [namedId?] at h
  simp only [Handler.id, queryId, h]

theorem id_of_unnamed (h : namedId? r name = none) :
    Handler.id r name label w = (.error (.missing label), w) := by
  simp only [namedId?] at h
  simp only [Handler.id, queryId, h]

end Identifiers

/-! ## Fresh material and messages -/

theorem runs_freshId {Q : Uuid → World → Prop}
    (h : ∀ w, P w → Q (service.ids w.issued) { w with issued := w.issued + 1 }) :
    Runs P service.freshId Q E :=
  runs_bind (runs_issue (Q := fun n w => Q (service.ids n) w) h) fun _ => runs_pure fun _ hw => hw

/-- Handing a message over does not fail. Others may have changed the store, or may have kept the
message from being handed over. -/
theorem runs_send {m : Message} {Q : Bool → World → Prop}
    (hquiet : ∀ w b, P w → Q b { w with handed := w.handed ++ [m] })
    (hchange : ∀ w b f, P w → w.database.poisoned = false →
      service.notifier.meanwhile w.handed m = some f → Q b { w with
        database := { w.database with store := f w.database.store }
        handed := w.handed ++ [m] })
    (hkept : ∀ w, P w → w.database.poisoned = true → Q false w) :
    Runs P (service.send m) Q E := by
  intro w hw
  unfold send
  cases hf : service.notifier.meanwhile w.handed m with
  | none => exact hquiet w _ hw
  | some f =>
    have hcall : (w.database.poisoned = true ∧
        w.database.call (fun s => .ok ((), f s)) = (.error .brokenOff, w.database)) ∨
        w.database.poisoned = false ∧ w.database.call (fun s => .ok ((), f s)) =
          (.ok (), { w.database with store := f w.database.store }) := by
      unfold Database.call
      split
      · rename_i hp
        exact Or.inl ⟨hp, rfl⟩
      · rename_i hp
        exact Or.inr ⟨by simpa using hp, rfl⟩
    rcases hcall with ⟨hp, hc⟩ | ⟨hp, hc⟩
    · simp only [hc]
      exact hkept w hw hp
    · simp only [hc]
      exact hchange w _ f hw hp hf

end Service

end AlertService
