import AlertService.Proofs.Service.Worlds
import AlertService.Proofs.Store.Faults
import AlertService.Proofs.Token.Issuing

/-!
# Services in working order

A world is in order when its database is, when what is stored can be read, and when no row has an
identifier that is still to be issued. Calls that get their identifiers from the service keep it in
order, and never fail for internal reasons as long as there are identifiers left.

* `Service.Orderly`: the world is in order, with a condition on its users.
* `Service.Fails`: what a failure leaves behind.
* `survives_orderly`: messages may be handed over in such a world.
* `runs_ask_orderly`, `runs_store_orderly`: the rules for calls.
-/

namespace AlertService

/-- Rows belong together and can be read, and `p` holds of the users. Of the first `n` identifiers,
no row has one that is still to be issued. -/
structure Service.Orderly (service : Service) (n : Nat) (p : List User → Prop) (w : World) :
    Prop where
  sound : w.database.Sound
  legible : w.database.store.Legible
  users : p w.database.store.users
  unissued : ∀ i, w.issued ≤ i → i < n → w.database.store.Lacks (service.ids i)

namespace Service

open Handler

/-- The first `n` identifiers differ from each other. -/
def Distinct (service : Service) (n : Nat) : Prop :=
  ∀ i j, i < j → j < n → service.ids i ≠ service.ids j

/-- The call gives none of the first `n` identifiers to a row, and keeps what holds of users. -/
structure Tolerates (service : Service) (n : Nat) (p : List User → Prop) (op : Operation) :
    Prop where
  apart : ∀ s, ∀ i < n, service.ids i ∉ op.adds s
  users : ∀ s t, s.Coherent → op.apply s = .ok t → p s.users → p t.users

/-- The first `n` identifiers do not suffice for what comes next, which may be a batch. -/
def Spent (n : Nat) (w : World) : Prop :=
  ∃ user, n < w.issued + (w.database.store.targets user).length

/-- The world is in order, and if the failure is internal then for want of identifiers or of a
clock that works. -/
def Fails (service : Service) (now : Instant) (n : Nat) (p : List User → Prop) (f : Failure)
    (w : World) : Prop :=
  service.Orderly n p w ∧ (f = .internal → now.IsCurrent → Spent n w)

/-- No row has the identifier, unless too many were issued, and it will not be issued again. -/
structure Fresh (service : Service) (n : Nat) (id : Uuid) (w : World) : Prop where
  lacks : w.issued ≤ n → w.database.store.Lacks id
  apart : ∀ i, w.issued ≤ i → i < n → id ≠ service.ids i

/-- In a world in order the call is ready, unless too many identifiers were issued, and gives rows
none of those that are still to be issued. -/
structure CanMake (service : Service) (n : Nat) (p : List User → Prop) (op : Operation)
    (w : World) : Prop where
  orderly : service.Orderly n p w
  ready : w.issued ≤ n → op.Ready w.database.store
  apart : ∀ i, w.issued ≤ i → i < n → service.ids i ∉ op.adds w.database.store

variable {service : Service} {n : Nat} {p q : List User → Prop} {w : World} {op : Operation}
  {α : Type} {P : World → Prop} {E : Failure → World → Prop} {now : Instant} {caller : Uuid}
  {r : Http.Request} {k : Kind}

theorem spent_of_lt (h : n < w.issued) : Spent n w :=
  ⟨.uniform 0, Nat.lt_of_lt_of_le h (Nat.le_add_right _ _)⟩

theorem fails_of_ne {f : Failure} (h : service.Orderly n p w) (hf : f ≠ .internal) :
    service.Fails now n p f w :=
  ⟨h, fun he => absurd he hf⟩

/-! ## What keeps a world in order -/

theorem orderly_fresh (h : p []) : service.Orderly n p .fresh where
  sound := Database.sound_fresh
  legible := Store.legible_empty
  users := h
  unissued _ _ _ := by
    refine ⟨rfl, ?_, fun k => ?_, fun k => ?_, ?_, ?_⟩
    case refine_2 | refine_3 => cases k <;> exact fun _ h => absurd h List.not_mem_nil
    all_goals exact fun _ h => absurd h List.not_mem_nil

namespace Orderly

theorem mono (h : service.Orderly n p w)
    (hq : p w.database.store.users → q w.database.store.users) : service.Orderly n q w :=
  ⟨h.sound, h.legible, hq h.users, h.unissued⟩

theorem issue (h : service.Orderly n p w) (m : Nat) :
    service.Orderly n p { w with issued := w.issued + m } :=
  ⟨h.sound, h.legible, h.users, fun i hi => h.unissued i (Nat.le_of_add_right_le hi)⟩

theorem hand (h : service.Orderly n p w) (m : Message) :
    service.Orderly n p { w with handed := w.handed ++ [m] } :=
  ⟨h.sound, h.legible, h.users, h.unissued⟩

/-- A call that gives rows none of the identifiers still to be issued after it. -/
theorem call {s : Store} {m : Nat} (h : service.Orderly n p w) (op : Operation)
    (hs : op.apply w.database.store = .ok s) (hq : q s.users) (hm : w.issued ≤ m)
    (hadds : ∀ i, m ≤ i → i < n → service.ids i ∉ op.adds w.database.store) :
    service.Orderly n q
      { w with database := { w.database with store := s }, issued := m } where
  sound := by
    have hrun := h.sound.run [op]
    rwa [Database.run_cons, Database.perform_of_ok h.sound.poisoned hs] at hrun
  legible := h.legible.apply h.sound.coherent hs
  users := hq
  unissued i hi hn :=
    (h.unissued i (Nat.le_trans hm hi) hn).apply h.sound.coherent hs (hadds i hi hn)

theorem callOnRows {s : Store} {m : Nat} (h : service.Orderly n p w)
    (hs : op.apply w.database.store = .ok s) (hwrites : Table.users ∉ op.writes)
    (hm : w.issued ≤ m)
    (hadds : ∀ i, m ≤ i → i < n → service.ids i ∉ op.adds w.database.store) :
    service.Orderly n p
      { w with database := { w.database with store := s }, issued := m } := by
  have husers : s.users = w.database.store.users :=
    same_of_not_writes h.sound.coherent hs hwrites
  exact h.call op hs (husers ▸ h.users) hm hadds

theorem run {ops : List Operation} (h : service.Orderly n p w)
    (hops : ∀ op ∈ ops, service.Tolerates n p op) :
    service.Orderly n p { w with database := w.database.run ops } := by
  induction ops generalizing w with
  | nil => exact h
  | cons op ops ih =>
    have hop := hops op List.mem_cons_self
    have hstep : service.Orderly n p { w with database := w.database.perform op } := by
      obtain ⟨s, hs, he⟩ | he := Database.perform_cases w.database op
      · rw [he]
        exact h.call op hs (hop.users _ _ h.sound.coherent hs h.users) (Nat.le_refl _)
          fun i _ hn => hop.apart _ i hn
      · rw [he]
        exact h
    exact ih hstep fun op' hop' => hops op' (List.mem_cons_of_mem _ hop')

end Orderly

theorem survives_orderly (h : service.notifier.Calls (service.Tolerates n p)) :
    service.Survives (service.Orderly n p) where
  handed _ m hw := hw.hand m
  meanwhile w m f hw hp hf := by
    obtain ⟨ops, hdb, hops⟩ := h w.handed m f hf w.database hp
    rw [hdb]
    exact hw.run hops

/-! ## Fresh identifiers -/

theorem Orderly.fresh (h : service.Orderly n p w) (hdistinct : service.Distinct n) :
    service.Fresh n (service.ids w.issued) { w with issued := w.issued + 1 } where
  lacks hn := h.unissued w.issued (Nat.le_refl _) hn
  apart i hi hn := hdistinct w.issued i hi hn

theorem runs_freshId_orderly (hdistinct : service.Distinct n) :
    Runs (service.Orderly n p) service.freshId
      (fun id w => service.Orderly n p w ∧ service.Fresh n id w) E :=
  runs_freshId fun _ hw => ⟨hw.issue 1, hw.fresh hdistinct⟩

/-- The identifiers from the number `first` on suffice for a batch. -/
theorem supplies_of_not_spent {first : Nat} {user : Uuid} (hdistinct : service.Distinct n)
    (hlacks : ∀ i, first ≤ i → i < n → w.database.store.Lacks (service.ids i))
    (hroom : first + (w.database.store.targets user).length < n) :
    w.database.store.Supplies user fun i => service.ids (first + i) where
  lacks i hi := hlacks (first + i) (Nat.le_add_right _ _) (by omega)
  distinct i hi j hj he := by
    have hne : ∀ a b, a < b → first + b < n → service.ids (first + a) ≠ service.ids (first + b) :=
      fun a b hab hb => hdistinct _ _ (Nat.add_lt_add_left hab first) hb
    rcases Nat.lt_trichotomy i j with hlt | heq | hlt
    · exact absurd he (hne i j hlt (by omega))
    · exact heq
    · exact absurd he.symm (hne j i hlt (by omega))

/-! ## Calls -/

theorem ofStore_ne_internal {e : StoreError} (h : ¬e.IsFault) : Failure.ofStore e ≠ .internal := by
  cases e with
  | poisoned | engine => exact absurd trivial h
  | _ => exact nofun

theorem error_of_call {d : Database} {f : Store → Except StoreError (α × Store)} {e : StoreError}
    (hd : d.poisoned = false) (h : (d.call f).1 = .error e) : f d.store = .error e := by
  cases hf : f d.store with
  | ok x =>
    rw [Database.call_of_ok hd hf] at h
    exact nomatch h
  | error e' =>
    rw [Database.call_of_error hd hf] at h
    exact congrArg _ (Except.error.inj h)

theorem map_eq_error {ε β γ : Type} {x : Except ε β} {g : β → γ} {e : ε} :
    x.map g = .error e ↔ x = .error e := by
  cases x <;> simp [Except.map]

theorem map_unit_snd {ε σ : Type} (x : Except ε σ) :
    (x.map fun s => ((), s)).map Prod.snd = x := by
  cases x <;> rfl

theorem runs_ask_orderly {f : Store → Except StoreError α}
    (hf : ∀ w, service.Orderly n p w → Faultless (f w.database.store)) :
    Runs (service.Orderly n p) (Handler.ask f)
      (fun x w => service.Orderly n p w ∧ f w.database.store = .ok x) (service.Fails now n p) := by
  refine runs_store (fun w x s hw _ h => ?_) fun w e hw h => ?_
  · obtain ⟨y, hy, he⟩ := map_eq_ok.mp h
    obtain ⟨rfl, rfl⟩ := Prod.mk.inj he
    exact ⟨hw, hy⟩
  · have herror := map_eq_error.mp (error_of_call hw.sound.poisoned h)
    exact fails_of_ne hw (ofStore_ne_internal (hf w hw e herror))

theorem runs_store_orderly {f : Store → Except StoreError (α × Store)} (op : Operation)
    (hf : ∀ s, (f s).map Prod.snd = op.apply s) (hwrites : Table.users ∉ op.writes)
    (hP : ∀ w, P w → service.CanMake n p op w) :
    Runs P (Handler.store f) (fun _ => service.Orderly n p) (service.Fails now n p) := by
  refine runs_store (fun w x s hw _ h => ?_) fun w e hw h => ?_
  · obtain ⟨hw, -, hadds⟩ := hP w hw
    have hs : op.apply w.database.store = .ok s := by rw [← hf, h]; rfl
    exact hw.callOnRows hs hwrites (Nat.le_refl _) hadds
  · obtain ⟨hw, hready, -⟩ := hP w hw
    -- only a fault is an internal failure, and a call that is ready does not end in one
    refine ⟨hw, fun hinternal _ => spent_of_lt (Nat.lt_of_not_le fun hroom => ?_)⟩
    have herror : op.apply w.database.store = .error e := by
      rw [← hf, error_of_call hw.sound.poisoned h]
      rfl
    exact ofStore_ne_internal
      (Store.faultless_apply hw.sound.coherent hw.legible (hready hroom) e herror) hinternal

theorem runs_change_orderly {f : Store → Except StoreError Store} (op : Operation)
    (hf : ∀ s, f s = op.apply s) (hwrites : Table.users ∉ op.writes)
    (hP : ∀ w, P w → service.CanMake n p op w) :
    Runs P (Handler.change f) (fun _ => service.Orderly n p) (service.Fails now n p) :=
  runs_store_orderly op (fun s => (map_unit_snd (f s)).trans (hf s)) hwrites hP

theorem canMake_of_adds_nil (hready : ∀ s, op.Ready s) (hadds : ∀ s, op.adds s = []) :
    ∀ w, service.Orderly n p w → service.CanMake n p op w := by
  intro w hw
  refine ⟨hw, fun _ => hready _, fun i _ _ => ?_⟩
  rw [hadds]
  exact List.not_mem_nil

theorem canMake_of_fresh {id : Uuid}
    (hready : ∀ w, service.Orderly n p w → w.database.store.Lacks id → op.Ready w.database.store)
    (hadds : ∀ s, op.adds s = [id]) :
    ∀ w, service.Orderly n p w ∧ service.Fresh n id w → service.CanMake n p op w := by
  rintro w ⟨hw, hfresh⟩
  refine ⟨hw, fun hroom => hready w hw (hfresh.lacks hroom), fun i hi hn => ?_⟩
  rw [hadds, List.mem_singleton]
  exact (hfresh.apart i hi hn).symm

end Service

end AlertService
