import AlertService.Proofs.Store.Success
import AlertService.Store.Database

/-!
# Runs of the store

A call that may change the store, as a value: its arguments, with the identifiers and the time that
it is given. Calls that only read are left out, for they leave the store as it is. A run is any
list of calls on a new database, by any users and in any order; one that fails has no effect.

* `run_preserves`: what every successful call preserves, a run preserves.
* `exists_step`: what a run changes, one of its calls changes.
* `after_append`: a run goes on from where its first part ended.
-/

namespace AlertService

/-- The identifier that has the same digit all over. -/
def Uuid.uniform (digit : Fin 16) : Uuid := ⟨List.replicate 32 digit, List.length_replicate⟩

/-- A call that may change the store. -/
inductive Operation where
  | createUser (id : Uuid) (name hash : String)
  | updateUser (id : Uuid) (name hash : String)
  | deleteUser (id : Uuid)
  | createSession (now : Int) (new user : Uuid) (expiry : Int)
  | rotateSession (now : Int) (old user new : Uuid) (expiry : Int)
  | insertDraft (k : Kind) (new owner : Uuid) (fields : k.Fields)
  | confirmDraft (k : Kind) (owner draft new : Uuid)
  | updateEntity (k : Kind) (owner id : Uuid) (fields : k.Fields)
  | deleteEntity (k : Kind) (owner id : Uuid)
  | addMember (owner group recipient : Uuid)
  | removeMember (owner group recipient : Uuid)
  | createBatch (new owner : Uuid)
  | startBatch (owner batch : Uuid) (now : Instant) (fresh : Nat → Uuid)
  | completeNotification (id : Uuid) (time : Instant)
  | cancelNotification (owner id : Uuid)
  | activateContact (chat : Int64)
  | deactivateContact (chat : Int64)

namespace Operation

/-- The store after the call, or why the call failed. -/
def apply : Operation → Store → Except StoreError Store
  | .createUser id name hash, s => s.createUser id name hash
  | .updateUser id name hash, s => s.updateUser id name hash
  | .deleteUser id, s => s.deleteUser id
  | .createSession now new user expiry, s => s.createSession now new user expiry
  | .rotateSession now old user new expiry, s => s.rotateSession now old user new expiry
  | .insertDraft k new owner fields, s => s.insertDraft k new owner fields
  | .confirmDraft k owner draft new, s => (s.confirmDraft k owner draft new).map Prod.snd
  | .updateEntity k owner id fields, s => (s.updateEntity k owner id fields).map Prod.snd
  | .deleteEntity k owner id, s => s.deleteEntity k owner id
  | .addMember owner group recipient, s => s.addMember owner group recipient
  | .removeMember owner group recipient, s => s.removeMember owner group recipient
  | .createBatch new owner, s => s.createBatch new owner
  | .startBatch owner batch now fresh, s => (s.startBatch owner batch now fresh).map Prod.snd
  | .completeNotification id time, s => s.completeNotification id time
  | .cancelNotification owner id, s => s.cancelNotification owner id
  | .activateContact chat, s => .ok (s.activateContact chat).2
  | .deactivateContact chat, s => .ok (s.deactivateContact chat).2

/-- The identifier that the call gives a new row. That of a user comes from outside, and those of
notifications come from a supply of their own. -/
def generated? : Operation → Option Uuid
  | .createSession _ new _ _ => some new
  | .rotateSession _ _ _ new _ => some new
  | .insertDraft _ new _ _ => some new
  | .confirmDraft _ _ _ new => some new
  | .createBatch new _ => some new
  | _ => none

/-- The user on whose behalf the call is made, if on behalf of any. -/
def caller? : Operation → Option Uuid
  | .createUser id _ _ => some id
  | .updateUser id _ _ => some id
  | .deleteUser id => some id
  | .createSession _ _ user _ => some user
  | .rotateSession _ _ user _ _ => some user
  | .insertDraft _ _ owner _ => some owner
  | .confirmDraft _ owner _ _ => some owner
  | .updateEntity _ owner _ _ => some owner
  | .deleteEntity _ owner _ => some owner
  | .addMember owner _ _ => some owner
  | .removeMember owner _ _ => some owner
  | .createBatch _ owner => some owner
  | .startBatch owner _ _ _ => some owner
  | .cancelNotification owner _ => some owner
  | .completeNotification _ _ => none
  | .activateContact _ => none
  | .deactivateContact _ => none

end Operation

namespace Database

/-- Makes the call on the database. -/
def perform (d : Database) (op : Operation) : Database :=
  (d.call fun s => (op.apply s).map fun s => ((), s)).2

/-- Makes the calls one after the other. -/
def run (d : Database) (ops : List Operation) : Database := ops.foldl perform d

/-- A new database after the calls. -/
def after (ops : List Operation) : Database := fresh.run ops

variable {d : Database} {op : Operation} {ops : List Operation}

theorem call_of_ok {α : Type} {f : Store → Except StoreError (α × Store)} {x : α} {s : Store}
    (hd : d.poisoned = false) (h : f d.store = .ok (x, s)) :
    d.call f = (.ok x, { d with store := s }) := by
  simp [call, hd, h]

theorem call_of_error {α : Type} {f : Store → Except StoreError (α × Store)} {e : StoreError}
    (hd : d.poisoned = false) (h : f d.store = .error e) : d.call f = (.error e, d) := by
  simp [call, hd, h]

theorem perform_of_ok {s : Store} (hd : d.poisoned = false) (h : op.apply d.store = .ok s) :
    d.perform op = { d with store := s } := by
  rw [perform, call_of_ok hd (by rw [h]; rfl)]

theorem perform_of_error {e : StoreError} (h : op.apply d.store = .error e) :
    d.perform op = d := by
  simp only [perform, call, h, Except.map]
  split <;> rfl

/-- A call succeeds and leaves its store, or the database stays as it is. -/
theorem perform_cases (d : Database) (op : Operation) :
    (∃ s, op.apply d.store = .ok s ∧ d.perform op = { d with store := s }) ∨ d.perform op = d := by
  rcases Bool.eq_false_or_eq_true d.poisoned with hp | hp
  · right
    simp [perform, call, hp]
  · cases h : op.apply d.store with
    | ok s => exact Or.inl ⟨s, rfl, perform_of_ok hp h⟩
    | error e => exact Or.inr (perform_of_error h)

theorem perform_poisoned (d : Database) (op : Operation) :
    (d.perform op).poisoned = d.poisoned := by
  obtain ⟨s, -, h⟩ | h := perform_cases d op <;> rw [h]

theorem run_cons (d : Database) (op : Operation) (ops : List Operation) :
    d.run (op :: ops) = (d.perform op).run ops := rfl

theorem run_append (d : Database) (ops₁ ops₂ : List Operation) :
    d.run (ops₁ ++ ops₂) = (d.run ops₁).run ops₂ := List.foldl_append

theorem run_poisoned (d : Database) (ops : List Operation) :
    (d.run ops).poisoned = d.poisoned := by
  induction ops generalizing d with
  | nil => rfl
  | cons op ops ih => rw [run_cons, ih, perform_poisoned]

/-- What every successful call of a run preserves, the run preserves. -/
theorem run_preserves {P : Store → Prop} (hd : P d.store)
    (h : ∀ op ∈ ops, ∀ s t, P s → op.apply s = .ok t → P t) : P (d.run ops).store := by
  induction ops generalizing d with
  | nil => exact hd
  | cons op ops ih =>
    rw [run_cons]
    refine ih ?_ fun op' hop => h op' (List.mem_cons_of_mem _ hop)
    obtain ⟨s, hs, he⟩ | he := perform_cases d op
    · rw [he]
      exact h op List.mem_cons_self _ _ hd hs
    · rw [he]
      exact hd

/-- What comes to hold in a run comes to hold by a call that succeeds. -/
theorem exists_step {P : Store → Prop} (h₀ : ¬P d.store) (h : P (d.run ops).store) :
    ∃ before op rest s, ops = before ++ op :: rest ∧ ¬P (d.run before).store ∧
      op.apply (d.run before).store = .ok s ∧ P s := by
  induction ops generalizing d with
  | nil => exact absurd h h₀
  | cons op ops ih =>
    by_cases hop : P (d.perform op).store
    · obtain ⟨s, hs, he⟩ | he := perform_cases d op
      · refine ⟨[], op, ops, s, rfl, h₀, hs, ?_⟩
        rwa [he] at hop
      · rw [he] at hop
        exact absurd hop h₀
    · obtain ⟨before, op', rest, s, rfl, hb, hs, hP⟩ := ih hop h
      exact ⟨op :: before, op', rest, s, rfl, hb, hs, hP⟩

/-- What every call keeps that succeeds at its place in a run, the run keeps. -/
theorem run_keeps {P : Store → Prop} (hd : P d.store)
    (h : ∀ before op rest s, ops = before ++ op :: rest → P (d.run before).store →
      op.apply (d.run before).store = .ok s → P s) : P (d.run ops).store := by
  refine Classical.byContradiction fun hlost => ?_
  obtain ⟨before, op, rest, s, hops, hkept, hs, hs'⟩ :=
    exists_step (P := fun s => ¬P s) (not_not_intro hd) hlost
  exact hs' (h before op rest s hops (Classical.not_not.mp hkept) hs)

theorem after_append (ops₁ ops₂ : List Operation) :
    after (ops₁ ++ ops₂) = (after ops₁).run ops₂ := run_append _ _ _

theorem after_concat (ops : List Operation) (op : Operation) :
    after (ops ++ [op]) = (after ops).perform op := after_append ops [op]

theorem after_poisoned (ops : List Operation) : (after ops).poisoned = false := run_poisoned _ _

end Database

end AlertService
