import AlertService.Proofs.Store.Columns

/-!
# The entities as a list

Next to the store one can keep a plain list of the entities of each kind: a confirmed draft is
written at its end, an update overwrites an element in its place, a deletion strikes elements out.
Whoever reads entities from the store reads them from that list.

* `Ledger`, `Ledger.record`: the lists, and what a successful call does to them.
* `Ledger.Describes.record`: a successful call keeps store and ledger in step.
* `answersFromLedger`: after every run, and after each of its beginnings, they are in step.
-/

namespace AlertService

open Operation Database

variable {s t : Store} {op : Operation} {ops before : List Operation} {k : Kind} {owner id : Uuid}

/-! ## The ledger -/

structure Ledger where
  /-- The fields of all drafts that were ever made, the latest first. -/
  drafted : PerKind fun k => List (Uuid × k.Fields)
  entities : PerKind fun k => List (Owned k.Fields)

namespace Ledger

def empty : Ledger := ⟨⟨[], [], []⟩, ⟨[], [], []⟩⟩

/-- Strikes out an entity. Groups lose their reference to a template that goes. -/
def strike (m : Ledger) : Kind → Uuid → Ledger
  | .recipient, id =>
    { m with entities.recipient := m.entities.recipient.filter fun e => e.id ≠ id }
  | .template, id =>
    { m with
      entities.template := m.entities.template.filter fun e => e.id ≠ id
      entities.group := m.entities.group.map fun g =>
        if g.fields.template = some id then { g with fields.template := none } else g }
  | .group, id =>
    { m with entities.group := m.entities.group.filter fun e => e.id ≠ id }

/-- The ledger after a successful call. -/
def record (m : Ledger) : Operation → Ledger
  | .insertDraft k new _ fields =>
    { m with drafted := m.drafted.set k ((new, fields) :: m.drafted.get k) }
  | .confirmDraft k owner draft new =>
    match (m.drafted.get k).lookup draft with
    | none => m
    | some fields =>
      { m with entities := m.entities.set k (m.entities.get k ++ [⟨new, owner, fields⟩]) }
  | .updateEntity k _ id fields =>
    { m with entities := m.entities.set k ((m.entities.get k).map fun e =>
        if e.id = id then { e with fields := fields } else e) }
  | .deleteEntity k _ id => m.strike k id
  | .deleteUser id =>
    { m with entities := m.entities.map fun _ rows => rows.filter fun e => e.owner ≠ id }
  | _ => m

end Ledger

/-- The calls of a run that succeed, each at its place. -/
def Database.successes (d : Database) : List Operation → List Operation
  | [] => []
  | op :: ops =>
    match op.apply d.store with
    | .ok _ => op :: (d.perform op).successes ops
    | .error _ => d.successes ops

namespace Database

theorem successes_append (d : Database) (hd : d.poisoned = false) (ops₁ ops₂ : List Operation) :
    d.successes (ops₁ ++ ops₂) = d.successes ops₁ ++ (d.run ops₁).successes ops₂ := by
  induction ops₁ generalizing d with
  | nil => rfl
  | cons op ops ih =>
    rw [List.cons_append, run_cons]
    cases ht : op.apply d.store with
    | ok t =>
      simp only [successes, ht, List.cons_append]
      rw [ih (d.perform op) ((perform_poisoned d op).trans hd)]
    | error e =>
      simp only [successes, ht]
      rw [ih d hd, perform_of_error ht]

/-- Two records of what happened stay in step in a run when every successful call keeps them in
step. -/
theorem foldl_successes {α : Type} {R : α → Store → Prop} {record : α → Operation → α}
    (hstep : ∀ m s op t, s.Coherent → R m s → Operation.apply op s = .ok t → R (record m op) t)
    {d : Database} (hd : d.Sound) {m : α} (hm : R m d.store) (ops : List Operation) :
    R ((d.successes ops).foldl record m) (d.run ops).store := by
  induction ops generalizing d m with
  | nil => exact hm
  | cons op ops ih =>
    rw [run_cons]
    cases ht : op.apply d.store with
    | ok t =>
      have hperform : d.perform op = { d with store := t } := perform_of_ok hd.poisoned ht
      have hsuccesses : d.successes (op :: ops) = op :: (d.perform op).successes ops := by
        simp only [successes, ht]
      have hnext : (d.perform op).Sound := hd.run [op]
      rw [hsuccesses, List.foldl_cons]
      refine ih hnext ?_
      rw [hperform]
      exact hstep m d.store op t hd.coherent hm ht
    | error e =>
      have hsuccesses : d.successes (op :: ops) = d.successes ops := by
        simp only [successes, ht]
      rw [hsuccesses, perform_of_error ht]
      exact ih hd hm

end Database

/-- What the calls of a run have to be written down, those that succeed. -/
def Ledger.of (ops : List Operation) : Ledger := (fresh.successes ops).foldl record empty

namespace Ledger

variable {m : Ledger}

/-! ## One call -/

/-- The store has the entities of the ledger, and its drafts are those that were made last. -/
structure Describes (m : Ledger) (s : Store) : Prop where
  drafts : ∀ k, ∀ d ∈ s.drafts.get k,
    (m.drafted.get k).lookup d.id = some d.fields ∧ d.stray = none
  entities : s.entities = m.entities

theorem describes_empty : empty.Describes Store.empty where
  drafts k d hd := by
    cases k <;> exact absurd hd List.not_mem_nil
  entities := rfl

@[simp] theorem drafted_strike : (m.strike k id).drafted = m.drafted := by
  cases k <;> rfl

theorem drafted_record (h : ∀ k new owner fields, op ≠ .insertDraft k new owner fields) :
    (m.record op).drafted = m.drafted := by
  cases op with
  | insertDraft k new owner fields => exact absurd rfl (h k new owner fields)
  | confirmDraft k owner draft new =>
    simp only [record]
    split <;> rfl
  | deleteEntity k owner id => exact drafted_strike
  | _ => rfl

namespace Describes

/-- A draft that a call leaves is the latest under its identifier. -/
theorem drafts_record (hm : m.Describes s) (h : s.Coherent) (ht : op.apply s = .ok t)
    {d : Draft k.Fields} (hd : d ∈ t.drafts.get k) :
    ((m.record op).drafted.get k).lookup d.id = some d.fields ∧ d.stray = none := by
  rcases draft_of_apply h ht hd with hold | ⟨rfl, hstray⟩
  · by_cases hinsert : ∃ j new owner fields, op = .insertDraft j new owner fields
    · obtain ⟨j, new, owner, fields, rfl⟩ := hinsert
      obtain ⟨hnew, -, -⟩ := Store.insertDraft_eq_ok.mp ht
      by_cases hj : k = j
      · subst hj
        -- an identifier that is in use is not given out a second time
        have hne : d.id ≠ new := find?_key_eq_none.mp hnew d hold
        have hlatest : ((m.record (.insertDraft k new owner fields)).drafted.get k).lookup d.id =
            (m.drafted.get k).lookup d.id := by
          rw [record, PerKind.get_set_self, List.lookup_cons, beq_false_of_ne hne]
        rw [hlatest]
        exact hm.drafts k d hold
      · have hother : (m.record (.insertDraft j new owner fields)).drafted.get k =
            m.drafted.get k := PerKind.get_set_of_ne _ hj _
        rw [hother]
        exact hm.drafts k d hold
    · have hsame : (m.record op).drafted = m.drafted :=
        drafted_record fun j new owner fields he => hinsert ⟨j, new, owner, fields, he⟩
      rw [hsame]
      exact hm.drafts k d hold
  · refine ⟨?_, hstray⟩
    rw [record, PerKind.get_set_self, List.lookup_cons_self]

theorem entities_strike (he : s.entities = m.entities) (k : Kind) (id : Uuid) :
    (s.dropEntities k [id]).entities = (m.strike k id).entities := by
  rw [Store.dropEntities_singleton]
  cases k <;> simp only [Store.without, strike, he]

theorem entities_record (hm : m.Describes s) (h : s.Coherent) (ht : op.apply s = .ok t) :
    t.entities = (m.record op).entities := by
  by_cases hw : Table.entities ∈ op.writes
  · cases op with
    | deleteUser id =>
      obtain ⟨-, rfl⟩ := h.deleteUser_eq_ok.mp ht
      simp only [Store.restrict, Ledger.record, hm.entities]
    | confirmDraft j owner draft new =>
      obtain ⟨⟨e, t⟩, hok, rfl⟩ := map_eq_ok.mp ht
      obtain ⟨d, fields, hfound, -, hfields, -, -, -, rfl, rfl⟩ :=
        Store.confirmDraft_eq_ok.mp hok
      obtain ⟨hd, rfl⟩ := h.draft?_eq_some.mp hfound
      obtain ⟨hlatest, hstray⟩ := hm.drafts j d hd
      rw [Store.draftFields_of_not_stray hstray] at hfields
      obtain rfl := Except.ok.inj hfields
      simp only [Ledger.record, hlatest, hm.entities]
    | updateEntity j owner id fields =>
      obtain ⟨⟨e, t⟩, hok, rfl⟩ := map_eq_ok.mp ht
      obtain ⟨-, -, -, rfl⟩ := Store.updateEntity_eq_ok.mp hok
      simp only [record, hm.entities]
    | deleteEntity j owner id =>
      obtain ⟨-, rfl⟩ := Store.deleteEntity_eq_ok.mp ht
      exact entities_strike hm.entities j id
    | _ => exact absurd hw (by simp [Operation.writes])
  · have hrecord : (m.record op).entities = m.entities := by
      cases op with
      | confirmDraft | updateEntity | deleteEntity | deleteUser =>
        exact absurd (by simp [Operation.writes]) hw
      | _ => rfl
    rw [hrecord, ← hm.entities]
    exact same_of_not_writes h ht hw

theorem record (hm : m.Describes s) (h : s.Coherent) (ht : op.apply s = .ok t) :
    (m.record op).Describes t where
  drafts _ _ hd := hm.drafts_record h ht hd
  entities := hm.entities_record h ht

end Describes

theorem describes_after (ops : List Operation) : (of ops).Describes (after ops).store :=
  foldl_successes (fun _ _ _ _ h hm ht => hm.record h ht) sound_fresh describes_empty ops

end Ledger

/-! ## What is read -/

/-- Entities are read from the store as they stand in the ledger. -/
structure Store.ReadsFrom (s : Store) (m : Ledger) : Prop where
  list : ∀ k owner, s.listEntities k owner = (m.entities.get k).filter fun e => e.owner = owner
  active : ∀ owner, s.listActiveGroups owner =
    (m.entities.group.filter fun g => g.owner = owner).filter fun g => g.fields.active
  own : ∀ k, ∀ e ∈ m.entities.get k, s.getEntity k e.owner e.id = .ok e
  foreign : ∀ k, ∀ e ∈ m.entities.get k, ∀ owner, e.owner ≠ owner →
    s.getEntity k owner e.id = .error (.notOwner k.label)
  missing : ∀ k id, (∀ e ∈ m.entities.get k, e.id ≠ id) → ∀ owner,
    s.getEntity k owner id = .error (.notFound k.label)

theorem Ledger.Describes.readsFrom {m : Ledger} (hm : m.Describes s) (h : s.Coherent) :
    s.ReadsFrom m where
  list k owner := by
    rw [Store.listEntities, hm.entities]
  active owner := by
    rw [Store.listActiveGroups, hm.entities, List.filter_filter]
    exact List.filter_congr fun g _ => Bool.and_comm _ _
  own k e he := by
    rw [← hm.entities] at he
    exact Store.getEntity_eq_ok.mpr ⟨h.entity?_eq_some.mpr ⟨he, rfl⟩, rfl⟩
  foreign k e he owner howner := by
    rw [← hm.entities] at he
    have hfound : s.entity? k e.id = some e := h.entity?_eq_some.mpr ⟨he, rfl⟩
    simp only [Store.getEntity, hfound, Store.requireOwner, if_neg howner]
  missing k id hid owner := by
    rw [← hm.entities] at hid
    have hnone : s.entity? k id = none := find?_key_eq_none.mpr hid
    simp only [Store.getEntity, hnone, Store.requireOwner]

/-- The record that a confirmation returns is read right after it. -/
theorem Store.Coherent.getEntity_of_confirmDraft (h : s.Coherent) {draft new : Uuid}
    {e : Owned k.Fields} (ht : s.confirmDraft k owner draft new = .ok (e, t)) :
    t.getEntity k owner e.id = .ok e := by
  have ht' : t.Coherent := h.confirmDraft ht
  obtain ⟨d, fields, -, -, -, -, -, -, rfl, rfl⟩ := Store.confirmDraft_eq_ok.mp ht
  refine Store.getEntity_eq_ok.mpr ⟨ht'.entity?_eq_some.mpr ⟨?_, rfl⟩, rfl⟩
  rw [PerKind.get_set_self]
  exact List.mem_append_right _ List.mem_cons_self

/-- The record that an update returns is read right after it. -/
theorem Store.Coherent.getEntity_of_updateEntity (h : s.Coherent) {fields : k.Fields}
    {e : Owned k.Fields} (ht : s.updateEntity k owner id fields = .ok (e, t)) :
    t.getEntity k owner e.id = .ok e := by
  have ht' : t.Coherent := h.updateEntity ht
  obtain ⟨⟨old, hfound, rfl⟩, -, rfl, rfl⟩ := Store.updateEntity_eq_ok.mp ht
  obtain ⟨hold, rfl⟩ := h.entity?_eq_some.mp hfound
  refine Store.getEntity_eq_ok.mpr ⟨ht'.entity?_eq_some.mpr ⟨?_, rfl⟩, rfl⟩
  rw [PerKind.get_set_self]
  exact List.mem_map.mpr ⟨old, hold, if_pos rfl⟩

/-- What a run and its ledger have in common, from the beginning to the end. -/
structure AnswersFromLedger (ops : List Operation) : Prop where
  reads : ∀ before, before <+: ops → (after before).store.ReadsFrom (.of before)
  /-- What a confirmation or an update returns is what is read right after it. -/
  confirmed : ∀ before k owner draft new e s, before ++ [.confirmDraft k owner draft new] <+: ops →
    (after before).store.confirmDraft k owner draft new = .ok (e, s) →
      (after (before ++ [.confirmDraft k owner draft new])).store.getEntity k owner e.id = .ok e
  updated : ∀ before k owner id fields e s, before ++ [.updateEntity k owner id fields] <+: ops →
    (after before).store.updateEntity k owner id fields = .ok (e, s) →
      (after (before ++ [.updateEntity k owner id fields])).store.getEntity k owner e.id = .ok e

/-- Whatever calls are made by whichever users, entities are read as they stand in a list that
confirmations append to, updates overwrite in place and deletions strike from. -/
theorem answersFromLedger (ops : List Operation) : AnswersFromLedger ops where
  reads before _ := (Ledger.describes_after before).readsFrom (coherent_run coherent_fresh before)
  confirmed before k owner draft new e s _ hok := by
    have hafter : after (before ++ [.confirmDraft k owner draft new]) =
        { after before with store := s } := by
      rw [after_concat]
      exact perform_of_ok (after_poisoned before) (map_eq_ok.mpr ⟨(e, s), hok, rfl⟩)
    rw [hafter]
    exact (coherent_run coherent_fresh before).getEntity_of_confirmDraft hok
  updated before k owner id fields e s _ hok := by
    have hafter : after (before ++ [.updateEntity k owner id fields]) =
        { after before with store := s } := by
      rw [after_concat]
      exact perform_of_ok (after_poisoned before) (map_eq_ok.mpr ⟨(e, s), hok, rfl⟩)
    rw [hafter]
    exact (coherent_run coherent_fresh before).getEntity_of_updateEntity hok

end AlertService
