import AlertService.Proofs.Store.Success
import AlertService.Schema.Migration

/-!
# Statements on a catalog

What a statement does to the tables of a catalog, and how a list of statements succeeds or fails.

* `Statement.Succeeds`: all of some statements succeed, one after the other.
* `Statement.runAll_eq_error`: a list of statements fails at its first statement that does.
* `Statement.table?_run`: what becomes of the table that is meant by a name.
-/

namespace AlertService.Schema

/-! ## Names -/

theorem sameName_iff {a b : String} :
    sameName a b = true ↔ a.toList.map Char.toLower = b.toList.map Char.toLower := by
  simp [sameName]

theorem sameName_self (a : String) : sameName a a = true := sameName_iff.mpr rfl

theorem sameName_comm (a b : String) : sameName a b = sameName b a := by
  simp only [sameName, eq_comm]

/-- Names that are the same are the same as the same others. -/
theorem sameName_congr {a b : String} (h : sameName a b = true) (other : String) :
    sameName a other = sameName b other := by
  simp only [sameName, sameName_iff.mp h]

/-! ## The table that is meant by a name -/

section Find

variable {ts : List Table} {name other : String} {f : Table → Table}

/-- Changing the tables of a name changes what is found under it, and nothing else. -/
theorem find?_changed (hf : ∀ t, (f t).name = t.name) :
    (ts.map fun t => if sameName t.name other then f t else t).find? (fun t => sameName t.name name) =
      (ts.find? fun t => sameName t.name name).map fun t =>
        if sameName name other then f t else t := by
  have hname : ∀ t : Table, (if sameName t.name other then f t else t).name = t.name := by
    intro t
    split
    · exact hf t
    · rfl
  induction ts with
  | nil => rfl
  | cons t ts ih =>
    rw [List.map_cons, List.find?_cons, List.find?_cons, hname]
    cases h : sameName t.name name with
    | true => simp only [Option.map_some, sameName_congr h other]
    | false => exact ih

end Find

namespace Catalog

variable {c d : Catalog} {name other : String} {f : Table → Table} {t u : Table}

theorem table?_eq (c : Catalog) (name : String) :
    c.table? name = (c.temporary.find? fun t => sameName t.name name).or
      (c.tables.find? fun t => sameName t.name name) :=
  List.find?_append

theorem sameName_of_table? (h : c.table? name = some t) : sameName t.name name = true := by
  simpa using List.find?_some h

theorem hides_congr (h : sameName name other = true) : c.hides name = c.hides other := by
  simp only [hides, sameName_comm _ name, sameName_comm _ other, sameName_congr h]

theorem hides_iff :
    c.hides name = true ↔ (c.temporary.find? fun t => sameName t.name name).isSome = true := by
  simp only [hides, List.find?_isSome, List.any_eq_true]

theorem table?_change (hf : ∀ t, (f t).name = t.name) :
    (c.change other f).table? name =
      (c.table? name).map fun t => if sameName name other then f t else t := by
  unfold change
  dsimp only
  split
  · rename_i hhides
    rw [table?_eq, table?_eq, find?_changed hf]
    cases h : sameName name other with
    | true =>
      rw [← hides_congr h, hides_iff] at hhides
      obtain ⟨t, ht⟩ := Option.isSome_iff_exists.mp hhides
      simp [ht]
    | false => simp
  · rename_i hhides
    rw [table?_eq, table?_eq, find?_changed hf]
    cases h : sameName name other with
    | true =>
      rw [← hides_congr h, hides_iff, Option.not_isSome_iff_eq_none] at hhides
      simp [hhides]
    | false => simp

/-- A table that is meant by a name stays it when another one is made. -/
theorem table?_withTable (h : c.table? name = some t) (u : Table) :
    (c.withTable u).table? name = some t := by
  unfold withTable
  split
  · exact h
  · rw [table?_eq] at h ⊢
    dsimp only
    split
    · rw [List.append_assoc, List.find?_append, ← Option.or_assoc, h, Option.some_or]
    · rw [List.find?_append, ← Option.or_assoc, h, Option.some_or]

end Catalog

/-! ## Single statements -/

theorem map_const_eq_ok {ε α : Type} {x : Except ε Unit} {a b : α} :
    (x.map fun _ => a) = .ok b ↔ x = .ok () ∧ a = b := by
  cases x <;> simp [Except.map]

namespace Statement

variable {c d e : Catalog} {now now' : Instant} {name : String} {t : Table} {s : Statement}
  {ss : List Statement} {f : EngineFault}

theorem run_createTable_eq_ok :
    run now c (.createTable t) = .ok d ↔
      c.hasTable t.name = false ∧ c.hasIndex t.name = false ∧ c.testIndexing = .ok () ∧
        d = c.withTable t := by
  simp only [run, ite_error_eq_ok, map_const_eq_ok, Bool.not_eq_true, eq_comm (a := d)]

theorem run_createIndex_eq_ok {i : Index} :
    run now c (.createIndex i) = .ok d ↔
      ∃ t, c.table? i.table = some t ∧
        ((c.siblings t).any fun u => sameName u.name i.name) = false ∧ i.missing? t = none ∧
        (c.hides i.table = true ∧ d = c ∨
          c.hides i.table = false ∧ c.hasIndex i.name = false ∧ c.testIndexing = .ok () ∧
            d = { c with indexes := c.indexes ++ [i.name] }) := by
  cases ht : c.table? i.table with
  | none => simp [run, ht]
  | some t =>
    cases hmissing : i.missing? t <;> cases hhides : c.hides i.table <;>
      simp [run, ht, hmissing, hhides, ite_error_eq_ok, map_const_eq_ok, eq_comm (a := d)]

theorem run_addColumn_eq_ok {table : String} {column : Column} :
    run now c (.addColumn table column) = .ok d ↔
      ∃ t, c.table? table = some t ∧ t.columns.length < columnLimit ∧
        t.column? column.name = none ∧ d = c.change table fun t => t.withColumn column := by
  cases h : c.table? table with
  | none => simp [run, h]
  | some t => simp [run, h, ite_error_eq_ok, eq_comm (a := d)]

/-- The statement does not record a version. -/
def IsChange : Statement → Prop
  | .recordVersion _ => False
  | _ => True

/-- The column that a statement adds to the table that is meant by a name. -/
def added? (name : String) : Statement → Option Column
  | .addColumn table column => if sameName name table then some column else none
  | _ => none

/-- A change keeps the table that is meant by a name, but may add a column to it. -/
theorem table?_run (h : run now c s = .ok d) (hs : s.IsChange) (ht : c.table? name = some t) :
    d.table? name = some ((s.added? name).elim t t.withColumn) := by
  cases s with
  | createTable u =>
    obtain ⟨-, -, -, rfl⟩ := run_createTable_eq_ok.mp h
    exact Catalog.table?_withTable ht u
  | createIndex i =>
    obtain ⟨-, -, -, -, ⟨-, rfl⟩ | ⟨-, -, -, rfl⟩⟩ := run_createIndex_eq_ok.mp h <;> exact ht
  | addColumn table column =>
    obtain ⟨-, -, -, -, rfl⟩ := run_addColumn_eq_ok.mp h
    have hkeeps : ∀ t : Table, (t.withColumn column).name = t.name := fun _ => rfl
    rw [Catalog.table?_change hkeeps, ht]
    cases hname : sameName name table <;> simp [added?, hname]
  | recordVersion version => exact hs.elim

/-! ## Lists of statements -/

/-- All of the statements succeed, one after the other. -/
def Succeeds (now : Instant) (c : Catalog) (ss : List Statement) (d : Catalog) : Prop :=
  ss.foldlM (run now) c = .ok d

theorem succeeds_nil : Succeeds now c [] d ↔ d = c := by
  rw [Succeeds, List.foldlM_nil, pure_eq_ok, eq_comm]

theorem succeeds_cons :
    Succeeds now c (s :: ss) d ↔ ∃ e, run now c s = .ok e ∧ Succeeds now e ss d := by
  simp only [Succeeds, List.foldlM_cons, bind_eq_ok]

theorem succeeds_append {ss' : List Statement} :
    Succeeds now c (ss ++ ss') d ↔ ∃ e, Succeeds now c ss e ∧ Succeeds now e ss' d := by
  simp only [Succeeds, List.foldlM_append, bind_eq_ok]

theorem succeeds_singleton : Succeeds now c [s] d ↔ run now c s = .ok d := by
  simp [succeeds_cons, succeeds_nil]

/-- What every statement of a list keeps, the list keeps. -/
theorem Succeeds.keeps {P : Catalog → Prop} (h : Succeeds now c ss d) (hc : P c)
    (hstep : ∀ s ∈ ss, ∀ c d, P c → run now c s = .ok d → P d) : P d := by
  induction ss generalizing c with
  | nil => exact succeeds_nil.mp h ▸ hc
  | cons s ss ih =>
    obtain ⟨e, he, h⟩ := succeeds_cons.mp h
    exact ih h (hstep s List.mem_cons_self c e hc he) fun s hs => hstep s (List.mem_cons_of_mem _ hs)

theorem runAll_eq_ok : runAll now c ss = (.ok (), d) ↔ Succeeds now c ss d := by
  induction ss generalizing c with
  | nil => simp [runAll, succeeds_nil, eq_comm]
  | cons s ss ih =>
    rw [succeeds_cons, runAll]
    cases h : run now c s <;> simp [ih]

/-- A list fails at its first statement that does. What the ones before it did stays. -/
theorem runAll_eq_error :
    runAll now c ss = (.error f, d) ↔
      ∃ done s rest, ss = done ++ s :: rest ∧ Succeeds now c done d ∧ run now d s = .error f := by
  induction ss generalizing c with
  | nil => simp [runAll]
  | cons s ss ih =>
    rw [runAll]
    constructor
    · intro h
      cases hs : run now c s with
      | error g =>
        simp only [hs, Prod.mk.injEq, Except.error.injEq] at h
        obtain ⟨rfl, rfl⟩ := h
        exact ⟨[], s, ss, rfl, succeeds_nil.mpr rfl, hs⟩
      | ok e =>
        simp only [hs] at h
        obtain ⟨done, t, rest, rfl, hdone, ht⟩ := ih.mp h
        exact ⟨s :: done, t, rest, rfl, succeeds_cons.mpr ⟨e, hs, hdone⟩, ht⟩
    · rintro ⟨_ | ⟨u, done⟩, t, rest, hss, hdone, ht⟩
      · obtain ⟨rfl, -⟩ := List.cons_eq_cons.mp hss
        obtain rfl := succeeds_nil.mp hdone
        simp [ht]
      · obtain ⟨rfl, hrest⟩ := List.cons_eq_cons.mp hss
        obtain ⟨e, hs, hdone⟩ := succeeds_cons.mp hdone
        simp only [hs]
        exact ih.mpr ⟨done, t, rest, hrest, hdone, ht⟩

end Statement

end AlertService.Schema
