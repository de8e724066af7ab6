import AlertService.Proofs.Schema.Statements

/-!
# Catalogs without rows

What is left of a catalog when the rows of its tables are taken away: the tables with their columns,
and the names of the indexes. A change does the same to a catalog whether or not there are rows.

* `Catalog.bare`: the catalog without rows.
* `Statement.bare_run`: a change of a catalog, without rows, is the change of the bare catalog.
-/

namespace AlertService.Schema

/-- The table without rows. -/
def Table.bare (t : Table) : Table := { t with rows := [], last := 0 }

theorem Table.bare_withKey {t : Table} (h : t.bare = t) (k : Key) :
    (t.withKey k).bare = t.withKey k := by
  have hrows : t.rows = [] := congrArg Table.rows h.symm
  have hlast : t.last = 0 := congrArg Table.last h.symm
  simp [bare, withKey, hrows, hlast]

/-- A table has no rows when it is made. -/
theorem Table.bare_made (name : String) (columns : List Column) (primary : List String)
    (references : List Reference) :
    (made name columns primary references).bare = made name columns primary references := by
  unfold made withPrimary
  dsimp only
  split
  · split
    · rfl
    · exact bare_withKey rfl _
  · exact bare_withKey rfl _

/-- Which columns of an index a table lacks does not depend on its rows. -/
theorem Index.missing?_bare (i : Index) (t : Table) : i.missing? t.bare = i.missing? t := by
  have hcolumn : ∀ name, t.bare.column? name = t.column? name := fun _ => rfl
  have hfrom : ∀ columns place, missingFrom t.bare columns place = missingFrom t columns place := by
    intro columns
    induction columns with
    | nil => exact fun _ => rfl
    | cons name rest ih =>
      intro place
      simp only [missingFrom, hcolumn, ih]
  exact hfrom _ _

namespace Catalog

/-- The catalog without rows, and without what statements did so far. -/
def bare (c : Catalog) : Catalog :=
  ⟨c.tables.map Table.bare, c.temporary.map Table.bare, c.indexes, ⟨0, 0, 0⟩⟩

variable {c : Catalog} {name : String} {t : Table} {f : Table → Table}

theorem table?_bare (c : Catalog) (name : String) :
    c.bare.table? name = (c.table? name).map Table.bare := by
  simp only [table?, bare, ← List.map_append, List.find?_map]
  rfl

theorem hides_bare (c : Catalog) (name : String) : c.bare.hides name = c.hides name := by
  simp only [hides, bare, List.any_map]
  rfl

theorem hasTable_bare (c : Catalog) (name : String) : c.bare.hasTable name = c.hasTable name := by
  simp only [hasTable, bare, List.any_map]
  rfl

theorem hasIndex_bare (c : Catalog) (name : String) : c.bare.hasIndex name = c.hasIndex name := rfl

theorem siblings_bare (c : Catalog) (t : Table) :
    c.bare.siblings t.bare = (c.siblings t).map Table.bare := by
  unfold siblings
  rw [show t.bare.name = t.name from rfl, hides_bare]
  split <;> rfl

theorem referencesTo_bare (ts : List Table) (parent : String) :
    referencesTo (ts.map Table.bare) parent =
      (referencesTo ts parent).map fun x => (x.1.bare, x.2) := by
  simp only [referencesTo, ← List.map_reverse, List.flatMap_map, List.map_flatMap, List.map_map]
  rfl

theorem testIndexing_bare (c : Catalog) : c.bare.testIndexing = c.testIndexing := by
  unfold testIndexing
  rw [show c.bare.tables = c.tables.map Table.bare from rfl, referencesTo_bare]
  cases referencesTo c.tables masterTable <;> rfl

theorem testWaiting_bare (c : Catalog) (t : Table) :
    c.bare.testWaiting t.bare = c.testWaiting t := by
  unfold testWaiting
  rw [siblings_bare, show t.bare.name = t.name from rfl, referencesTo_bare]
  induction referencesTo (c.siblings t) t.name with
  | nil => rfl
  | cons x xs ih =>
    simp only [List.forM_eq_forM, List.map_cons, List.forM_cons] at ih ⊢
    rw [ih]
    rfl

theorem bare_withTable (c : Catalog) (t : Table) :
    (c.withTable t).bare = c.bare.withTable t.bare := by
  unfold withTable
  rw [show t.bare.name = t.name from rfl, hasTable_bare]
  split
  · rfl
  · rw [hasTable_bare, show t.bare.counts = t.counts from rfl]
    simp only [bare, Catalog.mk.injEq, and_true]
    have hcounting : countingTable.bare = countingTable := Table.bare_made ..
    split <;> simp [hcounting]

theorem bare_change (c : Catalog) (name : String) {g : Table → Table}
    (h : ∀ t, (f t).bare = g t.bare) :
    (c.change name f).bare = c.bare.change name g := by
  have hmap : ∀ ts : List Table,
      (ts.map fun t => if sameName t.name name then f t else t).map Table.bare =
        (ts.map Table.bare).map fun t => if sameName t.name name then g t else t := by
    intro ts
    simp only [List.map_map]
    refine List.map_congr_left fun t _ => ?_
    show (if sameName t.name name then f t else t).bare =
      if sameName t.name name then g t.bare else t.bare
    split
    · exact h t
    · rfl
  unfold change
  rw [hides_bare]
  split <;> simp only [bare, hmap]

theorem bare_change_eq_self (c : Catalog) (name : String) (h : ∀ t, (f t).bare = t.bare) :
    (c.change name f).bare = c.bare := by
  have hid : ∀ t : Table, (if sameName t.name name then t else t) = t := fun t => ite_self t
  rw [bare_change c name (g := id) h]
  unfold change
  simp only [id, hid, List.map_id', ite_self]

end Catalog

namespace Statement

/-- The tables that a statement makes have no rows. -/
def MakesBare : Statement → Prop
  | .createTable t => t.bare = t
  | _ => True

variable {c : Catalog} {s : Statement}

/-- What a change does to a catalog does not depend on the rows, nor on the time. -/
theorem bare_run (now now' : Instant) (hs : s.IsChange) (hmakes : s.MakesBare) :
    (run now c s).map Catalog.bare = run now' c.bare s := by
  cases s with
  | createTable t =>
    have ht : t.bare = t := hmakes
    simp only [run, Catalog.hasTable_bare, Catalog.hasIndex_bare, Catalog.testIndexing_bare]
    split
    · rfl
    · split
      · rfl
      · cases c.testIndexing with
        | error f => rfl
        | ok u => exact congrArg Except.ok ((c.bare_withTable t).trans (by rw [ht]))
  | createIndex i =>
    simp only [run, Catalog.table?_bare, Catalog.hides_bare, Catalog.hasIndex_bare,
      Catalog.testIndexing_bare]
    cases c.table? i.table with
    | none => rfl
    | some t =>
      have htaken : (((c.siblings t).map Table.bare).any fun u => sameName u.name i.name) =
          (c.siblings t).any fun u => sameName u.name i.name := List.any_map
      simp only [Option.map_some, Catalog.siblings_bare, htaken,
        Index.missing?_bare]
      split
      · rfl
      · split
        · rfl
        · cases i.missing? t with
          | some missing => rfl
          | none =>
            dsimp only
            split
            · rfl
            · cases c.testIndexing <;> rfl
  | addColumn table column =>
    have hadded : ∀ t : Table, (t.withColumn column).bare = t.bare.withColumn column := fun _ => rfl
    simp only [run, Catalog.table?_bare]
    cases c.table? table with
    | none => rfl
    | some t =>
      simp only [Option.map_some]
      rw [show t.bare.columns = t.columns from rfl,
        show t.bare.column? column.name = t.column? column.name from rfl]
      split
      · rfl
      · split
        · rfl
        · exact congrArg Except.ok (Catalog.bare_change c table hadded)
  | recordVersion version => exact hs.elim

end Statement

end AlertService.Schema
