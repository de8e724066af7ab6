import AlertService.Proofs.Schema.Shape

/-!
# Recorded versions

A table of versions that has its declared shape takes every version: a new row never meets another one
of its number. What a statement does to the recorded versions is told for both kinds of statements, the
changes, which leave them alone, and the records.

* `Catalog.version_eq`: the version of a catalog is the greatest recorded one, or zero.
* `Catalog.KeepsVersions.record`: recording a version adds a row for it and does nothing else.
* `Statement.SparesVersions.keeps`: a change that spares the table of versions leaves it as it is.
-/

namespace AlertService

/-- The integer that a cell holds. -/
def Cell.integer? : Cell → Option Int
  | .integer i => some i
  | _ => none

theorem Cell.map_integer_filterMap {cells : List Cell} (h : ∀ cell ∈ cells, ∃ i, cell = .integer i) :
    (cells.filterMap Cell.integer?).map .integer = cells := by
  induction cells with
  | nil => rfl
  | cons cell cells ih =>
    obtain ⟨i, rfl⟩ := h cell List.mem_cons_self
    exact congrArg (Cell.integer i :: ·) (ih fun cell hcell => h cell (List.mem_cons_of_mem _ hcell))

namespace Schema

/-! ## The table of versions -/

/-- The row that records a version. -/
def versionRow (number version : Int) : Record :=
  ⟨number, [⟨"version", .number, .exact, some (.integer version)⟩]⟩

theorem entry_version (k : Int) :
    Table.entry (.needed (.integer "version")) (some (.integer k)) =
      ⟨"version", .number, .exact, some (.integer k)⟩ := by
  have hpreference : (Column.needed (.integer "version")).preference = .number := by decide +kernel
  rw [Table.entry, hpreference]
  rfl

theorem content?_versionRow (number k : Int) :
    (versionRow number k).content? "version" = some (.integer k) := by
  simp [versionRow, Record.content?, Expression.Row.entry?, sameName]

theorem le_foldl_max {i : Int} {is : List Int} (hi : i ∈ is) (j : Int) : i ≤ is.foldl max j := by
  induction is generalizing j with
  | nil => simp at hi
  | cons l is ih =>
    rw [List.foldl_cons]
    rcases List.mem_cons.mp hi with rfl | hi
    · rw [List.foldl_max]
      omega
    · exact ih hi _

/-- The table has the shape of the table of versions, and its rows hold integers. -/
structure Table.HoldsVersions (t : Table) : Prop where
  shape : { t.bare with name := versionTable.name } = versionTable
  integers : ∀ r ∈ t.rows, ∃ i, r.content? "version" = some (.integer i)

namespace Table.HoldsVersions

variable {t : Table} {k number : Int}

theorem columns (h : t.HoldsVersions) : t.columns = [.needed (.integer "version")] :=
  congrArg (fun t : Table => t.columns) h.shape

theorem insert_version (h : t.HoldsVersions) (k : Int) (around : Circumstances)
    (hnew : ∀ r ∈ t.rows, r.number ≠ number) :
    t.insert "version" (.integer k) number around t.rows = .ok (versionRow number k, t.rows) := by
  have hchecks : t.checks = [] := congrArg (fun t : Table => t.checks) h.shape
  have hkeys : t.keys = [] := congrArg (fun t : Table => t.keys) h.shape
  have hrest : (t.rows.filter fun other => other.number ≠ number) = t.rows :=
    List.filter_eq_self.mpr fun r hr => by simpa using hnew r hr
  have hrefusal : t.refusal? "version" = none := by
    simp [refusal?, h.columns, hchecks, Column.needed, Column.integer, Column.plain, sameName]
  have hgiven : t.given "version" (.integer k) number around =
      .ok [⟨"version", .number, .exact, some (.integer k)⟩] := by
    simp only [given, h.columns, List.zipIdx_cons, List.zipIdx_nil, List.mapM_cons, List.mapM_nil,
      entry_version]
    rfl
  have hcomputed : ∀ row, t.computed number around row = .ok row := by
    intro row
    simp [computed, h.columns, Column.needed, Column.integer, Column.plain, compute]
  have hlacks : lacks [⟨"version", .number, .exact, some (.integer k)⟩]
      (.needed (.integer "version")) = false := by
    simp [lacks, Expression.Row.entry?, Column.needed, Column.integer, Column.plain, sameName]
  have hsupply : t.supply around [⟨"version", .number, .exact, some (.integer k)⟩]
      (.needed (.integer "version")) = .ok [⟨"version", .number, .exact, some (.integer k)⟩] := by
    simp only [supply, hlacks]
    rfl
  have hconfirm : t.confirm [⟨"version", .number, .exact, some (.integer k)⟩]
      (.needed (.integer "version")) = .ok () := by
    simp only [confirm, hlacks]
    rfl
  have hsupplied : t.supplied number around [⟨"version", .number, .exact, some (.integer k)⟩] =
      .ok [⟨"version", .number, .exact, some (.integer k)⟩] := by
    simp only [supplied, h.columns, List.foldlM_cons, List.foldlM_nil, hsupply, hcomputed,
      List.forM_eq_forM, List.forM_cons, List.forM_nil, bind, pure, Except.bind, Except.pure, hconfirm]
  have hclaim : t.claimNumber number t.rows = .ok t.rows := by
    simp only [claimNumber, hrest, if_true]
  simp only [Table.insert, hrefusal, hgiven, hcomputed, hchecks, hclaim, tested, hkeys,
    bind, pure, Except.bind, Except.pure, List.forM_eq_forM, List.forM_nil, hsupplied]
  rfl

/-- The number of the next row is greater than those of all others. -/
theorem number_lt_nextNumber (h : t.HoldsVersions) {r : Record} (hr : r ∈ t.rows) :
    r.number < t.nextNumber "version" (.integer k) t.last t.rows := by
  have hnumbered : t.numbered? = none := by
    simp [numbered?, h.columns, Column.needed, Column.integer, Column.plain]
  have hcounts : t.counts = false := congrArg (fun t : Table => t.counts) h.shape
  have hle : r.number ≤ (t.rows.map Record.number).foldl max 0 :=
    le_foldl_max (List.mem_map_of_mem hr) 0
  simp only [nextNumber, hnumbered, hcounts, Option.any_none, Bool.false_eq_true, if_false]
  rw [List.foldl_map] at hle
  omega

/-- The table with a row for one more version. -/
theorem with_version (h : t.HoldsVersions) (number k last : Int) :
    Table.HoldsVersions { t with rows := t.rows ++ [versionRow number k], last := last } where
  shape := h.shape
  integers := by
    intro r hr
    rcases List.mem_append.mp hr with hr | hr
    · exact h.integers r hr
    · obtain rfl := List.mem_singleton.mp hr
      exact ⟨k, content?_versionRow number k⟩

end Table.HoldsVersions

/-! ## The recorded versions -/

namespace Catalog

/-- If there is a table of versions, it has its declared shape and holds integers. -/
def IsVersioned (c : Catalog) : Prop := ∀ t, c.table? versionTable.name = some t → t.HoldsVersions

/-- The recorded versions, in the order in which they were recorded. -/
def recorded (c : Catalog) : List Int := c.versions.filterMap Cell.integer?

/-- The greatest recorded version, or zero if there is none. -/
def newest (c : Catalog) : Int := c.recorded.max?.getD 0

variable {c d : Catalog} {t : Table} {k : Int} {now : Instant} {name : String}

theorem IsVersioned.versions_eq (h : c.IsVersioned) : c.versions = c.recorded.map .integer := by
  have hall : ∀ cell ∈ c.versions, ∃ i, cell = .integer i := by
    intro cell hcell
    unfold versions at hcell
    cases ht : c.table? versionTable.name with
    | none => simp [ht] at hcell
    | some t =>
      simp only [ht, List.mem_filterMap] at hcell
      obtain ⟨r, hr, hcontent⟩ := hcell
      obtain ⟨i, hi⟩ := (h t ht).integers r hr
      exact ⟨i, Option.some.inj (hcontent.symm.trans hi)⟩
  exact (Cell.map_integer_filterMap hall).symm

theorem versionColumn_eq (ht : c.table? versionTable.name = some t) (h : t.HoldsVersions) :
    c.versionColumn = .ok (t, .needed (.integer "version")) := by
  have hcolumn : t.column? "version" = some (.needed (.integer "version")) := by
    simp [Table.column?, h.columns, Column.needed, Column.integer, Column.plain, sameName]
  simp only [versionColumn, ht, hcolumn]

theorem greater_integer (i j : Int) : greater (.integer i) (.integer j) = .integer (max i j) := by
  have hbelow : (Cell.integer i).isBelow .exact (.integer j) = decide (i < j) := by
    simp [Cell.isBelow, Cell.isSmaller, Cell.fraction?]
  unfold greater
  rw [hbelow]
  by_cases h : i < j <;> simp [h] <;> omega

/-- The version is the greatest recorded one. -/
theorem version_eq (ht : c.table? versionTable.name = some t) (h : t.HoldsVersions) :
    c.version = .ok c.newest := by
  have hversioned : c.IsVersioned := fun u hu => by
    obtain rfl : t = u := Option.some.inj (ht.symm.trans hu)
    exact h
  have hfold : ∀ i ks, (List.map Cell.integer ks).foldl greater (.integer i) =
      .integer (ks.foldl max i) := by
    intro i ks
    induction ks generalizing i with
    | nil => rfl
    | cons j ks ih => rw [List.map_cons, List.foldl_cons, greater_integer, ih, List.foldl_cons]
  unfold version
  rw [versionColumn_eq ht h, hversioned.versions_eq, newest]
  cases c.recorded with
  | nil => rfl
  | cons i ks =>
    rw [List.map_cons, List.foldl_cons, show greater .null (.integer i) = .integer i from rfl, hfold,
      List.max?_cons']
    rfl

/-! ## What statements do to the recorded versions -/

/-- There is a table of versions, and it has its declared shape and holds integers. It may be hidden by
a temporary one that is like this, too. -/
structure KeepsVersions (c : Catalog) : Prop where
  holds : ∃ t, c.table? versionTable.name = some t ∧ t.HoldsVersions
  isMade : c.hasTable versionTable.name = true

theorem hasTable_withTable (h : c.hasTable name = true) (t : Table) :
    (c.withTable t).hasTable name = true := by
  obtain ⟨u, hu, hname⟩ := List.any_eq_true.mp h
  unfold withTable
  split
  · exact h
  · refine List.any_eq_true.mpr ⟨u, ?_, hname⟩
    dsimp only
    split <;> simp [hu]

theorem hasTable_change {other : String} {f : Table → Table} (hf : ∀ t, (f t).name = t.name) :
    (c.change other f).hasTable name = c.hasTable name := by
  have hname : ∀ t : Table, (if sameName t.name other then f t else t).name = t.name := by
    intro t
    split
    · exact hf t
    · rfl
  unfold change hasTable
  dsimp only
  split
  · rfl
  · simp only [List.any_map, Function.comp_def, hname]

theorem bare_withRows (c : Catalog) (t : Table) (rows : List Record) (number : Int) (h : History) :
    (c.withRows t rows number h).bare = c.bare :=
  bare_change_eq_self (f := fun u => { u with rows := rows, last := max u.last number }) c t.name
    fun _ => rfl

/-- The catalog with a row for one more version in a table. -/
def withVersion (c : Catalog) (t : Table) (k : Int) : Catalog :=
  let number := t.nextNumber "version" (.integer k) t.last t.rows
  c.withRows t (t.rows ++ [versionRow number k]) number ⟨number, 1, c.history.total + 1⟩

/-- Recording a version adds a row to the table of versions. -/
theorem record_eq (ht : c.table? versionTable.name = some t) (h : t.HoldsVersions) :
    c.record now k = (c.testWaiting t).map fun _ => c.withVersion t k := by
  have hreferences : t.references = [] := congrArg (fun t : Table => t.references) h.shape
  have hinsert := h.insert_version k ⟨now, c.history⟩ fun r hr =>
    Int.ne_of_lt (h.number_lt_nextNumber (k := k) hr)
  unfold record
  rw [versionColumn_eq ht h]
  show c.add now t (.needed (.integer "version")) k = _
  unfold add
  rw [hreferences, show (Column.needed (.integer "version")).name = "version" from rfl]
  cases c.testWaiting t with
  | error f => rfl
  | ok u =>
    simp only [hinsert, List.mapM_nil, bind, pure, Except.bind, Except.pure]
    simp only [withVersion, Except.map, Nat.lt_irrefl, if_false]
    rfl

/-- What is recorded is told by the rows of the table of versions. -/
theorem recorded_eq (ht : c.table? versionTable.name = some t) :
    c.recorded = (t.rows.filterMap fun r => r.content? "version").filterMap Cell.integer? := by
  simp only [recorded, versions, ht]

theorem table?_withRows (c : Catalog) (t : Table) (rows : List Record) (number : Int) (h : History) :
    (c.withRows t rows number h).table? name = (c.table? name).map fun u =>
      if sameName name t.name then { u with rows := rows, last := max u.last number } else u :=
  table?_change (c := c) (f := fun u => { u with rows := rows, last := max u.last number })
    fun _ => rfl

theorem hasTable_withRows (c : Catalog) (t : Table) (rows : List Record) (number : Int) (h : History) :
    (c.withRows t rows number h).hasTable name = c.hasTable name :=
  hasTable_change (c := c) (f := fun u => { u with rows := rows, last := max u.last number })
    fun _ => rfl

/-- What recording a version does: there is one more row in the table of versions, and nothing else
changes. -/
structure Records (c d : Catalog) (k : Int) : Prop where
  keeps : d.KeepsVersions
  recorded : d.recorded = c.recorded ++ [k]
  bare : d.bare = c.bare
  others : ∀ name, sameName name versionTable.name = false → d.table? name = c.table? name

theorem KeepsVersions.record (hc : c.KeepsVersions) (h : c.record now k = .ok d) : c.Records d k := by
  obtain ⟨t, ht, hversions⟩ := hc.holds
  rw [record_eq ht hversions] at h
  obtain ⟨-, rfl⟩ := map_const_eq_ok.mp h
  have hname : ∀ name, sameName name t.name = sameName name versionTable.name := by
    intro name
    rw [sameName_comm, sameName_congr (sameName_of_table? ht), sameName_comm]
  obtain ⟨number, u, hu, hrows, hholds⟩ : ∃ number u, (c.withVersion t k).table? versionTable.name =
      some u ∧ u.rows = t.rows ++ [versionRow number k] ∧ u.HoldsVersions := by
    refine ⟨_, _, ?_, rfl, hversions.with_version (t.nextNumber "version" (.integer k) t.last t.rows)
      k (max t.last (t.nextNumber "version" (.integer k) t.last t.rows))⟩
    rw [withVersion, table?_withRows, ht, hname, sameName_self]
    rfl
  refine ⟨⟨⟨u, hu, hholds⟩, ?_⟩, ?_, bare_withRows .., ?_⟩
  · exact (hasTable_withRows ..).trans hc.isMade
  · rw [recorded_eq ht, recorded_eq hu, hrows, List.filterMap_append, List.filterMap_append]
    simp [content?_versionRow, Cell.integer?]
  · intro name hother
    rw [withVersion, table?_withRows, hname, hother]
    simp

/-- Catalogs that are equal without their rows record a version alike. -/
theorem KeepsVersions.bare_record {c' : Catalog} {now' : Instant} (hc : c.KeepsVersions)
    (hc' : c'.KeepsVersions) (hbare : c.bare = c'.bare) :
    (c.record now k).map bare = (c'.record now' k).map bare := by
  obtain ⟨t, ht, hversions⟩ := hc.holds
  obtain ⟨t', ht', hversions'⟩ := hc'.holds
  have htables : t.bare = t'.bare := by
    have h := c.table?_bare versionTable.name
    rw [hbare, table?_bare, ht, ht'] at h
    exact (Option.some.inj h).symm
  rw [record_eq ht hversions, record_eq ht' hversions', ← testWaiting_bare, ← testWaiting_bare c',
    hbare, htables]
  cases c'.bare.testWaiting t'.bare with
  | error f => rfl
  | ok u => exact congrArg Except.ok ((bare_withRows ..).trans (hbare.trans (bare_withRows ..).symm))

end Catalog

/-! ## Statements that spare the table of versions -/

namespace Statement

/-- The statement records no version, adds no column to the table of versions, and the table that it may
make has no rows. -/
structure SparesVersions (s : Statement) : Prop where
  isChange : s.IsChange
  makesBare : s.MakesBare
  addsNone : s.added? versionTable.name = none

variable {c d c' d' : Catalog} {now now' : Instant} {s : Statement} {ss : List Statement}

theorem hasTable_run {name : String} (h : run now c s = .ok d) (hs : s.IsChange)
    (hc : c.hasTable name = true) : d.hasTable name = true := by
  cases s with
  | createTable u =>
    obtain ⟨-, -, -, rfl⟩ := run_createTable_eq_ok.mp h
    exact Catalog.hasTable_withTable hc u
  | createIndex i =>
    obtain ⟨-, -, -, -, ⟨-, rfl⟩ | ⟨-, -, -, rfl⟩⟩ := run_createIndex_eq_ok.mp h <;> exact hc
  | addColumn table column =>
    obtain ⟨-, -, -, -, rfl⟩ := run_addColumn_eq_ok.mp h
    have hname : ∀ t : Table, (t.withColumn column).name = t.name := fun _ => rfl
    exact (Catalog.hasTable_change hname).trans hc
  | recordVersion version => exact hs.elim

/-- A change leaves the table of versions as it is. -/
theorem SparesVersions.keeps (hs : s.SparesVersions) (hc : c.KeepsVersions)
    (h : run now c s = .ok d) : d.KeepsVersions ∧ d.recorded = c.recorded := by
  obtain ⟨t, ht, hversions⟩ := hc.holds
  have hfound := table?_run h hs.isChange ht
  rw [hs.addsNone, Option.elim_none] at hfound
  exact ⟨⟨⟨t, hfound, hversions⟩, hasTable_run h hs.isChange hc.isMade⟩,
    by rw [Catalog.recorded_eq ht, Catalog.recorded_eq hfound]⟩

/-- Catalogs that are equal without their rows run a statement alike. -/
theorem bare_congr (now now' : Instant) (hs : s.SparesVersions ∨ ∃ k, s = .recordVersion k)
    (hc : c.KeepsVersions) (hc' : c'.KeepsVersions) (hbare : c.bare = c'.bare) :
    (run now c s).map Catalog.bare = (run now' c' s).map Catalog.bare := by
  rcases hs with hs | ⟨k, rfl⟩
  · rw [bare_run now now hs.isChange hs.makesBare, bare_run now' now hs.isChange hs.makesBare, hbare]
  · exact hc.bare_record hc' hbare

end Statement

end Schema

end AlertService
