import AlertService.Proofs.Schema.Migrations

/-!
# Convergence of the migrations

Whatever tables a database starts with, every run only adds to what was recorded, and nothing changes
any more after a run that succeeded. A database that has all that the first migrations make comes to have
the same schema as an empty one, and keeps its rows.

* `migrate_converges`: all of this, for any number of runs one after the other.
-/

namespace AlertService.Schema

variable {now now' : Instant} {c d c' d' : Catalog} {ss : List Statement} {t : Table} {name : String}

/-! ## Statements of migrations -/

namespace Statement

/-- The statement is a change that spares the table of versions, or it records a version. -/
def IsRegular (s : Statement) : Prop := s.SparesVersions ∨ ∃ k, s = .recordVersion k

theorem isRegular_of_subset {ms : List Migration} (hms : ms ⊆ migrations) :
    ∀ s ∈ ms.flatMap Migration.statements, s.IsRegular := by
  intro s hs
  obtain ⟨m, hm, hs⟩ := List.mem_flatMap.mp hs
  rcases List.mem_append.mp hs with hs | hs
  · exact .inl (Catalog.sparesVersions_migrations m (hms hm) s hs)
  · exact .inr ⟨m.version, List.mem_singleton.mp hs⟩

theorem IsRegular.keepsVersions {s : Statement} (hs : s.IsRegular) (hc : c.KeepsVersions)
    (h : run now c s = .ok d) : d.KeepsVersions := by
  rcases hs with hs | ⟨k, rfl⟩
  · exact (hs.keeps hc h).1
  · exact (hc.record h).keeps

/-- Where a list of statements succeeds, it succeeds in all catalogs that are equal but for the rows. -/
theorem Succeeds.of_bare (h : Succeeds now' c' ss d') (now : Instant) (hss : ∀ s ∈ ss, s.IsRegular)
    (hc' : c'.KeepsVersions) (hc : c.KeepsVersions) (hbare : c.bare = c'.bare) :
    ∃ d, Succeeds now c ss d ∧ d.bare = d'.bare := by
  induction ss generalizing c c' with
  | nil => exact ⟨c, succeeds_nil.mpr rfl, by rw [hbare, succeeds_nil.mp h]⟩
  | cons s ss ih =>
    obtain ⟨e', hrun', h⟩ := succeeds_cons.mp h
    have hs := hss s List.mem_cons_self
    have halike := bare_congr now now' hs hc hc' hbare
    rw [hrun'] at halike
    cases hrun : run now c s with
    | error f => simp [hrun, Except.map] at halike
    | ok e =>
      have hsame : e.bare = e'.bare := by simpa [hrun, Except.map] using halike
      obtain ⟨d, hd, hbare⟩ := ih h (fun s hs => hss s (List.mem_cons_of_mem _ hs))
        (hs.keepsVersions hc' hrun') (hs.keepsVersions hc hrun) hsame
      exact ⟨d, succeeds_cons.mpr ⟨e, hrun, hd⟩, hbare⟩

/-- The tables that are there keep their rows, but for the columns that are added to them. -/
theorem Succeeds.table?_eq (h : Succeeds now c ss d) (hss : ∀ s ∈ ss, s.IsRegular)
    (hc : c.KeepsVersions) (hname : sameName name versionTable.name = false)
    (ht : c.table? name = some t) :
    d.table? name = some ((ss.filterMap (added? name)).foldl Table.withColumn t) := by
  induction ss generalizing c t with
  | nil => rw [succeeds_nil.mp h, ht, List.filterMap_nil, List.foldl_nil]
  | cons s ss ih =>
    obtain ⟨e, hrun, h⟩ := succeeds_cons.mp h
    have hs := hss s List.mem_cons_self
    have hstep : e.table? name = some ((s.added? name).elim t t.withColumn) := by
      rcases hs with hs | ⟨k, rfl⟩
      · exact table?_run hrun hs.isChange ht
      · exact ((hc.record hrun).others name hname).trans ht
    rw [ih h (fun s hs => hss s (List.mem_cons_of_mem _ hs)) (hs.keepsVersions hc hrun) hstep,
      List.filterMap_cons]
    cases s.added? name <;> rfl

end Statement

namespace Catalog

/-! ## Complete databases -/

/-- What the first migrations make of an empty database. -/
def grown (n : Nat) : Catalog :=
  (Statement.runAll (.ofSeconds 0) (empty.withTable versionTable)
    ((migrations.take n).flatMap Migration.statements)).2

/-- The database has all that the first `n` migrations make, and any rows that have a content for every
column. -/
structure IsComplete (c : Catalog) (n : Nat) : Prop where
  isVersioned : c.IsVersioned
  newest : c.newest = n
  schema : c.bare = (grown n).bare
  fits : ∀ name t, c.table? name = some t → ∀ r ∈ t.rows, r.row.map (·.name) = t.columns.map (·.name)

theorem isVersioned_empty : empty.IsVersioned := fun t ht => by simp [table?, empty] at ht

theorem withVersionTable_empty : empty.withVersionTable = .ok (empty.withTable versionTable) := rfl

/-- All migrations succeed in an empty database. -/
theorem succeeds_migrations :
    ∃ d, Statement.Succeeds (.ofSeconds 0) (empty.withTable versionTable)
      (migrations.flatMap Migration.statements) d := by
  have hall : (Statement.runAll (.ofSeconds 0) (empty.withTable versionTable)
      (migrations.flatMap Migration.statements)).1.isOk = true := by decide +kernel
  generalize hrun : Statement.runAll (.ofSeconds 0) (empty.withTable versionTable)
    (migrations.flatMap Migration.statements) = run at hall
  obtain ⟨_ | u, d⟩ := run
  · simp [Except.isOk, Except.toBool] at hall
  · exact ⟨d, Statement.runAll_eq_ok.mp hrun⟩

/-- The statements of the later migrations succeed where the first ones were made. -/
theorem succeeds_grown (n : Nat) :
    (grown n).KeepsVersions ∧ Statement.Succeeds (.ofSeconds 0) (grown n)
      ((migrations.drop n).flatMap Migration.statements) (grown migrations.length) := by
  obtain ⟨hempty, -⟩ := keepsVersions_of_opened isVersioned_empty withVersionTable_empty
  obtain ⟨d, hd⟩ := succeeds_migrations
  have hsplit : Statement.Succeeds (.ofSeconds 0) (empty.withTable versionTable)
      ((migrations.take n).flatMap Migration.statements ++
        (migrations.drop n).flatMap Migration.statements) d := by
    rw [← List.flatMap_append, List.take_append_drop]
    exact hd
  obtain ⟨c, hfirst, hlast⟩ := Statement.succeeds_append.mp hsplit
  have hgrown : grown n = c := by rw [grown, Statement.runAll_eq_ok.mpr hfirst]
  have hall : grown migrations.length = d := by
    rw [grown, List.take_length, Statement.runAll_eq_ok.mpr hd]
  rw [hgrown, hall]
  exact ⟨hfirst.keeps hempty fun s hs a b =>
    (Statement.isRegular_of_subset (List.take_subset _ _) s hs).keepsVersions, hlast⟩

theorem upgrade_of_succeeds {v : Int} {ms : List Migration} (h : Statement.Succeeds now c
    ((ms.filter fun m => v < m.version).flatMap Migration.statements) d) :
    c.upgrade now v ms = (.ok (), d) := by
  induction ms generalizing c with
  | nil => rw [upgrade, Statement.succeeds_nil.mp h]
  | cons m ms ih =>
    by_cases hm : v < m.version
    · rw [List.filter_cons_of_pos (by simpa using hm), List.flatMap_cons,
        Statement.succeeds_append] at h
      obtain ⟨e, hrun, hrest⟩ := h
      rw [upgrade, if_pos hm, Statement.runAll_eq_ok.mpr hrun]
      exact ih hrest
    · rw [List.filter_cons_of_neg (by simpa using hm)] at h
      rw [upgrade_cons_of_le hm]
      exact ih h

theorem missing_eq_drop {n : Nat} (h : c.newest = n) : c.missing = migrations.drop n := by
  unfold missing
  rw [h]
  match n with
  | 0 | 1 | 2 | 3 => rfl
  | n + 4 =>
    rw [List.drop_eq_nil_of_le (by simp [migrations]), List.filter_eq_nil_iff]
    intro m hm
    have hle : m.version ≤ 3 := by
      simp only [migrations, List.mem_cons, List.not_mem_nil, or_false] at hm
      rcases hm with rfl | rfl | rfl <;> decide
    simp only [decide_eq_true_eq]
    omega

/-- The columns that the later migrations add to a table. -/
theorem added_drop (n : Nat) (name : String) :
    ((migrations.drop n).flatMap Migration.statements).filterMap (Statement.added? name) =
      if n < 3 ∧ sameName name "sessions" = true then [expiryColumn] else [] := by
  match n with
  | 0 | 1 | 2 =>
    cases hname : sameName name "sessions" <;>
      simp [migrations, Migration.statements, accountsAndEntities, batches, expiryAndContacts,
        Statement.added?, hname, List.filterMap_cons]
  | n + 3 =>
    rw [List.drop_eq_nil_of_le (by simp [migrations]), if_neg (by omega)]
    rfl

/-- A run succeeds where the first migrations were made, and makes all others. -/
theorem migrate_of_schema {n : Nat} (now : Instant) (hc : c.IsVersioned)
    (hopened : c.withVersionTable = .ok c') (hnewest : c.newest = n)
    (hschema : c'.bare = (grown n).bare) :
    ∃ d, c.migrate now = (.ok (), d) ∧ d.bare = (grown migrations.length).bare ∧
      Statement.Succeeds now c' ((migrations.drop n).flatMap Migration.statements) d := by
  obtain ⟨hc', hsame⟩ := keepsVersions_of_opened hc hopened
  obtain ⟨t, ht, hversions⟩ := hc'.holds
  obtain ⟨hgrown, hsucceeds⟩ := succeeds_grown n
  obtain ⟨d, hd, hdschema⟩ := hsucceeds.of_bare now
    (Statement.isRegular_of_subset (List.drop_subset _ _)) hgrown hc' hschema
  refine ⟨d, ?_, hdschema, hd⟩
  have hversion : c'.version = .ok c.newest := by
    rw [version_eq ht hversions, newest, newest, hsame]
  simp only [migrate, hopened, hversion]
  refine upgrade_of_succeeds ?_
  rw [← missing, missing_eq_drop hnewest]
  exact hd

/-- A run succeeds in an empty database. -/
theorem migrate_empty (now : Instant) :
    (empty.migrate now).1 = .ok () ∧ (empty.migrate now).2.bare = (grown migrations.length).bare := by
  obtain ⟨d, hd, hschema, -⟩ := migrate_of_schema (n := 0) now isVersioned_empty withVersionTable_empty
    rfl rfl
  rw [hd]
  exact ⟨rfl, hschema⟩

theorem IsComplete.keepsVersions {n : Nat} (h : c.IsComplete n) :
    c.KeepsVersions ∧ c.withVersionTable = .ok c := by
  have hmade : c.hasTable versionTable.name = true := by
    rw [← hasTable_bare, h.schema, hasTable_bare]
    exact (succeeds_grown n).1.isMade
  have hopened : c.withVersionTable = .ok c := by rw [withVersionTable, if_pos hmade]
  exact ⟨(keepsVersions_of_opened h.isVersioned hopened).1, hopened⟩

/-! ## Old sessions -/

/-- What is found in a row that has no content in a column of that name is what is put there. -/
theorem content?_withEntry {r : Record} {e : Expression.Entry}
    (h : ∀ n ∈ r.row.map (·.name), sameName n e.name = false) :
    (r.withEntry e).content? e.name = e.content := by
  have hnone : r.row.find? (fun x => sameName x.name e.name) = none := by
    refine List.find?_eq_none.mpr fun x hx => ?_
    rw [h _ (List.mem_map_of_mem hx)]
    exact Bool.false_ne_true
  simp [Record.content?, Record.withEntry, Expression.Row.entry?, List.find?_append, hnone,
    sameName_self]

/-- Sessions have no expiry before the last migration. -/
theorem IsComplete.unlimited {n : Nat} (h : c.IsComplete n) (hn : n < 3)
    (ht : c.table? "sessions" = some t) :
    ∀ r ∈ t.rows, (r.withEntry (Table.entry expiryColumn (some .null))).content? "expires_at" =
      some .null := by
  have hcolumns : ∀ n < 3, ((grown n).table? "sessions").all (fun t =>
      t.columns.all fun c => !sameName c.name "expires_at") = true := by decide +kernel
  have hfound := c.table?_bare "sessions"
  rw [h.schema, table?_bare, ht] at hfound
  obtain ⟨u, hu, hsame⟩ := Option.map_eq_some_iff.mp hfound
  have hsamecolumns : u.bare.columns = t.bare.columns := by rw [hsame]
  have hall := hcolumns n hn
  rw [hu, Option.all_some, show u.columns = t.columns from hsamecolumns] at hall
  intro r hr
  have hput : (Table.entry expiryColumn (some .null)).content = some .null := by
    decide +kernel
  refine (content?_withEntry fun name hname => ?_).trans hput
  rw [h.fits "sessions" t ht r hr] at hname
  obtain ⟨column, hcolumn, rfl⟩ := List.mem_map.mp hname
  have hother : sameName column.name "expires_at" = false := by
    simpa using List.all_eq_true.mp hall column hcolumn
  exact hother

/-! ## Convergence -/

/-- What a run does to the versions: those that are missing are recorded from the least on, up to the
first migration that breaks. -/
structure Advances (now : Instant) (c : Catalog) (made left : List Migration)
    (result : Except EngineFault Unit) (d : Catalog) : Prop where
  ends : Ends now c made left result d
  versions : d.versions = c.versions ++ made.map fun m => .integer m.version
  numbers : made.map (·.version) ++ left.map (·.version) = [1, 2, 3].filter fun k => c.newest < k
  /-- Temporary tables belong to a connection and not to the database. Only where one stands in for a
  table of versions that an index of its name keeps from being made can a run fail with nothing left. -/
  isOk : c.hides versionTable.name = false ∨ c.hasIndex versionTable.name = false →
    (result = .ok () ↔ left = [])

/-- What a run makes of a database that has all that the first `n` migrations make: it gets the schema
that an empty one gets, and keeps its tables, with one more column for sessions. -/
structure Updates (n : Nat) (c : Catalog) (result : Except EngineFault Unit) (d : Catalog) : Prop where
  isOk : result = .ok ()
  schema : ∀ now, d.bare = (empty.migrate now).2.bare
  tables : ∀ name t, c.table? name = some t → sameName name versionTable.name = false →
    d.table? name =
      some (if n < 3 ∧ sameName name "sessions" = true then t.withColumn expiryColumn else t)
  unlimited : n < 3 → ∀ t, c.table? "sessions" = some t →
    ∃ u, d.table? "sessions" = some u ∧ u.rows.map (·.number) = t.rows.map (·.number) ∧
      ∀ r ∈ u.rows, r.content? "expires_at" = some .null

/-- Runs of the migrations bring a database to a state in which it stays. -/
structure Converges (start : Catalog) : Prop where
  advances : ∀ times now, ∃ made left, Advances now (start.after times) made left
    ((start.after times).migrate now).1 ((start.after times).migrate now).2
  settles : ∀ times now, ((start.after times).migrate now).1 = .ok () → ∀ later now',
    (start.after (times ++ now :: later)).migrate now' = (.ok (), start.after (times ++ [now]))
  empty : start = .empty → ∀ now, (start.migrate now).1 = .ok ()
  updates : ∀ n, start.IsComplete n → ∀ now,
    Updates n start (start.migrate now).1 (start.migrate now).2

theorem migrations_versions : migrations.map (·.version) = [1, 2, 3] := rfl

theorem Ends.advances {made left : List Migration} {result : Except EngineFault Unit}
    (h : Ends now c made left result d) (hc : c.IsVersioned) :
    Advances now c made left result d where
  ends := h
  versions := by
    obtain ⟨hd, hrecorded⟩ := h.recorded_eq hc
    rw [hd.versions_eq, hc.versions_eq, hrecorded, List.map_append, List.map_map]
    rfl
  numbers := by
    rw [← List.map_append, ← h.missing_eq, missing, ← migrations_versions, List.filter_map]
    rfl
  isOk := by
    intro hshown
    cases h with
    | complete => exact iff_of_true rfl rfl
    | broken => exact iff_of_false (by simp) (by simp)
    | closed hclosed =>
      -- without a table of versions nothing is recorded, so that all migrations are missing
      have hclash : c.hasTable versionTable.name = false ∧ c.hasIndex versionTable.name = true := by
        cases hmade : c.hasTable versionTable.name <;> cases hindex : c.hasIndex versionTable.name <;>
          simp [withVersionTable, hmade, hindex] at hclosed ⊢
      have hnone : c.table? versionTable.name = none := by
        have htemporary : c.temporary.any (fun t => sameName t.name versionTable.name) = false :=
          hshown.resolve_right (by simp [hclash.2])
        refine List.find?_eq_none.mpr fun t ht => ?_
        rcases List.mem_append.mp ht with ht | ht
        · exact List.any_eq_false.mp htemporary t ht
        · exact List.any_eq_false.mp hclash.1 t ht
      have hmissing : c.missing = migrations := by
        rw [missing, newest, recorded, versions, hnone]
        rfl
      exact iff_of_false (by simp) (by simp [hmissing, migrations])

theorem IsComplete.updates {n : Nat} (h : c.IsComplete n) (now : Instant) :
    Updates n c (c.migrate now).1 (c.migrate now).2 := by
  obtain ⟨hkeeps, hopened⟩ := h.keepsVersions
  obtain ⟨d, hd, hschema, hsucceeds⟩ :=
    migrate_of_schema now h.isVersioned hopened h.newest h.schema
  have htables : ∀ name t, c.table? name = some t → sameName name versionTable.name = false →
      d.table? name =
        some (if n < 3 ∧ sameName name "sessions" = true then t.withColumn expiryColumn else t) := by
    intro name t ht hname
    rw [hsucceeds.table?_eq (Statement.isRegular_of_subset (List.drop_subset _ _)) hkeeps hname ht,
      added_drop]
    split <;> rfl
  rw [hd]
  exact {
    isOk := rfl
    schema := fun now => hschema.trans (migrate_empty now).2.symm
    tables := htables
    unlimited := by
      intro hn t ht
      have hother : sameName "sessions" versionTable.name = false := by decide +kernel
      have hu := htables "sessions" t ht hother
      rw [if_pos ⟨hn, sameName_self _⟩] at hu
      refine ⟨_, hu, ?_, ?_⟩
      · simp [Table.withColumn, Record.withEntry]
      · intro r hr
        obtain ⟨old, hold, rfl⟩ := List.mem_map.mp hr
        exact h.unlimited hn ht old hold }

end Catalog

/-- From every database that records integers as versions, if any, the migrations converge. -/
theorem migrate_converges {start : Catalog} (h : start.IsVersioned) : start.Converges where
  advances := by
    intro times now
    have hversioned := Catalog.isVersioned_after h times
    obtain ⟨made, left, hends⟩ := Catalog.migrate_ends now hversioned
    exact ⟨made, left, hends.advances hversioned⟩
  settles := by
    intro times now hok later now'
    have hversioned := Catalog.isVersioned_after h times
    obtain ⟨made, left, hends⟩ := Catalog.migrate_ends now hversioned
    rw [hok] at hends
    obtain ⟨hkeeps, hmissing⟩ := hends.missing_eq_nil hversioned
    rw [Catalog.after_append, Catalog.after_append]
    show (((start.after times).migrate now).2.after later).migrate now' =
      (.ok (), ((start.after times).migrate now).2)
    have hsame := fun now => congrArg Prod.snd (hkeeps.migrate hmissing now)
    rw [Catalog.after_eq_self hsame, hkeeps.migrate hmissing]
  empty := by
    rintro rfl now
    exact (Catalog.migrate_empty now).1
  updates := fun n hn now => hn.updates now

/-- The table with the row of one session. -/
def Table.withSession (t : Table) : Table :=
  { t with rows := [⟨1, [entry (.text "session_id") (some (.text "s")),
      entry (.text "user_id") (some (.text "u")),
      entry (.text "created_at") (some (.text "2024-01-01 00:00:00"))]⟩] }

/-- A database of version 2 with one session. -/
def olderDatabase : Catalog := (Catalog.grown 2).change "sessions" Table.withSession

theorem isComplete_olderDatabase : olderDatabase.IsComplete 2 := by
  obtain ⟨t, ht, hversions⟩ := (Catalog.succeeds_grown 2).1.holds
  have hother : sameName versionTable.name "sessions" = false := by decide +kernel
  have hfits : (olderDatabase.tables.all fun t => t.rows.all fun r =>
      r.row.map (·.name) = t.columns.map (·.name)) = true := by decide +kernel
  have htemporary : olderDatabase.temporary = [] := List.isEmpty_iff.mp (by decide +kernel)
  refine ⟨fun u hu => ?_, by decide +kernel, ?_, fun name t ht r hr => ?_⟩
  · have hname : ∀ t : Table, t.withSession.name = t.name := fun _ => rfl
    rw [olderDatabase, Catalog.table?_change hname, ht, hother] at hu
    exact Option.some.inj hu ▸ hversions
  · have hbare : ∀ t : Table, t.withSession.bare = t.bare := fun _ => rfl
    exact Catalog.bare_change_eq_self _ _ hbare
  · have hmem := List.mem_of_find?_eq_some ht
    rw [htemporary] at hmem
    exact of_decide_eq_true (List.all_eq_true.mp (List.all_eq_true.mp hfits t hmem) r hr)

theorem migrate_converges_olderDatabase :
    olderDatabase.IsComplete 2 ∧ olderDatabase.Converges :=
  ⟨isComplete_olderDatabase, migrate_converges isComplete_olderDatabase.isVersioned⟩

end AlertService.Schema
