import AlertService.Proofs.Schema.Versions

/-!
# Runs of the migrations

A run makes the missing migrations one after the other. Each records its version with its last statement,
so what is recorded tells which migrations were made; where a statement fails, the run ends there.

* `Catalog.migrate_ends`: the three ways in which a run ends.
* `Catalog.Ends.recorded_eq`: the versions that a run records are those of the migrations that it made.
* `Catalog.KeepsVersions.migrate`: a run does nothing where nothing is missing.
-/

namespace AlertService.Schema

variable {now : Instant} {c d e : Catalog} {m : Migration} {made left : List Migration}
  {f : EngineFault} {result : Except EngineFault Unit}

/-! ## Single migrations -/

namespace Migration

/-- The changes of the migration spare the table of versions. -/
def SparesVersions (m : Migration) : Prop := ∀ s ∈ m.changes, s.SparesVersions

/-- A statement of the migration fails after the ones before it have succeeded. -/
def Breaks (now : Instant) (m : Migration) (c d : Catalog) (f : EngineFault) : Prop :=
  ∃ before s after, m.statements = before ++ s :: after ∧ Statement.Succeeds now c before d ∧
    s.run now d = .error f

/-- Statements before another one of a migration are changes. -/
theorem subset_changes {before after : List Statement} {s : Statement}
    (h : m.statements = before ++ s :: after) : before ⊆ m.changes := by
  have hlength := congrArg List.length h
  simp only [statements, List.length_append, List.length_cons, List.length_nil] at hlength
  have hprefix : before <+: m.changes ++ [.recordVersion m.version] := ⟨s :: after, h.symm⟩
  exact (List.prefix_of_prefix_length_le hprefix (List.prefix_append _ _) (by omega)).subset

end Migration

/-- Changes that spare the table of versions leave it as it is. -/
theorem Statement.Succeeds.keepsVersions {ss : List Statement} (h : Statement.Succeeds now c ss d)
    (hss : ∀ s ∈ ss, s.SparesVersions) (hc : c.KeepsVersions) :
    d.KeepsVersions ∧ d.recorded = c.recorded := by
  refine h.keeps (P := fun d => d.KeepsVersions ∧ d.recorded = c.recorded) ⟨hc, rfl⟩ ?_
  intro s hs a b ⟨ha, hrecorded⟩ hrun
  obtain ⟨hb, hsame⟩ := (hss s hs).keeps ha hrun
  exact ⟨hb, hsame.trans hrecorded⟩

/-- A broken migration records nothing. -/
theorem Migration.Breaks.keepsVersions (h : m.Breaks now c d f) (hm : m.SparesVersions)
    (hc : c.KeepsVersions) : d.KeepsVersions ∧ d.recorded = c.recorded := by
  obtain ⟨before, s, after, hstatements, hbefore, -⟩ := h
  exact hbefore.keepsVersions (fun s hs => hm s (subset_changes hstatements hs)) hc

/-! ## Lists of migrations -/

/-- Migrations are made one after the other. The changes of each succeed first and record nothing; then
its version is recorded. -/
inductive Makes (now : Instant) : Catalog → List Migration → Catalog → Prop
  | nil (c : Catalog) : Makes now c [] c
  | cons {a b c d : Catalog} {m : Migration} {ms : List Migration}
      (changes : Statement.Succeeds now a m.changes b) (unrecorded : b.recorded = a.recorded)
      (record : Statement.run now b (.recordVersion m.version) = .ok c)
      (recorded : c.recorded = b.recorded ++ [m.version]) (rest : Makes now c ms d) :
      Makes now a (m :: ms) d

namespace Makes

theorem recorded_eq (h : Makes now c made d) :
    d.recorded = c.recorded ++ made.map (·.version) := by
  induction h with
  | nil c => simp
  | cons _ hunrecorded _ hrecorded _ ih =>
    rw [ih, hrecorded, hunrecorded, List.map_cons, List.append_assoc, List.singleton_append]

theorem keepsVersions (h : Makes now c made d) (hmade : ∀ m ∈ made, m.SparesVersions)
    (hc : c.KeepsVersions) : d.KeepsVersions := by
  induction h with
  | nil c => exact hc
  | cons hchanges _ hrecord _ _ ih =>
    obtain ⟨hb, -⟩ := hchanges.keepsVersions (hmade _ List.mem_cons_self) hc
    exact ih (fun m hm => hmade m (List.mem_cons_of_mem _ hm)) (hb.record hrecord).keeps

end Makes

namespace Catalog

theorem upgrade_cons_of_le {v : Int} {ms : List Migration} (h : ¬v < m.version) :
    c.upgrade now v (m :: ms) = c.upgrade now v ms := by
  rw [upgrade, if_neg h]

/-- The migrations above a version are all made, or one of them breaks after the ones before it were
made. -/
theorem upgrade_ends {v : Int} {ms : List Migration} (h : c.upgrade now v ms = (result, d))
    (hms : ∀ m ∈ ms, m.SparesVersions) (hc : c.KeepsVersions) :
    (result = .ok () ∧ Makes now c (ms.filter fun m => v < m.version) d) ∨
      ∃ made m left e f, (ms.filter fun m => v < m.version) = made ++ m :: left ∧
        Makes now c made e ∧ m.Breaks now e d f ∧ result = .error f := by
  induction ms generalizing c with
  | nil =>
    simp only [upgrade, Prod.mk.injEq] at h
    obtain ⟨rfl, rfl⟩ := h
    exact .inl ⟨rfl, .nil c⟩
  | cons m ms ih =>
    have hrest : ∀ m ∈ ms, m.SparesVersions := fun m hm => hms m (List.mem_cons_of_mem _ hm)
    by_cases hm : v < m.version
    · rw [List.filter_cons_of_pos (by simpa using hm)]
      rw [upgrade, if_pos hm] at h
      cases hrun : Statement.runAll now c m.statements with
      | mk outcome e =>
      cases outcome with
      | error f =>
        simp only [hrun, Prod.mk.injEq] at h
        obtain ⟨rfl, rfl⟩ := h
        exact .inr ⟨[], m, _, c, f, rfl, .nil c, Statement.runAll_eq_error.mp hrun, rfl⟩
      | ok u =>
        simp only [hrun] at h
        obtain ⟨b, hchanges, hrecord⟩ :=
          Statement.succeeds_append.mp (Statement.runAll_eq_ok.mp hrun)
        rw [Statement.succeeds_singleton] at hrecord
        obtain ⟨hb, hsame⟩ := hchanges.keepsVersions (hms m List.mem_cons_self) hc
        have hrecords := hb.record hrecord
        rcases ih h hrest hrecords.keeps with ⟨hok, hmade⟩ | ⟨made, n, left, e, f, hsplit, hmade, hn, hf⟩
        · exact .inl ⟨hok, .cons hchanges hsame hrecord hrecords.recorded hmade⟩
        · refine .inr ⟨m :: made, n, left, e, f, ?_, ?_, hn, hf⟩
          · rw [hsplit, List.cons_append]
          · exact .cons hchanges hsame hrecord hrecords.recorded hmade
    · rw [List.filter_cons_of_neg (by simpa using hm)]
      rw [upgrade_cons_of_le hm] at h
      exact ih h hrest hc

/-! ## Runs -/

/-- The migrations above the greatest recorded version. -/
def missing (c : Catalog) : List Migration := migrations.filter fun m => c.newest < m.version

/-- How a run ends, with the missing migrations that it made and those that are left: there can be no
table of versions, all missing migrations were made, or one of them broke. -/
inductive Ends (now : Instant) (c : Catalog) :
    List Migration → List Migration → Except EngineFault Unit → Catalog → Prop
  | closed {f : EngineFault} (closed : c.withVersionTable = .error f) :
      Ends now c [] c.missing (.error f) c
  | complete {e d : Catalog} (opened : c.withVersionTable = .ok e) (makes : Makes now e c.missing d) :
      Ends now c c.missing [] (.ok ()) d
  | broken {e b d : Catalog} {made left : List Migration} {m : Migration} {f : EngineFault}
      (opened : c.withVersionTable = .ok e) (missing : c.missing = made ++ m :: left)
      (makes : Makes now e made b) (breaks : m.Breaks now b d f) :
      Ends now c made (m :: left) (.error f) d

theorem sparesVersions_migrations : ∀ m ∈ migrations, m.SparesVersions := by
  have hother : sameName versionTable.name "sessions" = false := by decide +kernel
  have hcreate : ∀ t : Table, t.bare = t → (Statement.createTable t).SparesVersions :=
    fun t ht => ⟨trivial, ht, rfl⟩
  have hindex : ∀ i, (Statement.createIndex i).SparesVersions :=
    fun _ => ⟨trivial, trivial, rfl⟩
  have hadd : (Statement.addColumn "sessions" expiryColumn).SparesVersions :=
    ⟨trivial, trivial, by rw [Statement.added?, hother]; rfl⟩
  have howned : ∀ name columns references,
      (Table.owned name columns references).bare = Table.owned name columns references :=
    fun _ _ _ => Table.bare_made ..
  intro m hm
  simp only [migrations, List.mem_cons, List.not_mem_nil, or_false] at hm
  rcases hm with rfl | rfl | rfl <;>
    simp [Migration.SparesVersions, accountsAndEntities, batches, expiryAndContacts, hcreate, hindex,
      hadd, howned, Table.bare_made, Table.bare_withKey]

theorem KeepsVersions.isVersioned (hc : c.KeepsVersions) : c.IsVersioned := by
  obtain ⟨t, ht, hversions⟩ := hc.holds
  intro u hu
  obtain rfl : t = u := Option.some.inj (ht.symm.trans hu)
  exact hversions

/-- A new table of versions records nothing. -/
theorem keepsVersions_withTable (hc : c.IsVersioned)
    (hnew : c.hasTable versionTable.name = false) :
    (c.withTable versionTable).KeepsVersions ∧
      (c.withTable versionTable).recorded = c.recorded := by
  have hmakes : c.withTable versionTable = { c with tables := c.tables ++ [versionTable] } := by
    rw [withTable, if_neg (by simp [hnew])]
    rfl
  have hisMade : (c.withTable versionTable).hasTable versionTable.name = true := by
    rw [hmakes]
    simp [hasTable, sameName_self]
  cases ht : c.table? versionTable.name with
  | some t =>
    have hfound := table?_withTable ht versionTable
    exact ⟨⟨⟨t, hfound, hc t ht⟩, hisMade⟩, by rw [recorded_eq ht, recorded_eq hfound]⟩
  | none =>
    have hfound : (c.withTable versionTable).table? versionTable.name = some versionTable := by
      rw [table?_eq] at ht
      rw [hmakes, table?_eq, List.find?_append, ← Option.or_assoc, ht, Option.none_or]
      simp [sameName_self]
    refine ⟨⟨⟨versionTable, hfound, rfl, ?_⟩, hisMade⟩, ?_⟩
    · intro r hr
      exact absurd hr List.not_mem_nil
    · rw [recorded_eq hfound, recorded, versions, ht]
      rfl

/-- A table of versions that is made first keeps what is recorded. -/
theorem keepsVersions_of_opened (hc : c.IsVersioned) (h : c.withVersionTable = .ok e) :
    e.KeepsVersions ∧ e.recorded = c.recorded := by
  unfold withVersionTable at h
  split at h
  · rename_i hmade
    obtain rfl : c = e := Except.ok.inj h
    obtain ⟨t, ht, hname⟩ := List.any_eq_true.mp hmade
    have hfound : (c.table? versionTable.name).isSome = true :=
      List.find?_isSome.mpr ⟨t, List.mem_append_right _ ht, hname⟩
    obtain ⟨u, hu⟩ := Option.isSome_iff_exists.mp hfound
    exact ⟨⟨⟨u, hu, hc u hu⟩, hmade⟩, rfl⟩
  · rename_i hnew
    obtain ⟨-, h⟩ := ite_error_eq_ok.mp h
    obtain rfl : c.withTable versionTable = e := Except.ok.inj h
    exact keepsVersions_withTable hc (Bool.not_eq_true _ ▸ hnew)

/-- A run ends in one of the three ways. -/
theorem migrate_ends (now : Instant) (hc : c.IsVersioned) :
    ∃ made left, Ends now c made left (c.migrate now).1 (c.migrate now).2 := by
  unfold migrate
  cases hopened : c.withVersionTable with
  | error f => exact ⟨_, _, .closed hopened⟩
  | ok e =>
    obtain ⟨he, hsame⟩ := keepsVersions_of_opened hc hopened
    obtain ⟨t, ht, hversions⟩ := he.holds
    have hversion : e.version = .ok c.newest := by
      rw [version_eq ht hversions, newest, newest, hsame]
    simp only [hversion]
    cases hrun : e.upgrade now c.newest migrations with
    | mk result d =>
    rcases upgrade_ends hrun sparesVersions_migrations he with
      ⟨rfl, hmade⟩ | ⟨made, m, left, b, f, hsplit, hmade, hm, rfl⟩
    · exact ⟨_, _, .complete hopened hmade⟩
    · exact ⟨_, _, .broken hopened hsplit hmade hm⟩

theorem missing_subset (c : Catalog) : c.missing ⊆ migrations := fun _ hm =>
  (List.mem_filter.mp hm).1

theorem newest_lt_of_missing (hm : m ∈ c.missing) : c.newest < m.version :=
  of_decide_eq_true (List.mem_filter.mp hm).2

namespace Ends

theorem missing_eq (h : Ends now c made left result d) : c.missing = made ++ left := by
  cases h with
  | closed => rfl
  | complete => exact (List.append_nil _).symm
  | broken _ hmissing => exact hmissing

theorem sparesVersions (h : Ends now c made left result d) :
    (∀ m ∈ made, m.SparesVersions) ∧ ∀ m ∈ left, m.SparesVersions := by
  have hmissing : ∀ m ∈ made ++ left, m.SparesVersions := by
    intro m hm
    rw [← h.missing_eq] at hm
    exact sparesVersions_migrations m (missing_subset c hm)
  exact ⟨fun m hm => hmissing m (List.mem_append_left _ hm),
    fun m hm => hmissing m (List.mem_append_right _ hm)⟩

/-- The versions that a run records are those of the migrations that it made. -/
theorem recorded_eq (h : Ends now c made left result d) (hc : c.IsVersioned) :
    d.IsVersioned ∧ d.recorded = c.recorded ++ made.map (·.version) := by
  obtain ⟨hmade, hleft⟩ := h.sparesVersions
  cases h with
  | closed => exact ⟨hc, by simp⟩
  | complete hopened hmakes =>
    obtain ⟨he, hsame⟩ := keepsVersions_of_opened hc hopened
    exact ⟨(hmakes.keepsVersions hmade he).isVersioned, by rw [hmakes.recorded_eq, hsame]⟩
  | broken hopened _ hmakes hbreaks =>
    obtain ⟨he, hsame⟩ := keepsVersions_of_opened hc hopened
    obtain ⟨hd, hunrecorded⟩ :=
      hbreaks.keepsVersions (hleft _ List.mem_cons_self) (hmakes.keepsVersions hmade he)
    exact ⟨hd.isVersioned, by rw [hunrecorded, hmakes.recorded_eq, hsame]⟩

end Ends

/-! ## Runs one after the other -/

/-- The database after some runs, one after the other. -/
def after (c : Catalog) (times : List Instant) : Catalog :=
  times.foldl (fun c now => (c.migrate now).2) c

theorem isVersioned_after (hc : c.IsVersioned) (times : List Instant) :
    (c.after times).IsVersioned := by
  induction times generalizing c with
  | nil => exact hc
  | cons now times ih =>
    obtain ⟨made, left, hends⟩ := migrate_ends now hc
    exact ih (hends.recorded_eq hc).1

theorem after_append (c : Catalog) (times later : List Instant) :
    c.after (times ++ later) = (c.after times).after later :=
  List.foldl_append

/-- Where a run changes nothing, any number of runs changes nothing. -/
theorem after_eq_self (h : ∀ now, (c.migrate now).2 = c) (times : List Instant) :
    c.after times = c := by
  induction times with
  | nil => rfl
  | cons now times ih => rw [after, List.foldl_cons, h now]; exact ih

/-! ## After a run that succeeded -/

theorem le_newest {k : Int} (hk : k ∈ c.recorded) : k ≤ c.newest := by
  unfold newest
  cases hmax : c.recorded.max? with
  | none =>
    rw [List.max?_eq_none_iff.mp hmax] at hk
    exact absurd hk List.not_mem_nil
  | some i => exact (List.max?_eq_some_iff.mp hmax).2 k hk

/-- More versions that are newer do not make a catalog older. -/
theorem newest_le {ks : List Int} (hd : d.recorded = c.recorded ++ ks)
    (hks : ∀ k ∈ ks, c.newest < k) : c.newest ≤ d.newest := by
  cases ks with
  | nil =>
    have hsame : c.newest = d.newest := by rw [newest, newest, hd, List.append_nil]
    exact Int.le_of_eq hsame
  | cons k ks =>
    have hk := hks k List.mem_cons_self
    have hle : k ≤ d.newest := le_newest (hd ▸ List.mem_append_right _ List.mem_cons_self)
    omega

/-- Nothing is missing after a run that succeeded. -/
theorem Ends.missing_eq_nil (h : Ends now c made left (.ok ()) d) (hc : c.IsVersioned) :
    d.KeepsVersions ∧ d.missing = [] := by
  obtain ⟨-, hrecorded⟩ := h.recorded_eq hc
  obtain ⟨hmade, -⟩ := h.sparesVersions
  cases h with
  | complete hopened hmakes =>
    obtain ⟨he, -⟩ := keepsVersions_of_opened hc hopened
    refine ⟨hmakes.keepsVersions hmade he, List.filter_eq_nil_iff.mpr ?_⟩
    intro m hm
    have hle := newest_le hrecorded (List.forall_mem_map.mpr fun _ => newest_lt_of_missing)
    by_cases hmissing : c.newest < m.version
    · have hmem : m ∈ c.missing := List.mem_filter.mpr ⟨hm, by simpa using hmissing⟩
      have := le_newest (hrecorded ▸ List.mem_append_right _ (List.mem_map_of_mem hmem))
      simpa using this
    · simp only [decide_eq_true_eq]
      omega

/-- A run does nothing where nothing is missing. -/
theorem KeepsVersions.migrate (hc : c.KeepsVersions) (hmissing : c.missing = []) (now : Instant) :
    c.migrate now = (.ok (), c) := by
  have hopened : c.withVersionTable = .ok c := by rw [withVersionTable, if_pos hc.isMade]
  obtain ⟨t, ht, hversions⟩ := hc.holds
  have hupgrade : ∀ ms : List Migration, (ms.filter fun m => c.newest < m.version) = [] →
      c.upgrade now c.newest ms = (.ok (), c) := by
    intro ms hms
    induction ms with
    | nil => rfl
    | cons m ms ih =>
      rw [List.filter_eq_nil_iff] at hms ih
      have hm : ¬c.newest < m.version := by simpa using hms m List.mem_cons_self
      rw [upgrade_cons_of_le hm, ih fun n hn => hms n (List.mem_cons_of_mem _ hn)]
  simp only [Catalog.migrate, hopened, version_eq ht hversions]
  exact hupgrade migrations hmissing

end Catalog

end AlertService.Schema
