import AlertService.Proofs.Schema.Migrations

/-!
# Interrupted migrations

A run that fails leaves what the statements before the failing one did. As the version of the broken
migration is not recorded, the next run starts with its first statement again, and what that statement
made is in its own way: no later run gets any further.

* `Catalog.missing_of_recorded`: after a run, what it did not make is missing.
* `Statement.IsDone`: what a statement makes is there, so that the statement fails.
* `migrate_interrupted`: what is left by a run that fails.
-/

namespace AlertService.Schema

variable {now now' : Instant} {c d e : Catalog} {m : Migration} {made left : List Migration}
  {f : EngineFault} {s : Statement} {ss : List Statement}

namespace Catalog

/-! ## What is missing -/

theorem newest_mem (c : Catalog) : c.recorded = [] ∧ c.newest = 0 ∨ c.newest ∈ c.recorded := by
  unfold newest
  cases hmax : c.recorded.max? with
  | none => exact .inl ⟨List.max?_eq_none_iff.mp hmax, rfl⟩
  | some i => exact .inr (List.max?_eq_some_iff.mp hmax).1

/-- A version is newer than all others if it is newer than those from before and the added ones. -/
theorem newest_lt {ks : List Int} {v : Int} (hd : d.recorded = c.recorded ++ ks)
    (hks : ∀ k ∈ ks, c.newest < k) : d.newest < v ↔ c.newest < v ∧ ∀ k ∈ ks, k < v := by
  constructor
  · intro h
    have hle := newest_le hd hks
    refine ⟨by omega, fun k hk => ?_⟩
    have := le_newest (hd ▸ List.mem_append_right _ hk : k ∈ d.recorded)
    omega
  · rintro ⟨hold, hadded⟩
    rcases d.newest_mem with ⟨hnil, hzero⟩ | hmem
    · have hc : c.recorded = [] := (List.append_eq_nil_iff.mp (hd ▸ hnil)).1
      have : c.newest = 0 := by rw [newest, hc]; rfl
      omega
    · rcases List.mem_append.mp (hd ▸ hmem) with hmem | hmem
      · have := le_newest hmem
        omega
      · exact hadded _ hmem

/-- After a run, what it did not make is missing. -/
theorem missing_of_recorded (h : c.missing = made ++ left)
    (hd : d.recorded = c.recorded ++ made.map (·.version)) : d.missing = left := by
  have hascending : migrations.Pairwise fun m n => m.version < n.version := by
    simp [migrations, accountsAndEntities, batches, expiryAndContacts]
  have hsorted : (made ++ left).Pairwise fun m n => m.version < n.version :=
    h ▸ hascending.sublist List.filter_sublist
  have hnewer : ∀ k ∈ made.map (·.version), c.newest < k :=
    List.forall_mem_map.mpr fun m hm => newest_lt_of_missing (h ▸ List.mem_append_left _ hm)
  have hfilter : d.missing = c.missing.filter fun m => made.all fun n => n.version < m.version := by
    rw [missing, missing, List.filter_filter]
    refine List.filter_congr fun m _ => ?_
    rw [Bool.eq_iff_iff]
    simp only [Bool.and_eq_true, decide_eq_true_eq, List.all_eq_true, newest_lt hd hnewer,
      List.forall_mem_map]
    exact and_comm
  have hnone : (made.filter fun m => made.all fun n => n.version < m.version) = [] := by
    refine List.filter_eq_nil_iff.mpr fun m hm hall => ?_
    have := List.all_eq_true.mp hall m hm
    simp at this
  have hall : (left.filter fun m => made.all fun n => n.version < m.version) = left := by
    refine List.filter_eq_self.mpr fun m hm => List.all_eq_true.mpr fun n hn => ?_
    simpa using (List.pairwise_append.mp hsorted).2.2 n hn m hm
  rw [hfilter, h, List.filter_append, hnone, hall, List.nil_append]

end Catalog

/-! ## Statements that cannot be repeated -/

namespace Statement

/-- The table or the column that the statement makes is there. -/
def IsDone (s : Statement) (c : Catalog) : Prop :=
  match s with
  | .createTable t => c.hasTable t.name = true
  | .addColumn table column => ∃ t, c.table? table = some t ∧ (t.column? column.name).isSome = true
  | _ => False

/-- The statement makes a table or a column. -/
def Creates : Statement → Prop
  | .createTable _ | .addColumn _ _ => True
  | _ => False

theorem isDone_of_run (h : run now c s = .ok d) (hs : s.Creates) : s.IsDone d := by
  cases s with
  | createTable t =>
    obtain ⟨hnew, -, -, rfl⟩ := run_createTable_eq_ok.mp h
    show (c.withTable t).hasTable t.name = true
    rw [Catalog.withTable, if_neg (by simp [hnew])]
    refine List.any_eq_true.mpr ⟨t, ?_, sameName_self _⟩
    dsimp only
    split <;> simp
  | addColumn table column =>
    obtain ⟨t, ht, -, -, rfl⟩ := run_addColumn_eq_ok.mp h
    have hname : ∀ t : Table, (t.withColumn column).name = t.name := fun _ => rfl
    refine ⟨t.withColumn column, ?_, ?_⟩
    · rw [Catalog.table?_change hname, ht, sameName_self]
      rfl
    · exact List.find?_isSome.mpr ⟨column, by simp [Table.withColumn], sameName_self _⟩
  | createIndex | recordVersion => exact hs.elim

theorem IsDone.run {s' : Statement} (hs : s.IsDone c) (h : s'.run now c = .ok d)
    (hs' : s'.IsChange) : s.IsDone d := by
  cases s with
  | createTable t => exact hasTable_run h hs' hs
  | addColumn table column =>
    obtain ⟨t, ht, hcolumn⟩ := hs
    refine ⟨_, table?_run h hs' ht, ?_⟩
    cases s'.added? table with
    | none => exact hcolumn
    | some other =>
      obtain ⟨column', hmem, hname⟩ := List.find?_isSome.mp hcolumn
      exact List.find?_isSome.mpr ⟨column', List.mem_append_left _ hmem, hname⟩
  | createIndex | recordVersion => exact hs.elim

/-- What the first of some statements makes stays there to the end. -/
theorem Succeeds.isDone_head (h : Succeeds now c (s :: ss) d) (hs : s.Creates)
    (hss : ∀ s ∈ ss, s.IsChange) : s.IsDone d := by
  obtain ⟨e, hrun, hrest⟩ := succeeds_cons.mp h
  exact hrest.keeps (isDone_of_run hrun hs) fun s' hs' a b ha hab => ha.run hab (hss s' hs')

/-- A statement fails where what it makes is there. -/
theorem IsDone.fails (hs : s.IsDone c) (now : Instant) : ∃ f, s.run now c = .error f := by
  cases s with
  | createTable t =>
    have hmade : c.hasTable t.name = true := hs
    exact ⟨.tableExists t.name, by rw [Statement.run, if_pos hmade]⟩
  | addColumn table column =>
    obtain ⟨t, ht, hcolumn⟩ := hs
    simp only [Statement.run, ht, hcolumn, if_true]
    split
    · exact ⟨_, rfl⟩
    · exact ⟨_, rfl⟩
  | createIndex | recordVersion => exact hs.elim

end Statement

namespace Catalog

/-! ## Later runs -/

theorem upgrade_of_fails {v : Int} {ms : List Migration}
    (hms : (ms.filter fun m => v < m.version) = m :: left) (hm : m.statements = s :: ss)
    (h : s.run now c = .error f) : c.upgrade now v ms = (.error f, c) := by
  induction ms with
  | nil => simp at hms
  | cons n ms ih =>
    by_cases hn : v < n.version
    · rw [List.filter_cons_of_pos (by simpa using hn)] at hms
      obtain ⟨rfl, -⟩ := List.cons_eq_cons.mp hms
      rw [upgrade, if_pos hn, hm, Statement.runAll, h]
    · rw [List.filter_cons_of_neg (by simpa using hn)] at hms
      rw [upgrade_cons_of_le hn]
      exact ih hms

/-- A run does not get beyond a statement that fails at its start. -/
theorem KeepsVersions.migrate_of_fails (hc : c.KeepsVersions) (hmissing : c.missing = m :: left)
    (hm : m.statements = s :: ss) (hs : s.run now c = .error f) :
    c.migrate now = (.error f, c) := by
  have hopened : c.withVersionTable = .ok c := by rw [withVersionTable, if_pos hc.isMade]
  obtain ⟨t, ht, hversions⟩ := hc.holds
  unfold Catalog.migrate
  simp only [hopened, version_eq ht hversions]
  exact upgrade_of_fails hmissing hm hs

/-- The first statement of every migration makes a table or a column. -/
theorem statements_eq_cons {m : Migration} (hm : m ∈ migrations) :
    ∃ s ss, m.statements = s :: ss ∧ s.Creates := by
  simp only [migrations, List.mem_cons, List.not_mem_nil, or_false] at hm
  rcases hm with rfl | rfl | rfl <;> exact ⟨_, _, rfl, trivial⟩

/-- What is left by a run that fails: that of the migrations that it made, and of the statements of
the next one before the failing statement. If there are any of these, all later runs fail and change
nothing. -/
inductive Interrupted (now : Instant) (c : Catalog) (f : EngineFault) (d : Catalog) : Prop
  | closed (closed : c.withVersionTable = .error f) (same : d = c)
  | broken {e b : Catalog} {made left : List Migration} {m : Migration}
      {before after : List Statement} {s : Statement}
      (opened : c.withVersionTable = .ok e) (missing : c.missing = made ++ m :: left)
      (makes : Makes now e made b) (recorded : d.recorded = c.recorded ++ made.map (·.version))
      (statements : m.statements = before ++ s :: after)
      (succeeds : Statement.Succeeds now b before d) (fails : s.run now d = .error f)
      (blocks : before ≠ [] → ∀ times now', d.after times = d ∧ ∃ g, d.migrate now' = (.error g, d))

theorem Ends.interrupted (h : Ends now c made left (.error f) d) (hc : c.IsVersioned) :
    Interrupted now c f d := by
  obtain ⟨hmade, hleft⟩ := h.sparesVersions
  obtain ⟨-, hrecorded⟩ := h.recorded_eq hc
  cases h with
  | closed hclosed => exact .closed hclosed rfl
  | @broken e b _ _ left m _ hopened hmissing hmakes hbreaks =>
    have hm : m.SparesVersions := hleft m List.mem_cons_self
    have hb := hmakes.keepsVersions hmade (keepsVersions_of_opened hc hopened).1
    obtain ⟨hd, -⟩ := hbreaks.keepsVersions hm hb
    obtain ⟨before, s, after, hstatements, hbefore, hfails⟩ := hbreaks
    refine .broken hopened hmissing hmakes hrecorded hstatements hbefore hfails fun hsome => ?_
    have hmem : m ∈ migrations :=
      missing_subset c (hmissing ▸ List.mem_append_right _ List.mem_cons_self)
    obtain ⟨first, rest, hfirst, hfirstcreates⟩ := statements_eq_cons hmem
    obtain ⟨head, tail, rfl⟩ := List.exists_cons_of_ne_nil hsome
    obtain ⟨rfl, -⟩ := List.cons_eq_cons.mp (hfirst.symm.trans hstatements)
    -- what the first statement makes stays to the end, and the next run comes to it first
    have hdone : first.IsDone d := hbefore.isDone_head hfirstcreates fun s hs =>
      (hm s (Migration.subset_changes hstatements (List.mem_cons_of_mem _ hs))).isChange
    have hstuck : ∀ now', ∃ g, d.migrate now' = (.error g, d) := by
      intro now'
      obtain ⟨g, hg⟩ := hdone.fails now'
      exact ⟨g, hd.migrate_of_fails (missing_of_recorded hmissing hrecorded) hfirst hg⟩
    intro times now'
    refine ⟨after_eq_self (fun now'' => ?_) times, hstuck now'⟩
    obtain ⟨g, hg⟩ := hstuck now''
    rw [hg]

end Catalog

/-- A run that fails leaves the effect of all statements before the one that failed. -/
theorem migrate_interrupted {c d : Catalog} {now : Instant} {f : EngineFault} (hc : c.IsVersioned)
    (h : c.migrate now = (.error f, d)) : c.Interrupted now f d := by
  obtain ⟨made, left, hends⟩ := Catalog.migrate_ends now hc
  rw [h] at hends
  exact hends.interrupted hc

/-- Outcomes of runs are compared by their faults. -/
instance instDecidableEqOutcome : DecidableEq (Except EngineFault Unit)
  | .ok (), .ok () => .isTrue rfl
  | .error f, .error g => decidable_of_iff (f = g) (by rw [Except.error.injEq])
  | .ok _, .error _ | .error _, .ok _ => .isFalse nofun

/-- A database with a table of sessions from elsewhere. -/
def foreignSessions : Catalog :=
  Catalog.empty.withTable { Table.empty "sessions" with columns := [.text "session_id"] }

theorem isVersioned_foreignSessions : foreignSessions.IsVersioned := by
  intro t ht
  have hnone : (foreignSessions.table? versionTable.name).isNone = true := by decide +kernel
  rw [ht] at hnone
  exact absurd hnone (by simp)

theorem failed_run_leaves_table :
    (foreignSessions.migrate (.ofSeconds 0)).1 = .error (.tableExists "sessions") ∧
      (foreignSessions.migrate (.ofSeconds 0)).2.versions = [] ∧
      foreignSessions.hasTable "users" = false ∧
      (foreignSessions.migrate (.ofSeconds 0)).2.hasTable "users" = true ∧
      ((foreignSessions.migrate (.ofSeconds 0)).2.migrate (.ofSeconds 0)).1 =
        .error (.tableExists "users") := by
  decide +kernel

theorem migrate_interrupted_foreignSessions :
    foreignSessions.IsVersioned ∧ ∃ d,
      foreignSessions.migrate (.ofSeconds 0) = (.error (.tableExists "sessions"), d) ∧
        foreignSessions.Interrupted (.ofSeconds 0) (.tableExists "sessions") d := by
  have herror : (foreignSessions.migrate (.ofSeconds 0)).1 = .error (.tableExists "sessions") := by
    decide +kernel
  have h : foreignSessions.migrate (.ofSeconds 0) = (.error (.tableExists "sessions"), _) :=
    Prod.ext herror rfl
  exact ⟨isVersioned_foreignSessions, _, h, migrate_interrupted isVersioned_foreignSessions h⟩

end AlertService.Schema
