import AlertService.Proofs.Schema.Convergence
import AlertService.Store.Fields

/-!
# Rows fit the tables

The tables that the migrations make for drafts and entities have the columns that rows are written
into, and keep what is written into them as it is.

* `Table.Fits`: a table fits the rows of a kind.
* `fits_migrate`: the tables of all kinds do after the first run.
-/

namespace AlertService

namespace Cell

/-- What the columns of a row prefer. -/
def preferences : Kind → List Preference
  | .recipient => [.text, .text, .text, .text, .text, .number]
  | .template => [.text, .text, .text, .text]
  | .group => [.text, .text, .text, .number, .text]

/-- What prefers nothing else for a value prefers nothing else where there may be none. -/
theorem prefer_ofOption {α : Type} {f : α → Cell} {p : Preference}
    (h : ∀ a, (f a).prefer p = f a) (x : Option α) : (ofOption f x).prefer p = ofOption f x := by
  cases x with
  | some a => exact h a
  | none => cases p <;> rfl

/-- What is written into columns is of the kinds that they prefer. -/
theorem prefer_ofOwned {k : Kind} (row : Owned k.Fields) :
    ((preferences k).zip (ofOwned row)).map (fun x => x.2.prefer x.1) = ofOwned row := by
  have htext : ∀ s, (text s).prefer .text = text s := fun _ => rfl
  have hid : ∀ u, (ofId u).prefer .text = ofId u := fun _ => rfl
  have hinteger : ∀ i, (integer i).prefer .number = integer i := fun _ => rfl
  cases k <;>
    simp [preferences, ofOwned, ofFields, ofBool, prefer_ofOption, htext, hinteger, hid]

end Cell

namespace Schema

/-- The table is one for rows of the kind, whose identifiers stand in a column of that name. -/
structure Table.Fits (t : Table) (k : Kind) (idColumn : String) : Prop where
  names : t.shown = k.header idColumn
  keeps : ∀ row : Owned k.Fields,
    (t.columns.zip (Cell.ofOwned row)).map (fun x => x.2.prefer x.1.preference) = Cell.ofOwned row

namespace Catalog

theorem fits_of_preferences {t : Table} {k : Kind} {idColumn : String}
    (hnames : t.shown = k.header idColumn)
    (hpreferences : t.columns.map Column.preference = Cell.preferences k) : t.Fits k idColumn where
  names := hnames
  keeps row := by
    have hzip : (Cell.preferences k).zip (Cell.ofOwned row) =
        (t.columns.zip (Cell.ofOwned row)).map (Prod.map Column.preference id) := by
      rw [← hpreferences, List.zip_map_left]
    have hkeeps := Cell.prefer_ofOwned row
    rw [hzip, List.map_map] at hkeeps
    exact hkeeps

/-- All migrations together lay the tables of all kinds out as rows are written. -/
theorem layout_grown : ∀ k ∈ [Kind.recipient, .template, .group],
    ∀ p ∈ [(k.table, k.idColumn), (k.draftTable, k.draftIdColumn)],
      ((grown migrations.length).table? p.1).any (fun t => t.shown = k.header p.2 &&
        t.columns.map Column.preference = Cell.preferences k) = true := by
  decide +kernel

/-- After a run of the migrations on an empty database, drafts and entities fit their tables. -/
theorem fits_migrate (now : Instant) (k : Kind) :
    (∃ t, (empty.migrate now).2.table? k.table = some t ∧ t.Fits k k.idColumn) ∧
      ∃ t, (empty.migrate now).2.table? k.draftTable = some t ∧ t.Fits k k.draftIdColumn := by
  have hfits : ∀ p ∈ [(k.table, k.idColumn), (k.draftTable, k.draftIdColumn)],
      ∃ t, (empty.migrate now).2.table? p.1 = some t ∧ t.Fits k p.2 := by
    intro p hp
    have hmade := layout_grown k (by cases k <;> simp) p hp
    obtain ⟨u, hu, hcolumns⟩ := (Option.any_eq_true _ _).mp hmade
    rw [Bool.and_eq_true, decide_eq_true_eq, decide_eq_true_eq] at hcolumns
    -- What the run makes is what the catalog grows into, but for the rows.
    obtain ⟨t, ht, hbare⟩ : ∃ t, (empty.migrate now).2.table? p.1 = some t ∧ t.bare = u.bare := by
      rw [← Option.map_eq_some_iff, ← table?_bare, (migrate_empty now).2, table?_bare, hu]
      rfl
    have hsame : t.bare.columns = u.bare.columns := congrArg Table.columns hbare
    have hshown : t.bare.shown = u.bare.shown := congrArg Table.shown hbare
    exact ⟨t, ht, fits_of_preferences (hshown.trans hcolumns.1)
      ((congrArg (List.map Column.preference) hsame).trans hcolumns.2)⟩
  exact ⟨hfits _ List.mem_cons_self, hfits _ (List.mem_cons_of_mem _ List.mem_cons_self)⟩

end Catalog

end Schema

end AlertService
