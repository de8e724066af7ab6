import AlertService.Text.Split
import Mathlib.Data.List.Basic

/-!
# Pieces and the list that they make

* `intercalate_splitOn`, `splitOn_intercalate`: the pieces of a list are those that make it when they
are joined again.
* `splitOn_eq_iff`: and there is no separator in them.
-/

namespace AlertService.Text

variable {α : Type} [DecidableEq α] {separator : α} {pieces : List (List α)}

theorem splitOn_eq_splitOn (separator : α) (xs : List α) :
    splitOn separator xs = List.splitOn separator xs := by
  induction xs with
  | nil => rfl
  | cons x xs ih =>
    have hsome : List.splitOn separator xs ≠ [] := List.splitOn_ne_nil separator xs
    obtain ⟨piece, pieces, hpieces⟩ := List.exists_cons_of_ne_nil hsome
    rw [splitOn_cons, ih, hpieces, List.splitOn_cons_eq_if_modifyHead, hpieces]
    simp only [putItem, beq_iff_eq, List.modifyHead_cons]

theorem intercalate_splitOn (separator : α) (xs : List α) :
    [separator].intercalate (splitOn separator xs) = xs := by
  rw [splitOn_eq_splitOn]
  exact List.intercalate_splitOn separator

theorem splitOn_intercalate (hsome : pieces ≠ []) (h : ∀ piece ∈ pieces, separator ∉ piece) :
    splitOn separator ([separator].intercalate pieces) = pieces := by
  rw [splitOn_eq_splitOn]
  exact List.splitOn_intercalate separator h hsome

theorem not_mem_of_mem_splitOn {xs piece : List α} (h : piece ∈ splitOn separator xs) :
    separator ∉ piece := by
  induction xs generalizing piece with
  | nil =>
    rw [splitOn_nil, List.mem_singleton] at h
    rw [h]
    exact List.not_mem_nil
  | cons x xs ih =>
    rw [splitOn_cons] at h
    generalize splitOn separator xs = pieces at h ih
    unfold putItem at h
    split at h
    · rcases List.mem_cons.mp h with rfl | h
      · exact List.not_mem_nil
      · exact ih h
    · rename_i hx
      have hne : separator ≠ x := fun he => hx he.symm
      cases pieces with
      | nil =>
        rw [List.mem_singleton.mp h]
        simpa using hne
      | cons first pieces =>
        rcases List.mem_cons.mp h with rfl | h
        · have hfirst := ih List.mem_cons_self
          simpa [hne] using hfirst
        · exact ih (List.mem_cons_of_mem _ h)

theorem splitOn_eq_iff {xs : List α} : splitOn separator xs = pieces ↔
    pieces ≠ [] ∧ xs = [separator].intercalate pieces ∧ ∀ piece ∈ pieces, separator ∉ piece := by
  constructor
  · intro h
    refine ⟨?_, ?_, ?_⟩
    · rw [← h, splitOn_eq_splitOn]
      exact List.splitOn_ne_nil separator xs
    · rw [← h, intercalate_splitOn]
    · intro piece hpiece
      exact not_mem_of_mem_splitOn (h ▸ hpiece)
  · rintro ⟨hsome, hxs, hpieces⟩
    rw [hxs]
    exact splitOn_intercalate hsome hpieces

end AlertService.Text
