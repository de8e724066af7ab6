import AlertService.Text.Blank
import Mathlib.Data.List.DropRight

/-!
# Text between blanks

* `exists_trim`, `trim_append`: what is cut off a text are the blanks at its ends.
* `exists_firstWord`, `firstWord_word`: its first word goes from one blank, or end, to the next.
-/

namespace AlertService.Text

variable {before cs after : List Char}

theorem exists_trim (cs : List Char) : ∃ before after, cs = before ++ trim cs ++ after ∧
    (∀ c ∈ before, isBlank c = true) ∧ ∀ c ∈ after, isBlank c = true := by
  have hfront := cs.takeWhile_append_dropWhile (p := isBlank)
  have hback := List.rdropWhile_append_rtakeWhile (p := isBlank) (l := cs.dropWhile isBlank)
  refine ⟨cs.takeWhile isBlank, (cs.dropWhile isBlank).rtakeWhile isBlank, ?_,
    fun c hc => List.mem_takeWhile_imp hc, fun c hc => List.mem_rtakeWhile_imp hc⟩
  rw [List.append_assoc]
  exact hfront.symm.trans (congrArg _ hback.symm)

theorem dropWhile_isBlank_eq_self (h : ∀ c ∈ cs, isBlank c = false) :
    cs.dropWhile isBlank = cs := by
  cases cs with
  | nil => rfl
  | cons c cs => exact List.dropWhile_cons_of_neg (by simp [h c])

theorem dropWhile_isBlank_eq_nil (h : ∀ c ∈ cs, isBlank c = true) : cs.dropWhile isBlank = [] :=
  List.dropWhile_eq_nil_iff.mpr h

theorem trim_eq_self (h : ∀ c ∈ cs, isBlank c = false) : trim cs = cs := by
  have hreverse : ∀ c ∈ cs.reverse, isBlank c = false := fun c hc => h c (List.mem_reverse.mp hc)
  rw [trim, dropWhile_isBlank_eq_self h, dropWhile_isBlank_eq_self hreverse, List.reverse_reverse]

theorem trim_append (hbefore : ∀ c ∈ before, isBlank c = true)
    (h : ∀ c ∈ cs, isBlank c = false) (hafter : ∀ c ∈ after, isBlank c = true) :
    trim (before ++ cs ++ after) = cs := by
  have hfront : trim (before ++ cs ++ after) = trim (cs ++ after) := by
    rw [List.append_assoc, trim, dropWhile_isBlank_append hbefore, trim]
  rw [hfront]
  cases cs with
  | nil => rw [List.nil_append, trim, dropWhile_isBlank_eq_nil hafter]; rfl
  | cons c cs =>
    have hkept : (c :: cs ++ after).dropWhile isBlank = c :: cs ++ after :=
      List.dropWhile_cons_of_neg (by simp [h c])
    have hreverse : ∀ c ∈ after.reverse, isBlank c = true :=
      fun c hc => hafter c (List.mem_reverse.mp hc)
    rw [trim, hkept, List.reverse_append, dropWhile_isBlank_append hreverse]
    have hself := trim_eq_self h
    rwa [trim, dropWhile_isBlank_eq_self h] at hself

/-! ## Words -/

/-- A word cannot go on here: there is nothing more, or there is a blank. -/
inductive EndsWord : List Char → Prop
  | nothing : EndsWord []
  | blank {b : Char} {more : List Char} : isBlank b = true → EndsWord (b :: more)

variable {word rest : List Char}

theorem endsWord_dropWhile (cs : List Char) : EndsWord (cs.dropWhile fun c => !isBlank c) := by
  induction cs with
  | nil => exact .nothing
  | cons c cs ih =>
    by_cases hblank : isBlank c = true
    · rw [List.dropWhile_cons_of_neg (by simp [hblank])]
      exact .blank hblank
    · rw [List.dropWhile_cons_of_pos (by simp [hblank])]
      exact ih

theorem takeWhile_word (hword : ∀ c ∈ word, isBlank c = false) (hrest : EndsWord rest) :
    (word ++ rest).takeWhile (fun c => !isBlank c) = word := by
  have hstop : rest.takeWhile (fun c => !isBlank c) = [] := by
    cases hrest with
    | nothing => rfl
    | blank hblank => exact List.takeWhile_cons_of_neg (by simp [hblank])
  rw [List.takeWhile_append_of_pos (by simpa using hword), hstop, List.append_nil]

theorem firstWord_word (hbefore : ∀ c ∈ before, isBlank c = true)
    (hword : ∀ c ∈ word, isBlank c = false) (hsome : word ≠ []) (hrest : EndsWord rest) :
    firstWord (before ++ word ++ rest) = word := by
  have hstart : (word ++ rest).dropWhile isBlank = word ++ rest := by
    obtain ⟨c, more, rfl⟩ := List.exists_cons_of_ne_nil hsome
    exact List.dropWhile_cons_of_neg (by simp [hword c List.mem_cons_self])
  rw [List.append_assoc, firstWord_append hbefore, firstWord, hstart]
  exact takeWhile_word hword hrest

theorem EndsWord.append_blank {b : Char} {more : List Char} (h : EndsWord rest)
    (hb : isBlank b = true) : EndsWord (rest ++ b :: more) := by
  cases h with
  | nothing => exact .blank hb
  | blank hblank => exact .blank hblank

theorem exists_firstWord (cs : List Char) : ∃ before rest, cs = before ++ firstWord cs ++ rest ∧
    (∀ c ∈ before, isBlank c = true) ∧ (∀ c ∈ firstWord cs, isBlank c = false) ∧ EndsWord rest := by
  refine ⟨cs.takeWhile isBlank, (cs.dropWhile isBlank).dropWhile fun c => !isBlank c, ?_, ?_, ?_,
    endsWord_dropWhile _⟩
  · rw [List.append_assoc, firstWord, List.takeWhile_append_dropWhile,
      List.takeWhile_append_dropWhile]
  · intro c hc
    exact List.mem_takeWhile_imp hc
  · intro c hc
    simpa using List.mem_takeWhile_imp hc

/-- There is a first word unless there are only blanks. -/
theorem firstWord_ne_nil (h : ∃ c ∈ cs, isBlank c = false) : firstWord cs ≠ [] := by
  obtain ⟨c, hc, hnot⟩ := h
  rw [firstWord]
  have hstop := List.head?_dropWhile_not isBlank cs
  cases hkept : cs.dropWhile isBlank with
  | nil =>
    have hblank := List.dropWhile_eq_nil_iff.mp hkept c hc
    exact absurd hblank (by simp [hnot])
  | cons d more =>
    have hd : isBlank d = false := by
      rw [hkept] at hstop
      exact hstop
    rw [List.takeWhile_cons_of_pos (by simp [hd])]
    exact List.cons_ne_nil _ _

end AlertService.Text
