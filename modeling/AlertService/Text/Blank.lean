/-!
# Blank characters

The characters that separate words and that are cut off the ends of an identifier.

* `firstWord_append`: blanks in front do not change the first word.
-/

namespace AlertService.Text

/-- The Unicode property `White_Space`: 25 characters. -/
def isBlank (c : Char) : Bool :=
  let n := c.toNat
  (9 ≤ n && n ≤ 13) || n == 0x20 || n == 0x85 || n == 0xa0 || n == 0x1680 ||
    (0x2000 ≤ n && n ≤ 0x200a) || n == 0x2028 || n == 0x2029 || n == 0x202f || n == 0x205f ||
    n == 0x3000

/-- The text without the blanks at its two ends. -/
def trim (s : List Char) : List Char :=
  ((s.dropWhile isBlank).reverse.dropWhile isBlank).reverse

/-- The first run of characters that are not blank; empty if there is none. -/
def firstWord (s : List Char) : List Char :=
  (s.dropWhile isBlank).takeWhile fun c => !isBlank c

theorem dropWhile_isBlank_append {w : List Char} (h : ∀ c ∈ w, isBlank c = true)
    (s : List Char) : (w ++ s).dropWhile isBlank = s.dropWhile isBlank := by
  induction w with
  | nil => rfl
  | cons c w ih =>
    simp only [List.cons_append, List.dropWhile_cons, h c (by simp), if_true]
    exact ih fun d hd => h d (by simp [hd])

theorem firstWord_append {w : List Char} (h : ∀ c ∈ w, isBlank c = true) (s : List Char) :
    firstWord (w ++ s) = firstWord s := by
  rw [firstWord, dropWhile_isBlank_append h, firstWord]

end AlertService.Text
