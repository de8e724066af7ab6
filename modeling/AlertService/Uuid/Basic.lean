import AlertService.Text.Digits

/-!
# Identifiers

A UUID is thirty-two hexadecimal digits. Its written form has them in lower case in groups of
8, 4, 4, 4 and 12, joined by hyphens.
-/

namespace AlertService

structure Uuid where
  digits : List (Fin 16)
  size : digits.length = 32
deriving DecidableEq

namespace Uuid

/-- The sizes of the five groups. -/
def groupSizes : List Nat := [8, 4, 4, 4, 12]

/-- Cuts a list into pieces of the given sizes. -/
def cut {α : Type} : List Nat → List α → List (List α)
  | [], _ => []
  | n :: ns, xs => xs.take n :: cut ns (xs.drop n)

/-- Joins pieces with hyphens. -/
def hyphenate : List (List Char) → List Char
  | [] => []
  | [g] => g
  | g :: gs => g ++ '-' :: hyphenate gs

/-- The written form. -/
def chars (u : Uuid) : List Char := hyphenate (cut groupSizes (u.digits.map Text.hexDigit))

def text (u : Uuid) : String := String.ofList u.chars

/-- An identifier from digits, if there are thirty-two of them. -/
def ofDigits? (ds : List (Fin 16)) : Option Uuid :=
  if h : ds.length = 32 then some ⟨ds, h⟩ else none

/-- The digits of `n` in base sixteen, last first, `width` of them. -/
def lowDigits : (width n : Nat) → List (Fin 16)
  | 0, _ => []
  | w + 1, n => Text.lowDigit n :: lowDigits w (n / 16)

theorem length_lowDigits (w n : Nat) : (lowDigits w n).length = w := by
  induction w generalizing n with
  | zero => rfl
  | succ w ih => simp [lowDigits, ih]

/-- The `n`-th identifier of a counter, in the layout of time-ordered identifiers: the counter
stands where the time would, then version 7 and the variant. -/
def numbered (n : Nat) : Uuid where
  digits := (lowDigits 12 n).reverse ++ ([7, 0, 0, 0, 8].map Text.lowDigit ++
    List.replicate 15 (Text.lowDigit 0))
  size := by simp [length_lowDigits]

end Uuid

end AlertService
