/-!
# Splitting at separators

* `splitOn_cons_self`, `splitOn_cons`: how the pieces of a list come from those of its tail.
-/

namespace AlertService.Text

/-- An item in front of the pieces of what follows it. -/
def putItem {α : Type} [DecidableEq α] (separator x : α) (pieces : List (List α)) :
    List (List α) :=
  if x = separator then [] :: pieces
  else
    match pieces with
    | [] => [[x]]
    | piece :: rest => (x :: piece) :: rest

/-- The pieces between separators: one more than there are separators. -/
def splitOn {α : Type} [DecidableEq α] (separator : α) (xs : List α) : List (List α) :=
  xs.foldr (putItem separator) [[]]

@[simp] theorem splitOn_nil {α : Type} [DecidableEq α] (separator : α) :
    splitOn separator [] = [[]] := rfl

theorem splitOn_cons {α : Type} [DecidableEq α] (separator x : α) (xs : List α) :
    splitOn separator (x :: xs) = putItem separator x (splitOn separator xs) := rfl

theorem splitOn_cons_self {α : Type} [DecidableEq α] (separator : α) (xs : List α) :
    splitOn separator (separator :: xs) = [] :: splitOn separator xs := by
  simp [splitOn_cons, putItem]

end AlertService.Text
