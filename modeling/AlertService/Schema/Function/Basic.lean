import AlertService.Store.Cell
import AlertService.Store.Error
import AlertService.Time.Instant

/-!
# What computing can come to

An expression has a value, or the engine refuses to compute it, or its value is not determined here. A
function computes from cells; some also ask for the time, which not every place allows.
-/

namespace AlertService.Schema

/-- Why something has no value. -/
inductive Obstacle where
  | undetermined
  | fault (f : EngineFault)
deriving DecidableEq

abbrev Outcome (α : Type) := Except Obstacle α

/-- What is known of a value, if the engine does not refuse it. -/
def Outcome.known {α : Type} : Outcome α → Except EngineFault (Option α)
  | .ok x => .ok (some x)
  | .error .undetermined => .ok none
  | .error (.fault f) => .error f

/-- What earlier statements did: the number of the row that was made last, how many rows the last of them
made, and all of them together. -/
structure History where
  number : Int
  made : Nat
  total : Nat
deriving DecidableEq

/-- What surrounds a statement. -/
structure Circumstances where
  now : Instant
  history : History
deriving DecidableEq

/-- What a function is called with: its arguments, how texts are compared, what surrounds the statement, a
number that is different for each row, and what forbids to ask for these, if anything does. -/
structure Arguments where
  cells : List Cell
  order : Collation
  around : Circumstances
  chance : Nat
  strict : Option String
deriving DecidableEq

abbrev Function := Arguments → Outcome Cell

namespace Function

/-- A function of one cell. -/
def unary (f : Cell → Cell) : Function := fun a =>
  match a.cells with
  | [c] => .ok (f c)
  | _ => .error .undetermined

/-- A function of one cell of which nothing makes nothing. -/
def onValue (f : Cell → Cell) : Function := unary fun c => if c = .null then .null else f c

/-- A function of the text of one cell. -/
def onText (f : String → Cell) : Function := unary fun c => (c.words?.map f).getD .null

end Function

end AlertService.Schema
