import AlertService.Schema.Expression.Review
import AlertService.Schema.Function.Named

/-!
# The value of an expression

Truth has three values, since nothing is neither true nor false. Sums of integers that are out of
bounds are real. A condition is tested from left to right, and only as far as it has to be.
-/

namespace AlertService.Schema

/-! ## Truth -/

/-- True, false, or neither. -/
abbrev Truth := Option Bool

namespace Truth

def negation : Truth → Truth := Option.map (!·)

def both : Truth → Truth → Truth
  | some false, _ => some false
  | _, some false => some false
  | some true, some true => some true
  | _, _ => none

def either (a b : Truth) : Truth := negation (both (negation a) (negation b))

end Truth

/-! ## Numbers -/

namespace Operator

/-- Computes with integers, if the result is an integer in bounds. -/
def ofIntegers? (op : Operator) (a b : Int) : Option Int :=
  let result : Option Int :=
    match op with
    | .add => some (a + b)
    | .subtract => some (a - b)
    | .multiply => some (a * b)
    | .divide => if b = 0 then none else some (a.tdiv b)
    | .remainder => if b = 0 then none else some (a.tmod b)
    | _ => none
  result.filter fun i => Cell.leastInteger ≤ i ∧ i ≤ Cell.greatestInteger

/-- Computes with real numbers. Remainders are those of whole parts. Nothing comes of a division by
zero. -/
def ofQuantities (op : Operator) (a b : Cell) : Cell :=
  let x := a.quantity
  let y := b.quantity
  let result : Option Quantity :=
    match op with
    | .add => x.add y
    | .subtract => x.subtract y
    | .multiply => x.multiply y
    | .divide => if y.isZero then none else x.divide y
    | .remainder => if b.whole = 0 then none else some (.ofInt (a.whole.tmod b.whole))
    | _ => none
  (result.map Cell.real).getD .null

/-- Computes with the numbers of cells, as integers where they are and the result is. -/
def arithmetic (op : Operator) (a b : Cell) : Cell :=
  match a.number, b.number with
  | .null, _ => .null
  | _, .null => .null
  | .integer i, .integer j => ((op.ofIntegers? i j).map Cell.integer).getD (op.ofQuantities a b)
  | _, _ => op.ofQuantities a b

/-- The integer of 64 bits with a sign that has the same bits. -/
def wrapped (i : Int) : Int := i.bmod 18446744073709551616

/-- The bits of an integer. -/
def bits (i : Int) : Nat := (i % 18446744073709551616).toNat

/-- Moves bits up, or down where the number of places is negative. -/
def shifted (i places : Int) : Int :=
  if 0 ≤ places then if 64 ≤ places then 0 else wrapped (i * Nat.pow 2 places.toNat)
  else if places ≤ -64 then (if i < 0 then -1 else 0)
  else i / Nat.pow 2 places.natAbs

/-- Computes with the bits of two whole numbers. -/
def ofBits (op : Operator) (i j : Int) : Int :=
  match op with
  | .allBits => wrapped (Nat.land (bits i) (bits j))
  | .anyBits => wrapped (Nat.lor (bits i) (bits j))
  | .shiftLeft => shifted i j
  | .shiftRight => shifted i (-j)
  | _ => 0

/-- The text of one cell and then the other. -/
def joined (a b : Cell) : Cell :=
  match a, b with
  | .null, _ => .null
  | _, .null => .null
  | .text s, .text t => .text (s ++ t)
  | a, b => .text (Utf8.lossy (a.bytes ++ b.bytes))

end Operator

/-! ## Comparisons -/

/-- What both sides of a comparison are turned into. -/
def commonPreference : Option Preference → Option Preference → Preference
  | some p, some q =>
    if p = .number ∨ p = .real ∨ q = .number ∨ q = .real then .number else .any
  | some p, none => p
  | none, some q => q
  | none, none => .any

/-- A side of a comparison. Among numbers, only texts are turned into numbers. -/
def compared (p : Preference) (c : Cell) : Cell :=
  match p, c with
  | .text, c => c.asText
  | .any, c => c
  | _, .text s => (Cell.text s).asInteger
  | _, c => c

/-- Compares two cells, unless one is nothing. -/
def comparison (test : Cell → Cell → Bool) (a b : Cell) : Cell :=
  if a = .null ∨ b = .null then .null else .ofTruth? (some (test a b))

/-- Applies an operator to cells that are turned into a common kind and compared in a common order. -/
def operate (p : Preference) (order : Collation) (op : Operator) (a b : Cell) : Cell :=
  let x := compared p a
  let y := compared p b
  match op with
  | .or => .ofTruth? (Truth.either a.truth? b.truth?)
  | .and => .ofTruth? (Truth.both a.truth? b.truth?)
  | .equal => comparison (Cell.isLevel order) x y
  | .same => .ofTruth? (some (x.isLevel order y))
  | .less => comparison (Cell.isBelow order) x y
  | .join => Operator.joined a b
  | .allBits | .anyBits | .shiftLeft | .shiftRight =>
    if a = .null ∨ b = .null then .null else .integer (op.ofBits a.whole b.whole)
  | op => op.arithmetic a b

/-! ## Values -/

/-- What an expression is computed in: a row and its number, what surrounds the statement, and what forbids
to ask for the time, if anything does. -/
structure Setting where
  row : Expression.Row
  number : Option Int
  around : Circumstances
  chance : Nat
  strict : Option String

namespace Setting

/-- What defaults are computed in: they may ask for the time, and see no row. -/
def alone (around : Circumstances) (chance : Nat) : Setting := ⟨[], none, around, chance, none⟩

/-- The value of a name. -/
def valueOf (s : Setting) (name : String) (isQuoted : Bool) : Outcome Cell :=
  match s.row.entry? name with
  | some e => (e.content.map Except.ok).getD (.error .undetermined)
  | none =>
    match (if Expression.isRowNumber s.row name then s.number else none) with
    | some n => .ok (.integer n)
    | none =>
      if isQuoted then .ok (.text name)
      else if sameName name "true" then .ok (.integer 1)
      else if sameName name "false" then .ok (.integer 0)
      else .error .undetermined

/-- What a function is called with in a setting. -/
def arguments (s : Setting) (order : Collation) (cells : List Cell) : Arguments :=
  ⟨cells, order, s.around, s.chance, s.strict⟩

end Setting

namespace Expression

/-- The number with the other sign. One that is written with its sign is read with it. -/
def opposite (e : Expression) (c : Cell) : Cell :=
  match e with
  | number n => .ofNumeral n.opposite
  | literal (.real x) => .real x.opposite
  | _ => Operator.arithmetic .subtract (.integer 0) c

/-- The bound below which a real number that is whole is taken for an integer in a conversion. -/
def wholeBound : Int := 2251799813685248

/-- A number that was written, as a whole one if it is exactly that. -/
def wholeIfExact (c : Cell) : Cell :=
  match c.settled with
  | .integer i => if c = .integer i ∨ i.natAbs < wholeBound.natAbs then .integer i else c
  | _ => c

def casted (kind : Conversion) (c : Cell) : Cell :=
  match kind, c with
  | _, .null => .null
  | .text, .blob bs => .text (Utf8.lossy bs)
  | .text, c => c.asText
  | .integer, c => .integer c.whole
  | .real, c => .real c.quantity
  | .bytes, c => .blob c.bytes
  | .number, .text s => wholeIfExact (Cell.text s).number
  | .number, .blob bs => wholeIfExact (Cell.blob bs).number
  | .number, c => c

mutual

/-- The value of an expression in a setting. -/
def value (s : Setting) : Expression → Outcome Cell
  | literal c => .ok c
  | number n => .ok (.ofNumeral n)
  | name n isQuoted => s.valueOf n isQuoted
  | not e => (value s e).map fun c => .ofTruth? (Truth.negation c.truth?)
  | negate e => (value s e).map (opposite e)
  | invert e => (value s e).map fun c => if c = .null then .null else .integer (-c.whole - 1)
  | plain e => value s e
  | bare e => value s e
  | collated e _ => value s e
  | cast e kind => (value s e).map (casted kind)
  | binary op a b => do
    let x ← value s a
    match (if op = .same then truthWord? s.row b else none) with
    | some t => return .ofTruth? (some (x.truth? = some t))
    | none =>
      let y ← value s b
      return operate (commonPreference (preference? s.row a) (preference? s.row b))
        (commonOrder s.row a b) op x y
  | choice test v otherwise => do
    let t ← value s test
    if t.truth? = some true then value s v else value s otherwise
  | call f es => do
    let cells ← values s es
    match Function.named? f with
    | some f => f (s.arguments (argumentOrder s.row es) cells)
    | none => .error .undetermined
  | refused f => .error (.fault f)
  | misused => .error (.fault .misusedRow)
  | undetermined => .error .undetermined

/-- The values of a list of expressions, from left to right. -/
def values (s : Setting) : List Expression → Outcome (List Cell)
  | [] => .ok []
  | e :: es => do
    let c ← value s e
    return c :: (← values s es)

end

/-- Whether a condition holds where nothing counts as `ifNull`. The right side of a junction is not
computed where the left one decides. -/
def holds (s : Setting) (ifNull : Bool) : Expression → Outcome Bool
  | not e => (holds s (!ifNull) e).map (!·)
  | binary .and a b => do
    if ← holds s ifNull a then holds s ifNull b else return false
  | binary .or a b => do
    if ← holds s ifNull a then return true else holds s ifNull b
  | e => (value s e).map fun c => c.truth?.getD ifNull

end Expression

end AlertService.Schema
