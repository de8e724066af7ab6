import AlertService.Schema.Function.Basic

/-!
# Functions of numbers

Sizes, signs and rounding, and the choice between cells by their order.
-/

namespace AlertService.Schema

namespace Function

def kind : Function := unary fun c => .text c.kindName.toLower

/-- The size of a number. That of the least integer has no place. -/
def absolute : Function := fun a =>
  match a.cells with
  | [.null] => .ok .null
  | [.integer i] =>
    if i = Cell.leastInteger then .error (.fault .integerOverflow) else .ok (.integer i.natAbs)
  | [c] => .ok (.real ⟨c.quantity.negative && c.quantity.isZero, c.quantity.size⟩)
  | _ => .error .undetermined

/-- The sign of what is a number. -/
def sign : Function := unary fun c =>
  match c.asInteger with
  | .integer i => .integer i.sign
  | .real x => .integer (if x.isZero then 0 else if x.negative then -1 else 1)
  | _ => .null

/-! ## Rounding -/

/-- The bound from which on real numbers have no places after the point. -/
def wholeBound : Quantity := .ofInt 4503599627370496

/-- A half with the sign of a number. -/
def half (x : Quantity) : Quantity := .ofFraction (x.negative && !x.isZero) 1 2

/-- The number with so many places after its point, halves away from zero. -/
def roundedTo (places : Nat) (x : Quantity) : Quantity :=
  if wholeBound.isBelow x || x.isBelow wholeBound.opposite then x
  else if places = 0 then
    .ofInt (((x.add (half x)).getD x).truncated Cell.leastInteger Cell.greatestInteger)
  else
    match x.size with
    | some s =>
      let style : Printed.Style := ⟨.fixed, places, true, false, false, 'e'⟩
      ((Numeral.take? (Printed.body style (Printed.digits style s))).map fun n =>
        { n.1.quantity with negative := x.negative && !x.isZero }).getD x
    | none => x

def round : Function := fun a =>
  let rounded (c : Cell) (places : Int) : Cell :=
    if c = .null then .null else .real (roundedTo (max 0 (min 30 places)).toNat c.quantity)
  match a.cells with
  | [c] => .ok (rounded c 0)
  | [c, places] => .ok (if places = .null then .null else rounded c places.whole)
  | _ => .error .undetermined

/-! ## Choosing -/

/-- The cell that no other one beats; nothing if nothing is among them. -/
def best (beats : Cell → Cell → Bool) : Function := fun a =>
  match a.cells with
  | c :: cs =>
    if a.cells.contains .null then .ok .null
    else .ok (cs.foldl (fun best d => if beats d best then d else best) c)
  | [] => .error .undetermined

def least : Function := fun a => best (fun c best => !best.isBelow a.order c) a

def greatest : Function := fun a => best (fun c best => best.isBelow a.order c) a

/-- The first cell, unless it equals the second. -/
def unlessEqual : Function := fun a =>
  match a.cells with
  | [c, d] => .ok (if c.isLevel a.order d && c ≠ .null then .null else c)
  | _ => .error .undetermined

/-! ## What earlier statements did -/

def newestNumber : Function := fun a => .ok (.integer a.around.history.number)

def lastCount : Function := fun a => .ok (.integer a.around.history.made)

def totalCount : Function := fun a => .ok (.integer a.around.history.total)

/-- The version of the engine. -/
def engineVersion : Function := fun _ => .ok (.text "3.49.1")

/-! ## Chance -/

/-- A number that looks arbitrary. -/
def scattered (n : Nat) : Nat :=
  ((n + 1) * 6364136223846793005 + 1442695040888963407) % 18446744073709551616

def random : Function := fun a =>
  .ok (.integer ((scattered (scattered a.chance) : Int).bmod 18446744073709551616))

/-- The most bytes that a cell can hold, and the most that are written out here. -/
def greatestSize : Int := 1000000000

def writtenSize : Int := 4000000

/-- So many bytes, each by its place. -/
def bytesOf (count : Int) (f : Nat → UInt8) : Outcome Cell :=
  if greatestSize < count then .error (.fault .tooBig)
  else if writtenSize < count then .error .undetermined
  else .ok (.blob ((List.range count.toNat).map f))

def randomBytes : Function := fun a =>
  match a.cells with
  | [c] =>
    bytesOf (max 1 c.whole) fun k =>
      UInt8.ofNat (scattered (scattered (a.chance * 1000003 + k)) / 4294967296)
  | _ => .error .undetermined

def zeroBytes : Function := fun a =>
  match a.cells with
  | [c] => bytesOf c.whole fun _ => 0
  | _ => .error .undetermined

end Function

end AlertService.Schema
