import AlertService.Decimal.Binary64

/-!
# Signed numbers of double precision

Sums, products and quotients are computed exactly and rounded once. A number without a size is beyond
all that have one; where two of these are set against each other nothing comes of it.
-/

namespace AlertService

structure Quantity where
  negative : Bool
  size : Option Binary64
deriving DecidableEq

namespace Quantity

/-- A whole number with a sign of its own. -/
def signed (negative : Bool) (n : Nat) : Int := if negative then -(n : Int) else n

/-- The number nearest to `num / den`. -/
def ofFraction (negative : Bool) (num den : Nat) : Quantity := ⟨negative, Binary64.round num den⟩

/-- The number nearest to `m · 2 ^ e`. -/
def ofScaled (negative : Bool) (m : Nat) (e : Int) : Quantity :=
  ofFraction negative (m * Nat.pow 2 e.toNat) (Nat.pow 2 (-e).toNat)

/-- The number nearest to a whole one. -/
def ofInt (i : Int) : Quantity := ofFraction (i < 0) i.natAbs 1

def zero : Quantity := ⟨false, some .zero⟩

def opposite (x : Quantity) : Quantity := { x with negative := !x.negative }

def isZero (x : Quantity) : Bool := x.size.any fun s => s.mantissa = 0

/-- The fraction that a number is, unless it is beyond all sizes. -/
def fraction? (x : Quantity) : Option (Int × Nat) :=
  x.size.map fun s => (signed x.negative s.num, s.den)

/-! ## Computing -/

/-- The sum of two sizes with signs, in units of the smaller exponent. -/
def units (negative : Bool) (s : Binary64) (e : Int) : Int :=
  signed negative (s.mantissa * Nat.pow 2 (s.exponent - e).toNat)

/-- The sum. Where it is zero it is negative only if both parts are. -/
def add (x y : Quantity) : Option Quantity :=
  match x.size, y.size with
  | some a, some b =>
    let e := min a.exponent b.exponent
    let m := units x.negative a e + units y.negative b e
    some (ofScaled (if m = 0 then x.negative && y.negative else m < 0) m.natAbs e)
  | none, none => if x.negative = y.negative then some x else none
  | none, some _ => some x
  | some _, none => some y

def subtract (x y : Quantity) : Option Quantity := x.add y.opposite

def multiply (x y : Quantity) : Option Quantity :=
  match x.size, y.size with
  | some a, some b =>
    some (ofScaled (x.negative != y.negative) (a.mantissa * b.mantissa) (a.exponent + b.exponent))
  | _, _ => if x.isZero || y.isZero then none else some ⟨x.negative != y.negative, none⟩

/-- The quotient; there is none by zero. -/
def divide (x y : Quantity) : Option Quantity :=
  match x.size, y.size with
  | some a, some b =>
    if b.mantissa = 0 then none
    else some (ofFraction (x.negative != y.negative) (a.num * b.den) (a.den * b.num))
  | some _, none => some ⟨x.negative != y.negative, some .zero⟩
  | none, some _ => some ⟨x.negative != y.negative, none⟩
  | none, none => none

/-! ## Order and whole parts -/

/-- Whether a number is smaller than another. -/
def isBelow (x y : Quantity) : Bool :=
  match x.fraction?, y.fraction? with
  | some p, some q => p.1 * q.2 < q.1 * p.2
  | none, none => x.negative && !y.negative
  | none, some _ => x.negative
  | some _, none => !y.negative

/-- The whole part, between two bounds. -/
def truncated (low high : Int) (x : Quantity) : Int :=
  match x.fraction? with
  | some (n, d) => max low (min high (n.tdiv d))
  | none => if x.negative then low else high

end Quantity

end AlertService
