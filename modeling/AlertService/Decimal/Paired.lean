import AlertService.Decimal.Quantity

/-!
# Numbers of double precision in pairs

A pair stands for the sum of its two numbers, of which the second is what the first leaves out. Written
numbers are scaled in pairs by powers of ten, of a hundred, ten and one decimal places at a time; only
the result is a single number. What becomes too large on the way has no result.
-/

namespace AlertService

structure Paired where
  high : Quantity
  low : Quantity
deriving DecidableEq

namespace Paired

/-- The pair for `num / den`: the nearest number, and the nearest to what is left. -/
def ofFraction (num den : Nat) : Paired :=
  let high := Quantity.ofFraction false num den
  match high.size with
  | some x =>
    let rest : Int := num * x.den - x.num * den
    ⟨high, .ofFraction (rest < 0) rest.natAbs (den * x.den)⟩
  | none => ⟨high, .zero⟩

/-- The part of a number without the lower half of its mantissa. -/
def upper (x : Quantity) : Quantity :=
  { x with size := x.size.map fun s => ⟨s.mantissa - s.mantissa % 67108864, s.exponent⟩ }

/-- The product of a pair and a constant. What the product of the high parts leaves out is computed
from their halves. -/
def multiply (x y : Paired) : Option Paired := do
  let xh := upper x.high
  let xt ← x.high.subtract xh
  let yh := upper y.high
  let yt ← y.high.subtract yh
  let product ← xh.multiply yh
  let cross ← (← xh.multiply yt).add (← xt.multiply yh)
  let c ← product.add cross
  let rest ← (← (← product.subtract c).add cross).add (← xt.multiply yt)
  let rest ← (← (← x.high.multiply y.low).add (← x.low.multiply y.high)).add rest
  let high ← c.add rest
  return ⟨high, ← (← c.subtract high).add rest⟩

/-- The product of a pair and a constant taken several times. -/
def scale (factor : Paired) : (times : Nat) → Paired → Option Paired
  | 0, x => some x
  | n + 1, x => (x.multiply factor).bind (scale factor n)

/-- Ten to a power. -/
def powTen (e : Int) : Paired := ofFraction (Nat.pow 10 e.toNat) (Nat.pow 10 (-e).toNat)

/-! ## From decimals -/

/-- The greatest number of which ten times as much is an integer of 64 bits even when it is rounded. -/
def roomy : Nat := 1844674407370954956

/-- Moves decimal places from a positive exponent into the significand while there is room. -/
def absorb : (steps : Nat) → Nat → Int → Nat × Int
  | 0, s, e => (s, e)
  | k + 1, s, e => if 0 < e ∧ s < roomy then absorb k (s * 10) (e - 1) else (s, e)

/-- Moves the zeros at the end of the significand into a negative exponent. -/
def shed : (steps : Nat) → Nat → Int → Nat × Int
  | 0, s, e => (s, e)
  | k + 1, s, e => if e < 0 ∧ s % 10 = 0 then shed k (s / 10) (e + 1) else (s, e)

/-- The pair for an integer of 64 bits. -/
def ofNat (n : Nat) : Paired :=
  let high := Quantity.ofFraction false n 1
  match high.size with
  | some x =>
    let near := x.num / x.den
    ⟨high, if near ≤ 18446744073709549568 then .ofInt (n - near) else .zero⟩
  | none => ⟨high, .zero⟩

/-- The number that is taken for `significand · 10 ^ e`, for a significand of 64 bits. -/
def ofDecimal (significand : Nat) (e : Int) : Option Binary64 :=
  if significand = 0 then some .zero
  else
    let (s, e) := absorb 20 significand e
    let (s, e) := shed 20 s e
    let places := e.natAbs
    let unit (k : Nat) : Paired := powTen (if 0 < e then k else -(k : Int))
    (scale (unit 100) (places / 100) (ofNat s)).bind fun x =>
      (scale (unit 10) (places % 100 / 10) x).bind fun x =>
        (scale (unit 1) (places % 10) x).bind fun x =>
          (x.high.add x.low).bind Quantity.size

/-! ## To decimals -/

/-- The digits of a decimal, of which the first `point` stand before the point. -/
structure Digits where
  digits : List Nat
  point : Int
deriving DecidableEq

/-- The greatest number below `2 ^ 63`, times a power of ten. -/
def limit (e : Int) : Quantity :=
  .ofFraction false (9223372036854774784 * Nat.pow 10 e.toNat) (Nat.pow 10 (-e).toNat)

/-- Divides by a power of ten while the number is above a limit. -/
def lower (places : Nat) (bound : Quantity) : (steps : Nat) → Paired × Int → Paired × Int
  | 0, r => r
  | k + 1, (x, e) =>
    if bound.isBelow x.high then
      match x.multiply (powTen (-(places : Int))) with
      | some y => lower places bound k (y, e + places)
      | none => (x, e)
    else (x, e)

/-- Multiplies with a power of ten while the number is below a limit. -/
def raise (places : Nat) (bound : Quantity) : (steps : Nat) → Paired × Int → Paired × Int
  | 0, r => r
  | k + 1, (x, e) =>
    if x.high.isBelow bound then
      match x.multiply (powTen places) with
      | some y => raise places bound k (y, e - places)
      | none => (x, e)
    else (x, e)

/-- The whole part of a pair that lies between `10 ^ 17` and `10 ^ 19`. -/
def whole (x : Paired) : Nat :=
  let part (y : Quantity) : Int := y.truncated (-18446744073709551615) 18446744073709551615
  (part x.high + part x.low).toNat

/-- The first digits of a number, eighteen or nineteen of them. -/
def leading (s : Binary64) : Digits :=
  let start : Paired × Int := (⟨⟨false, some s⟩, .zero⟩, 0)
  let (x, e) :=
    if (limit 0).isBelow start.1.high then
      lower 1 (limit 0) 12 (lower 10 (limit 10) 12 (lower 100 (limit 100) 4 start))
    else raise 1 (limit (-1)) 12 (raise 10 (limit (-11)) 12 (raise 100 (limit (-101)) 4 start))
  let ds := (Nat.toDigits 10 x.whole).map fun c => c.toNat - 48
  ⟨ds, ds.length + e⟩

end Paired

end AlertService
