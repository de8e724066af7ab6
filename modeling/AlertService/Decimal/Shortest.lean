import AlertService.Decimal.Binary64
import AlertService.Text.Digits

/-!
# Shortest decimal text

The written form of a number of double precision has the fewest digits that read back as the
number, and of those the digits nearest to it.
-/

namespace AlertService

/-- The number `digits · 10 ^ scale`. -/
structure Decimal where
  digits : Nat
  scale : Int
deriving DecidableEq

namespace Decimal

/-- The fraction that a decimal is. -/
def num (d : Decimal) : Nat := d.digits * Nat.pow 10 d.scale.toNat

def den (d : Decimal) : Nat := Nat.pow 10 (-d.scale).toNat

/-- The decimal rounds to `x`. -/
def readsBack (x : Binary64) (d : Decimal) : Bool := Binary64.round d.num d.den = some x

/-- The distance to `x`, in units that depend on `x` and the scale only. -/
def distance (x : Binary64) (d : Decimal) : Nat :=
  let a := d.num * x.den
  let b := x.num * d.den
  if a ≤ b then b - a else a - b

/-- The place of the first digit: `10 ^ k ≤ x < 10 ^ (k + 1)`. -/
def leadingPlace (x : Binary64) : Int :=
  if x.den ≤ x.num then ((Nat.toDigits 10 (x.num / x.den)).length : Int) - 1
  else
    let q := x.den / x.num
    let k : Int := (Nat.toDigits 10 q).length
    if x.num * Nat.pow 10 (k - 1).toNat = x.den then 1 - k else -k

/-- The two neighbours of `x` among the decimals of the given scale. -/
def neighbours (x : Binary64) (scale : Int) : Decimal × Decimal :=
  let q := (x.num * Nat.pow 10 (-scale).toNat) / (x.den * Nat.pow 10 scale.toNat)
  (⟨q, scale⟩, ⟨q + 1, scale⟩)

/-- The upper neighbour is nearer to `x`; of two equally near the one with the even last digit is
taken to be. -/
def upperIsNearer (x : Binary64) (lower upper : Decimal) : Bool :=
  distance x upper < distance x lower ||
    distance x upper = distance x lower && lower.digits % 2 = 1

/-- The nearer neighbour that reads back as `x`. -/
def candidate? (x : Binary64) (scale : Int) : Option Decimal :=
  let (lower, upper) := neighbours x scale
  match readsBack x lower, readsBack x upper with
  | true, true => some (if upperIsNearer x lower upper then upper else lower)
  | true, false => some lower
  | false, true => some upper
  | false, false => none

/-- Tries 1, 2, … digits; seventeen always suffice. -/
def search (x : Binary64) (place : Int) : (tries : Nat) → Decimal
  | 0 => (neighbours x (place - 16)).1
  | tries + 1 =>
    match candidate? x (place - (16 - tries : Int)) with
    | some d => d
    | none => search x place tries

/-- The decimal with the fewest digits that reads back as `x`. -/
def shortest (x : Binary64) : Decimal :=
  if x.mantissa = 0 then ⟨0, 0⟩ else search x (leadingPlace x) 17

/-- The places of the first digit for which a number is written out in full. -/
structure Format where
  leastPlace : Int
  mostPlace : Int

/-- From `0.00001` up to sixteen digits before the point numbers are written out in full, beyond
with a signed exponent. -/
def messageFormat : Format := ⟨-5, 15⟩

/-- The text of a decimal whose first digit is not zero. -/
def render (f : Format) (d : Decimal) : List Char :=
  let ds := Nat.toDigits 10 d.digits
  let place : Int := ds.length + d.scale - 1
  if f.leastPlace ≤ place ∧ place ≤ f.mostPlace then
    if 0 ≤ d.scale then ds ++ List.replicate d.scale.toNat '0' ++ ['.', '0']
    else if 0 ≤ place then
      ds.take (place + 1).toNat ++ '.' :: ds.drop (place + 1).toNat
    else ['0', '.'] ++ List.replicate (-place - 1).toNat '0' ++ ds
  else
    let fraction := if ds.length = 1 then [] else '.' :: ds.tail
    let sign := if 0 ≤ place then '+' else '-'
    ds.take 1 ++ fraction ++ ['e', sign] ++ Nat.toDigits 10 place.natAbs

/-- The text of a number of double precision. -/
def text (negative : Bool) (x : Binary64) : String :=
  let body :=
    if x.mantissa = 0 then ['0', '.', '0'] else render messageFormat (trimZeros (shortest x))
  String.ofList (if negative then '-' :: body else body)
where
  /-- Moves trailing zeros of the digits into the scale; there are at most seventeen. -/
  trimZeros (d : Decimal) : Decimal := loop 20 d
  loop : Nat → Decimal → Decimal
    | 0, d => d
    | k + 1, d => if d.digits % 10 = 0 then loop k ⟨d.digits / 10, d.scale + 1⟩ else d

end Decimal

end AlertService
