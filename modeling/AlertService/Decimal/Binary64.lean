/-!
# Numbers of double precision

A number of double precision is `mantissa · 2 ^ exponent` with a mantissa below `2 ^ 53`. Products
and quotients are computed exactly and rounded once, to the nearest such number, ties to the even
mantissa; what would reach `2 ^ 1024` has no result.
-/

namespace AlertService

/-- A number of double precision without its sign. -/
structure Binary64 where
  mantissa : Nat
  exponent : Int
deriving DecidableEq

namespace Binary64

def zero : Binary64 := ⟨0, -1074⟩

/-- The fraction `num / den` that a number is. -/
def num (x : Binary64) : Nat := x.mantissa * Nat.pow 2 x.exponent.toNat

def den (x : Binary64) : Nat := Nat.pow 2 (-x.exponent).toNat

/-- The fraction `num / den` in units of `2 ^ e`, rounded to the nearest whole number, ties to even. -/
def quotient (num den : Nat) (e : Int) : Nat :=
  let n := num * Nat.pow 2 (-e).toNat
  let d := den * Nat.pow 2 e.toNat
  let q := n / d
  let r := n % d
  if 2 * r < d then q else if 2 * r > d then q + 1 else q + q % 2

/-- The number nearest to `num / den`. -/
def round (num den : Nat) : Option Binary64 :=
  if num = 0 then some zero
  else
    let e₀ : Int := (Nat.log2 num : Int) - Nat.log2 den - 53
    let e₁ :=
      if num * Nat.pow 2 (-e₀).toNat < Nat.pow 2 53 * (den * Nat.pow 2 e₀.toNat) then e₀
      else e₀ + 1
    let e := max e₁ (-1074)
    let q := quotient num den e
    let x : Binary64 := if q = Nat.pow 2 53 then ⟨Nat.pow 2 52, e + 1⟩ else ⟨q, e⟩
    if x.exponent ≤ 971 then some x else none

def mul (x y : Binary64) : Option Binary64 := round (x.num * y.num) (x.den * y.den)

def div (x y : Binary64) : Option Binary64 := round (x.num * y.den) (x.den * y.num)

/-- The number nearest to `10 ^ k`. -/
def powTen (k : Nat) : Option Binary64 := round (Nat.pow 10 k) 1

/-- The number `x · 10 ^ e`, in steps of at most 308 decimal places, each rounded. Five steps below zero
leave nothing of any `x`. -/
def scale : (steps : Nat) → Binary64 → Int → Option Binary64
  | 0, _, _ => some zero
  | steps + 1, x, e =>
    if e.natAbs ≤ 308 then
      (powTen e.natAbs).bind fun p => if 0 ≤ e then x.mul p else x.div p
    else if x.mantissa = 0 then some zero
    else if 0 ≤ e then none
    else (powTen 308).bind fun p => (x.div p).bind fun y => scale steps y (e + 308)

/-- The number `significand · 10 ^ e` for a significand of at most twenty digits: the significand is rounded
first, then scaled. -/
def ofDecimal (significand : Nat) (e : Int) : Option Binary64 :=
  (round significand 1).bind fun x => scale 5 x e

end Binary64

end AlertService
