import AlertService.Decimal.Paired

/-!
# Printed numbers

A number is printed with a number of places after the point, with an exponent, or in the shorter of
these two ways with a number of significant digits. It is rounded from its first eighteen or nineteen
digits, halves upwards.
-/

namespace AlertService

namespace Paired.Digits

/-- The number that is written as the digits. -/
def value (ds : List Nat) : Nat := ds.foldl (fun n d => n * 10 + d) 0

/-- The digits of a number, at least `width` of them. -/
def ofNat (width n : Nat) : List Nat :=
  let ds := (Nat.toDigits 10 n).map fun c => c.toNat - 48
  List.replicate (width - ds.length) 0 ++ ds

/-- The digits without the zeros at their end. -/
def trimmed (d : Digits) : Digits :=
  { d with digits := (d.digits.reverse.dropWhile (· = 0)).reverse }

/-- Rounds to a number of digits. -/
def round (count : Nat) (d : Digits) : Digits :=
  let kept := d.digits.take count
  if (d.digits[count]?).any (5 ≤ ·) then
    let ds := ofNat kept.length (value kept + 1)
    ⟨ds.take kept.length, d.point + (ds.length - kept.length : Nat)⟩
  else { d with digits := kept }

/-- Rounds to that many places after the point, or to so many significant digits, of which there are
at most `most`. -/
def rounded (isPlaces : Bool) (count most : Nat) (d : Digits) : Digits :=
  let wanted : Int := if isPlaces then d.point + count else count
  let (wanted, d) : Int × Digits :=
    if wanted = 0 ∧ d.digits.head?.any (5 ≤ ·) then (1, ⟨0 :: d.digits, d.point + 1⟩)
    else (wanted, d)
  (if 0 < wanted ∧ (wanted < d.digits.length ∨ most < d.digits.length) then
    d.round (min wanted.toNat most) else d).trimmed

end Paired.Digits

namespace Printed

inductive Kind where
  | fixed
  | exponent
  | general
deriving DecidableEq

/-- How a number is printed. A full style shows up to 26 digits, and at least one after the point;
a style that keeps the point shows it, and the zeros at the end, in any case. -/
structure Style where
  kind : Kind
  precision : Nat
  isFull : Bool
  keepsPoint : Bool
  groups : Bool
  letter : Char
deriving DecidableEq

/-- The first digits that a style shows of a size. -/
def digits (s : Style) (x : Binary64) : Paired.Digits :=
  if x.mantissa = 0 then ⟨[0], 1⟩
  else
    let count := match s.kind with
      | .fixed => s.precision
      | .exponent => s.precision + 1
      | .general => max 1 s.precision
    (Paired.leading x).rounded (s.kind = .fixed) count (if s.isFull then 26 else 16)

def digitChar (d : Nat) : Char := Char.ofNat (48 + d)

/-- Digits before the point in groups of three. -/
def grouped : List Char → List Char
  | [] => []
  | c :: r => c :: (if r.length % 3 = 0 ∧ r ≠ [] then [','] else []) ++ grouped r

/-- Digits from place `start` on, zeros where there are none. -/
def places (ds : List Nat) (start : Int) (count : Nat) : List Char :=
  (List.range count).map fun (k : Nat) =>
    let place := start + k
    if place < 0 then '0' else digitChar ((ds[place.toNat]?).getD 0)

/-- The text without the zeros at its end; of a point before them only a full style keeps a zero. -/
def shortened (isFull : Bool) (cs : List Char) : List Char :=
  match cs.reverse.dropWhile (· = '0') with
  | '.' :: r => if isFull then ('0' :: '.' :: r).reverse else r.reverse
  | r => r.reverse

/-- The text of an exponent: a sign and at least two digits. -/
def exponentText (letter : Char) (e : Int) : List Char :=
  let ds := Nat.toDigits 10 e.natAbs
  letter :: (if e < 0 then '-' else '+') :: (List.replicate (2 - ds.length) '0' ++ ds)

/-- The text of digits, without a sign. -/
def body (s : Style) (d : Paired.Digits) : List Char :=
  let e := d.point - 1
  let isGeneral := s.kind = .general
  let precision : Nat := if isGeneral then max 1 s.precision - 1 else s.precision
  let hasExponent := s.kind = .exponent || isGeneral && (e < -4 || (precision : Int) < e)
  let precision : Nat := if isGeneral && !hasExponent then (precision - e).toNat else precision
  let point := if hasExponent then 1 else d.point
  let front := if 0 < point then places d.digits 0 point.toNat else ['0']
  let front := if s.groups then grouped front else front
  let hasPoint := 0 < precision || s.keepsPoint || s.isFull
  let text := front ++ (if hasPoint then ['.'] else []) ++ places d.digits point precision
  let isShort := if isGeneral then !s.keepsPoint else s.isFull
  (if isShort && hasPoint then shortened s.isFull text else text) ++
    if hasExponent then exponentText s.letter e else []

/-- The style that numbers have in texts: fifteen significant digits, with a point in any case. -/
def Style.plain : Style := ⟨.general, 15, true, false, false, 'e'⟩

end Printed

/-- The text of a number. -/
def Quantity.text (x : Quantity) : String :=
  let isNegative := x.negative && !x.isZero
  .ofList ((if isNegative then ['-'] else []) ++
    match x.size with
    | some s => Printed.body .plain (Printed.digits .plain s)
    | none => ['I', 'n', 'f'])

end AlertService
