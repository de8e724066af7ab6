import AlertService.Decimal.Paired
import AlertService.Text.Digits

/-!
# Numbers written as text

A text can start with a number, behind blanks: a sign, digits with or without a point, and an exponent.
-/

namespace AlertService

/-- The number `± before.after · 10 ^ exponent`; a plain one is written in digits alone. -/
structure Numeral where
  negative : Bool
  before : List Char
  after : List Char
  exponent : Int
  isPlain : Bool
deriving DecidableEq

namespace Numeral

def isBlank (c : Char) : Bool := c = ' ' || (9 ≤ c.toNat && c.toNat ≤ 13)

/-- The text without the blanks around it. -/
def trimmed (cs : List Char) : List Char :=
  ((cs.dropWhile isBlank).reverse.dropWhile isBlank).reverse

/-- The sign at the head of the text, and the text after it. -/
def takeSign : List Char → Bool × List Char
  | '-' :: r => (true, r)
  | '+' :: r => (false, r)
  | cs => (false, cs)

/-! ## Reading -/

/-- The value of the digits of an exponent. From ten thousand on each digit makes it ten thousand. -/
def exponentValue (ds : List Char) : Nat :=
  ds.foldl (fun e c => if e < 10000 then e * 10 + (c.toNat - 48) else 10000) 0

/-- The exponent at the head of the text, and the text after it: a letter, a sign and digits. -/
def takeExponent? : List Char → Option (Int × List Char)
  | [] => none
  | c :: r =>
    if c = 'e' ∨ c = 'E' then
      let ds := (takeSign r).2.takeWhile Text.isDigit
      if ds.isEmpty then none
      else
        some (Quantity.signed (takeSign r).1 (exponentValue ds),
          (takeSign r).2.dropWhile Text.isDigit)
    else none

/-- The digits behind a point at the head of the text, and the text after them. -/
def takeFraction : List Char → Bool × List Char × List Char
  | '.' :: r => (true, r.takeWhile Text.isDigit, r.dropWhile Text.isDigit)
  | r => (false, [], r)

/-- The number at the head of the text, and the text after it. It has a digit before or after its point. -/
def take? (cs : List Char) : Option (Numeral × List Char) :=
  let (negative, cs) := takeSign (cs.dropWhile isBlank)
  let before := cs.takeWhile Text.isDigit
  let (hasPoint, after, rest) := takeFraction (cs.dropWhile Text.isDigit)
  if before.isEmpty ∧ after.isEmpty then none
  else
    match takeExponent? rest with
    | some (e, rest) => some (⟨negative, before, after, e, false⟩, rest)
    | none => some (⟨negative, before, after, 0, !hasPoint⟩, rest)

/-- The number that a text is, apart from blanks around it. -/
def ofText? (s : String) : Option Numeral :=
  match take? s.toList with
  | some (n, rest) => if rest.all isBlank then some n else none
  | none => none

/-! ## Values -/

/-- The number that the digits alone write. -/
def integer (n : Numeral) : Int :=
  Quantity.signed n.negative (Text.ofDigits (n.before.map fun c => c.toNat - 48))

/-- Below this another digit has room in 64 bits. -/
def room : Nat := 1844674407370955160

/-- The significand with one more digit, if there is room, and how many digits had none. -/
def push (s : Nat × Nat) (c : Char) : Nat × Nat :=
  if s.1 < room then (s.1 * 10 + (c.toNat - 48), s.2) else (s.1, s.2 + 1)

/-- The number of double precision that is taken for the number. Digits beyond 64 bits are left out. -/
def quantity (n : Numeral) : Quantity :=
  let (s, missing) := n.before.foldl push (0, 0)
  let (s, unused) := n.after.foldl push (s, 0)
  let scale : Int := n.exponent + missing - (n.after.length - unused : Nat)
  ⟨n.negative, Paired.ofDecimal s scale⟩

/-- The same number with the other sign. -/
def opposite (n : Numeral) : Numeral := { n with negative := !n.negative }

end Numeral

end AlertService
