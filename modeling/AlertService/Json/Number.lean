import AlertService.Decimal.Shortest
import AlertService.Json.Fault

/-!
# Numbers in a body

A number without fraction and exponent is a whole number if it fits 64 bits: up to `2 ^ 64 - 1`
without a sign, from `-2 ^ 63` to `-1` with one. Every other number, `-0` among them, is of double
precision.
-/

namespace AlertService.Json

/-- The bound of whole numbers with a sign, `2 ^ 63`. -/
def signedBound : Nat := 9223372036854775808

inductive Number where
  | natural (n : Nat)
  | negative (n : Nat)
  | real (negative : Bool) (value : Binary64)

def Number.found : Number → Found
  | .natural n => .integer n
  | .negative n => .integer (-n)
  | .real s x => .real (Decimal.text s x)

/-- Takes digits into the significand as long as it stays below `2 ^ 64`; also says how many
digits were left over. -/
def capture (significand : Nat) : List Nat → Nat × Nat
  | [] => (significand, 0)
  | d :: ds =>
    if significand * 10 + d < UInt64.size then capture (significand * 10 + d) ds
    else (significand, ds.length + 1)

/-- The digits at the head of the text. -/
def digitRun (bs : Bytes) : List Nat := (bs.takeWhile Text.isDigitByte).map Text.digitOfByte

def afterDigits (bs : Bytes) : Bytes := bs.dropWhile Text.isDigitByte

def startsWithDigit (bs : Bytes) : Bool := bs.head?.any Text.isDigitByte

/-- The number `significand · 10 ^ exponent`, noticed to be too large when `rest` is unread. -/
def realNumber (negative : Bool) (significand : Nat) (exponent : Int) (rest : Bytes) :
    Except Fault (Number × Bytes) :=
  match Binary64.ofDecimal significand exponent with
  | some x => .ok (.real negative x, rest)
  | none => .error ⟨.numberOutOfRange, rest⟩

/-- The digits of an exponent: its value, or the text after the digit that takes it to `2 ^ 31`. -/
def exponentDigits (value : Nat) : Bytes → Except Bytes (Nat × Bytes)
  | [] => .ok (value, [])
  | b :: bs =>
    if Text.isDigitByte b then
      let v := value * 10 + Text.digitOfByte b
      if v < 2147483648 then exponentDigits v bs else .error bs
    else .ok (value, b :: bs)

/-- Reads what follows the letter of an exponent. -/
def readExponent (negative : Bool) (significand : Nat) (scale : Int) (bs : Bytes) :
    Except Fault (Number × Bytes) :=
  let (down, bs) :=
    match bs with
    | 43 :: r => (false, r)
    | 45 :: r => (true, r)
    | _ => (false, bs)
  match bs with
  | [] => .error ⟨.endInValue, []⟩
  | b :: r =>
    if Text.isDigitByte b then
      match exponentDigits (Text.digitOfByte b) r with
      | .ok (e, rest) => realNumber negative significand (if down then scale - e else scale + e) rest
      | .error rest =>
        if significand ≠ 0 ∧ !down then .error ⟨.numberOutOfRange, rest⟩
        else .ok (.real negative .zero, afterDigits rest)
    else .error ⟨.invalidNumber, r⟩

def isExponentLetter (b : UInt8) : Bool := b = 101 || b = 69

/-- Reads an exponent if one follows; `significand · 10 ^ scale` is what came before it. -/
def readScaled (negative : Bool) (significand : Nat) (scale : Int) (bs : Bytes) :
    Except Fault (Number × Bytes) :=
  match bs with
  | b :: r =>
    if isExponentLetter b then readExponent negative significand scale r
    else realNumber negative significand scale bs
  | [] => realNumber negative significand scale []

/-- Reads what follows a point; `extra` digits before it did not fit the significand. -/
def readFraction (negative : Bool) (significand extra : Nat) (bs : Bytes) :
    Except Fault (Number × Bytes) :=
  let ds := digitRun bs
  let rest := afterDigits bs
  if ds.isEmpty then
    if rest.isEmpty then .error ⟨.endInValue, []⟩ else .error (.next .invalidNumber rest)
  else
    let (s, left) := capture significand ds
    readScaled negative s ((extra : Int) - (ds.length - left : Nat)) rest

/-- What a run of digits alone writes. -/
def wholeNumber (negative : Bool) (n : Nat) : Number :=
  if negative then
    if n = 0 ∨ signedBound < n then .real true ((Binary64.round n 1).getD .zero) else .negative n
  else .natural n

/-- Reads the rest of a number after its whole digits `ds`. -/
def readAfterWhole (negative : Bool) (ds : List Nat) (bs : Bytes) :
    Except Fault (Number × Bytes) :=
  let (s, extra) := capture 0 ds
  match bs with
  | 46 :: r => readFraction negative s extra r
  | b :: r =>
    if isExponentLetter b then readExponent negative s extra r
    else if extra = 0 then .ok (wholeNumber negative s, bs)
    else realNumber negative s extra bs
  | [] => if extra = 0 then .ok (wholeNumber negative s, []) else realNumber negative s extra []

/-- Reads a number after its sign. A zero in front of another digit is no number. -/
def readNumber (negative : Bool) : Bytes → Except Fault (Number × Bytes)
  | [] => .error ⟨.endInValue, []⟩
  | b :: r =>
    if b = 48 then
      if startsWithDigit r then .error (.next .invalidNumber r)
      else readAfterWhole negative [0] r
    else if Text.isDigitByte b then
      readAfterWhole negative (digitRun (b :: r)) (afterDigits r)
    else .error ⟨.invalidNumber, r⟩

end AlertService.Json
