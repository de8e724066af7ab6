import AlertService.Text.Utf8

/-!
# Digits

Digits as characters and as bytes.

* `hexValue?_hexDigit`: the written form of a hexadecimal digit reads back.
-/

namespace AlertService.Text

/-- The lower-case character of a hexadecimal digit. -/
def hexDigit (d : Fin 16) : Char := Char.ofNat (if d.val < 10 then 48 + d.val else 87 + d.val)

/-- The last digit of a number in base sixteen. -/
def lowDigit (n : Nat) : Fin 16 := ⟨n % 16, Nat.mod_lt n (by decide)⟩

/-- The value of a hexadecimal digit in either case. -/
def hexValue? (c : Char) : Option (Fin 16) :=
  let n := c.toNat
  if 48 ≤ n ∧ n ≤ 57 then some (lowDigit (n - 48))
  else if 97 ≤ n ∧ n ≤ 102 then some (lowDigit (n - 87))
  else if 65 ≤ n ∧ n ≤ 70 then some (lowDigit (n - 55))
  else none

theorem hexValue?_hexDigit (d : Fin 16) : hexValue? (hexDigit d) = some d := by
  revert d; decide

/-- The value of a decimal digit. -/
def digitValue? (c : Char) : Option Nat :=
  if 48 ≤ c.toNat ∧ c.toNat ≤ 57 then some (c.toNat - 48) else none

/-- A decimal digit. -/
def isDigit (c : Char) : Bool := (digitValue? c).isSome

def isDigitByte (b : UInt8) : Bool := 48 ≤ b.toNat && b.toNat ≤ 57

def digitOfByte (b : UInt8) : Nat := b.toNat - 48

/-- The number that a list of decimal digits writes. -/
def ofDigits (ds : List Nat) : Nat := ds.foldl (fun n d => n * 10 + d) 0

/-- The number that a text of decimal digits writes, if there are any. -/
def natural? (cs : List Char) : Option Nat :=
  if cs.isEmpty then none else (cs.mapM digitValue?).map ofDigits

/-- The number written in decimal digits, at least `width` of them. -/
def padded (width n : Nat) : List Char :=
  let ds := Nat.toDigits 10 n
  List.replicate (width - ds.length) '0' ++ ds

end AlertService.Text
