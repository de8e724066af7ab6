import AlertService.Text.Utf8

/-!
# Base 64

Three bytes are written as four characters, and nothing is added to a shorter end. Reading is
strict: the bits that a shorter end leaves over have to be zero.
-/

namespace AlertService.Base64

/-- The two characters after the letters and digits. -/
structure Alphabet where
  first : Char
  second : Char

namespace Alphabet

/-- For use in addresses and tokens. -/
def urlSafe : Alphabet := ⟨'-', '_'⟩

def standard : Alphabet := ⟨'+', '/'⟩

/-- The character of a number below 64. -/
def char (t : Alphabet) (n : Nat) : Char :=
  if n < 26 then Char.ofNat (65 + n)
  else if n < 52 then Char.ofNat (71 + n)
  else if n < 62 then Char.ofNat (n - 4)
  else if n = 62 then t.first
  else t.second

/-- The number of a character. -/
def index? (t : Alphabet) (c : Char) : Option Nat :=
  let n := c.toNat
  if 65 ≤ n ∧ n ≤ 90 then some (n - 65)
  else if 97 ≤ n ∧ n ≤ 122 then some (n - 71)
  else if 48 ≤ n ∧ n ≤ 57 then some (n + 4)
  else if c = t.first then some 62
  else if c = t.second then some 63
  else none

end Alphabet

/-- The text of bytes. -/
def encode (t : Alphabet) : Bytes → List Char
  | a :: b :: c :: rest =>
    let n := a.toNat * 65536 + b.toNat * 256 + c.toNat
    t.char (n / 262144) :: t.char (n / 4096 % 64) :: t.char (n / 64 % 64) :: t.char (n % 64) ::
      encode t rest
  | [a, b] =>
    let n := a.toNat * 1024 + b.toNat * 4
    [t.char (n / 4096), t.char (n / 64 % 64), t.char (n % 64)]
  | [a] => [t.char (a.toNat / 4), t.char (a.toNat % 4 * 16)]
  | [] => []

/-- The bytes of numbers below 64; `acc` holds the bytes before them, last first. -/
def join (acc : Bytes) : List Nat → Option Bytes
  | a :: b :: c :: d :: rest =>
    let n := a * 262144 + b * 4096 + c * 64 + d
    join (UInt8.ofNat n :: UInt8.ofNat (n / 256) :: UInt8.ofNat (n / 65536) :: acc) rest
  | [a, b, c] =>
    let n := a * 4096 + b * 64 + c
    if n % 4 = 0 then some (UInt8.ofNat (n / 4) :: UInt8.ofNat (n / 1024) :: acc).reverse else none
  | [a, b] =>
    let n := a * 64 + b
    if n % 16 = 0 then some (UInt8.ofNat (n / 16) :: acc).reverse else none
  | [_] => none
  | [] => some acc.reverse

/-- The bytes that a text writes. -/
def decode? (t : Alphabet) (cs : List Char) : Option Bytes := (cs.mapM t.index?).bind (join [])

end AlertService.Base64
