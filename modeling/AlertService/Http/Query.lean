import AlertService.Text.Digits
import AlertService.Text.Split

/-!
# Queries

A query is a list of pairs of a name and a value, in which a plus stands for a blank and a percent
sign with two digits for a byte.
-/

namespace AlertService.Http

/-- The value of a hexadecimal digit. -/
def hexByte? (b : UInt8) : Option (Fin 16) := Text.hexValue? (Char.ofNat b.toNat)

/-- The bytes that a text with percent signs stands for. A percent sign without two digits stands
for itself. -/
def percentDecode : Bytes → Bytes
  | [] => []
  | [b] => [b]
  | [b, c] => [b, c]
  | b :: c :: d :: rest =>
    if b = '%'.toUInt8 then
      match hexByte? c, hexByte? d with
      | some x, some y => UInt8.ofNat (x.val * 16 + y.val) :: percentDecode rest
      | _, _ => b :: percentDecode (c :: d :: rest)
    else b :: percentDecode (c :: d :: rest)

def plusToBlank (b : UInt8) : UInt8 := if b = '+'.toUInt8 then ' '.toUInt8 else b

/-- A name or a value as text. -/
def decodeComponent (bs : Bytes) : String := Utf8.lossy (percentDecode (bs.map plusToBlank))

/-- A pair; without an equals sign the value is empty. -/
def decodePair (bs : Bytes) : String × String :=
  (decodeComponent (bs.takeWhile (· ≠ '='.toUInt8)),
    decodeComponent ((bs.dropWhile (· ≠ '='.toUInt8)).drop 1))

abbrev Query := List (String × String)

namespace Query

/-- The pairs of a query. -/
def parse (s : String) : Query :=
  ((Text.splitOn '&'.toUInt8 (Utf8.encode s)).filter fun part => !part.isEmpty).map decodePair

/-- The value of the last pair with that name. -/
def get? (q : Query) (name : String) : Option String := q.reverse.lookup name

end Query

end AlertService.Http
