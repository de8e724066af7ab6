import AlertService.Text.Split
import AlertService.Uuid.Basic

/-!
# Spellings of identifiers

An identifier may be written hyphenated, as thirty-two digits, hyphenated in braces, or hyphenated
after `urn:uuid:`, with letters of either case. `Uuid.parse` reads these and says what is wrong
with any other text.
-/

namespace AlertService

namespace Uuid

/-- What is wrong with a text that spells no identifier. -/
inductive SpellingError where
  | length (found : Nat)
  | character (found : Char) (offset : Nat)
  | groupCount (found : Nat)
  | groupLength (group expected found : Nat)
deriving DecidableEq

def SpellingError.message : SpellingError → String
  | .length n => "invalid length: found " ++ toString n
  | .character c i =>
    "invalid character: found `" ++ String.singleton c ++ "` at " ++ toString i
  | .groupCount n => "invalid group count: expected 5, found " ++ toString n
  | .groupLength g e n =>
    "invalid group length in group " ++ toString g ++ ": expected " ++ toString e ++
      ", found " ++ toString n

/-- The values of the digits, if all characters are hexadecimal digits. -/
def digits? (cs : List Char) : Option (List (Fin 16)) := cs.mapM Text.hexValue?

/-- Thirty-two digits in a row. -/
def simple? (cs : List Char) : Option Uuid := (digits? cs).bind ofDigits?

/-- The pieces between hyphens. -/
def groups (cs : List Char) : List (List Char) := Text.splitOn '-' cs

/-- Five groups of the right sizes. -/
def hyphenated? (cs : List Char) : Option Uuid :=
  let gs := groups cs
  if gs.map List.length = groupSizes then simple? gs.flatten else none

/-- The text inside a wrapping, with the number of bytes in front of it. -/
def unwrap? (cs : List Char) : Option (Nat × List Char) :=
  if cs.head? = some '\x7b' ∧ cs.getLast? = some '\x7d' ∧ 2 ≤ cs.length then
    some (1, cs.tail.dropLast)
  else if (cs.take 9).map Char.toLower = ['u', 'r', 'n', ':', 'u', 'u', 'i', 'd', ':'] then
    some (9, cs.drop 9)
  else none

/-- The number of bytes of a text. -/
def byteSize (cs : List Char) : Nat := (cs.map Char.utf8Size).foldl (· + ·) 0

/-- The part of a text that has to be hyphenated, if the text has the size of a hyphenated
spelling, bare or wrapped. -/
def core? (cs : List Char) : Option (List Char) :=
  if byteSize cs = 36 then some cs
  else (unwrap? cs).bind fun (_, inner) => if byteSize inner = 36 then some inner else none

/-- The identifier that a text spells. -/
def accept? (cs : List Char) : Option Uuid :=
  (simple? cs).orElse fun _ => (core? cs).bind hyphenated?

/-- The first character, counted in bytes from `offset`, that is neither a digit nor a hyphen. -/
def badChar? (offset : Nat) : List Char → Option (Char × Nat)
  | [] => none
  | c :: cs =>
    if c = '-' ∨ (Text.hexValue? c).isSome then badChar? (offset + c.utf8Size) cs
    else some (c, offset)

/-- The first group of the wrong size. -/
def badGroup? : (index : Nat) → (sizes : List Nat) → List (List Char) → Option SpellingError
  | i, n :: ns, g :: gs =>
    if g.length = n then badGroup? (i + 1) ns gs else some (.groupLength i n g.length)
  | _, _, _ => none

/-- What is wrong with `inner` where a hyphenated spelling is due. A text of `size` bytes whose
first four groups are right is as long as its last group makes it, the wrapping included. -/
def diagnoseGroups (size offset : Nat) (inner : List Char) : SpellingError :=
  match badChar? offset inner with
  | some (c, i) => .character c i
  | none =>
    let gs := groups inner
    if gs.length ≠ 5 then .groupCount gs.length
    else (badGroup? 0 (groupSizes.take 4) gs).getD (.groupLength 4 12 (size - 24))

/-- What is wrong with a text that is not accepted. Offsets are counted from the start of the text,
or of the part that has to be hyphenated where the size of the text shows it. A bare text of digits
alone is of the wrong length. -/
def diagnose (cs : List Char) : SpellingError :=
  let size := byteSize cs
  if size = 0 ∨ 45 < size then .length size
  else
    match core? cs, unwrap? cs with
    | some inner, _ => diagnoseGroups size 0 inner
    | none, some (offset, inner) => diagnoseGroups size offset inner
    | none, none =>
      if (badChar? 0 cs).isNone ∧ !cs.contains '-' then .length size else diagnoseGroups size 0 cs

/-- Reads an identifier. -/
def parse (s : String) : Except SpellingError Uuid :=
  match accept? s.toList with
  | some u => .ok u
  | none => .error (diagnose s.toList)

end Uuid

end AlertService
