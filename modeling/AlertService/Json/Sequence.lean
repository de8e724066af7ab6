import AlertService.Json.Reader
import AlertService.Json.Skip

/-!
# Items of an array

How a reader goes from item to item of an array and past its end.
-/

namespace AlertService.Json

/-- Goes to the next item of an array; says whether there is one. -/
def readItemStart (first : Bool) (bs : Bytes) : Except Fault (Bool × Bytes) :=
  match skipSpaces bs with
  | [] => .error ⟨.endInList, []⟩
  | b :: r =>
    if b = Bracket.list.closing then .ok (false, b :: r)
    else if first then .ok (true, b :: r)
    else if b = ','.toUInt8 then
      match skipSpaces r with
      | [] => .error ⟨.endInValue, []⟩
      | c :: r =>
        if c = Bracket.list.closing then .error (.next .trailingComma (c :: r))
        else .ok (true, c :: r)
    else .error (.next .expectedCommaOrBracket (b :: r))

/-- Goes past the bracket that closes an array. -/
def readListEnd (bs : Bytes) : Except Fault Bytes :=
  match skipSpaces bs with
  | [] => .error ⟨.endInList, []⟩
  | b :: r =>
    if b = Bracket.list.closing then .ok r
    else if b = ','.toUInt8 then
      match skipSpaces r with
      | [] => .error ⟨.trailingCharacters, []⟩
      | c :: r =>
        if c = Bracket.list.closing then .error (.next .trailingComma (c :: r))
        else .error (.next .trailingCharacters (c :: r))
    else .error (.next .trailingCharacters (b :: r))

/-- Reads the items after those in `acc`, which come last first. Every round takes a byte, so as many
rounds as there are bytes are enough. -/
def readListItems {α : Type} (read : Reader α) :
    (rounds : Nat) → (first : Bool) → (acc : List α) → Reader (List α)
  | 0, _, _, bs => .error ⟨.endInList, bs⟩
  | rounds + 1, first, acc, bs => do
    let (found, bs) ← readItemStart first bs
    if found then
      let (x, bs) ← read bs
      readListItems read rounds false (x :: acc) bs
    else
      let rest ← readListEnd bs
      return (acc.reverse, rest)

/-- An array of values of one kind. -/
def Reader.list {α : Type} (read : Reader α) : Reader (List α) := fun bs =>
  match skipSpaces bs with
  | [] => .error ⟨.endInValue, []⟩
  | b :: r =>
    if b = '['.toUInt8 then readListItems read (r.length + 1) true [] r
    else .error (typeFault "a sequence" (b :: r))

end AlertService.Json
