import AlertService.Json.Record

/-!
# Values of any kind

A value as it is written: members keep their order, and a key may come twice. `Raw.read` reads one
whose kind is not known beforehand. Unlike a value that is skipped, it has to be right in its numbers
and strings, and its brackets may not be nested too deep.

Reading a value that may be wrong does not have to fail the whole body: `Reader.attempt` goes on
where the reading of the value stopped.
-/

namespace AlertService.Json

inductive Raw where
  | null
  | flag (b : Bool)
  | number (n : Number)
  | string (s : String)
  | list (items : List Raw)
  | object (members : List (String × Raw))

/-- Where reading goes on after a fault inside a bracket: after the bracket if it closes there. A
comma in a list is taken as well. -/
def Bracket.afterFault (k : Bracket) (bs : Bytes) : Bytes :=
  match skipSpaces bs with
  | [] => []
  | b :: r => if b = k.closing ∨ k = .list ∧ b = ','.toUInt8 then r else b :: r

/-- A value, or none if it cannot be read. -/
def Reader.attempt {α : Type} (read : Reader α) : Reader (Option α) := fun bs =>
  match read bs with
  | .ok (x, rest) => .ok (some x, rest)
  | .error f => .ok (none, f.rest)

namespace Raw

/-- The values that a body may hold one inside the other. -/
def depthLimit : Nat := 127

/-- Reads a value other than a list or an object, whose first byte is `b`. -/
def readScalar (b : UInt8) (bs : Bytes) : Except Fault (Raw × Bytes) :=
  if b = 'n'.toUInt8 then (readLetters "ull" bs).map fun r => (.null, r)
  else if b = 't'.toUInt8 then (readLetters "rue" bs).map fun r => (.flag true, r)
  else if b = 'f'.toUInt8 then (readLetters "alse" bs).map fun r => (.flag false, r)
  else if b = '-'.toUInt8 then (readNumber true bs).map fun (n, r) => (.number n, r)
  else if Text.isDigitByte b then (readNumber false (b :: bs)).map fun (n, r) => (.number n, r)
  else if b = '"'.toUInt8 then (readStringRest bs).map fun (s, r) => (.string s, r)
  else .error (.next .expectedValue (b :: bs))

/-- Reads the members after those in `acc`, which come last first. Every round takes a byte, so as
many rounds as there are bytes are enough. -/
def readMembers (read : Reader Raw) :
    (rounds : Nat) → (first : Bool) → (acc : List (String × Raw)) → Reader (List (String × Raw))
  | 0, _, _, bs => .error ⟨.endInObject, bs⟩
  | rounds + 1, first, acc, bs => do
    match ← readKey first bs with
    | (none, rest) => return (acc.reverse, rest)
    | (some key, rest) =>
      let (value, rest) ← (readColon rest).bind read
      readMembers read rounds false ((key, value) :: acc) rest

/-- Reads what a bracket holds, given a reader of the values in it. -/
def readInside (k : Bracket) (read : Reader Raw) : Reader Raw := fun bs =>
  let result : Except Fault (Raw × Bytes) :=
    match k with
    | .list => (readListItems read (bs.length + 1) true [] bs).map fun (xs, r) => (list xs, r)
    | .object => (readMembers read (bs.length + 1) true [] bs).map fun (ms, r) => (object ms, r)
  result.mapError fun f => { f with rest := k.afterFault f.rest }

/-- Reads a value; without a reader of the values inside, it may have none. -/
def readAt (inside : Option (Reader Raw)) : Reader Raw := fun bs =>
  match skipSpaces bs with
  | [] => .error ⟨.endInValue, []⟩
  | b :: r =>
    match Bracket.opening? b, inside with
    | none, _ => readScalar b r
    | some k, some read => readInside k read r
    | some _, none => .error ⟨.tooDeep, b :: r⟩

/-- Reads a value with at most `depth` brackets one inside the other. -/
def read : (depth : Nat) → Reader Raw
  | 0 => readAt none
  | depth + 1 => readAt (some (read depth))

/-- Reads the value of a member of a record. -/
def readMember : Reader Raw := read (depthLimit - 1)

def isNull : Raw → Bool
  | .null => true
  | _ => false

def isString : Raw → Bool
  | .string _ => true
  | _ => false

def isStrings : Raw → Bool
  | .list items => items.all isString
  | _ => false

end Raw

end AlertService.Json
