import AlertService.Text.Blank
import AlertService.Time.Instant

/-!
# Written instants

Reads an instant as a date and a time of day, joined by a `T` or by blanks, with an offset or
without one, which then counts as none. Numbers may have fewer digits than usual and blanks in
front of them.
-/

namespace AlertService

namespace Instant

/-- What is wrong with a text that is no instant. -/
inductive ReadError where
  | endsEarly
  | badCharacter
  | outOfRange
  | goesOn
deriving DecidableEq

def ReadError.message : ReadError → String
  | .endsEarly => "premature end of input"
  | .badCharacter => "input contains invalid characters"
  | .outOfRange => "input is out of range"
  | .goesOn => "trailing input"

/-- The number at the head of the text, of at least one and at most `width` digits. -/
def readDigits (width : Nat) (cs : List Char) : Except ReadError (Nat × List Char) :=
  match cs with
  | [] => .error .endsEarly
  | c :: _ =>
    if Text.isDigit c then
      let ds := (cs.take width).takeWhile Text.isDigit
      .ok (Text.ofDigits (ds.filterMap Text.digitValue?), cs.drop ds.length)
    else .error .badCharacter

/-- A number of at most two digits in the given range, after blanks. -/
def readField (least most : Nat) (cs : List Char) : Except ReadError (Nat × List Char) := do
  let (n, cs) ← readDigits 2 (cs.dropWhile Text.isBlank)
  if least ≤ n ∧ n ≤ most then .ok (n, cs) else .error .outOfRange

/-- A year of up to four digits, or of any number of digits after a sign. -/
def readYear (cs : List Char) : Except ReadError (Int × List Char) := do
  let cs := cs.dropWhile Text.isBlank
  let (y, cs) ←
    match cs with
    | '-' :: r => (readDigits r.length r).map fun (n, rest) => (-(n : Int), rest)
    | '+' :: r => (readDigits r.length r).map fun (n, rest) => ((n : Int), rest)
    | _ => (readDigits 4 cs).map fun (n, rest) => ((n : Int), rest)
  if -2147483648 ≤ y ∧ y ≤ 2147483647 then .ok (y, cs) else .error .outOfRange

/-- The given character. -/
def readMark (mark : Char) : List Char → Except ReadError (List Char)
  | [] => .error .endsEarly
  | c :: cs => if c = mark then .ok cs else .error .badCharacter

/-- A fraction of a second, in nanoseconds; digits after the ninth are dropped. -/
def readFraction (cs : List Char) : Except ReadError (Nat × List Char) :=
  match cs with
  | '.' :: r => do
    let (n, rest) ← readDigits 9 r
    .ok (n * Nat.pow 10 (9 - (r.length - rest.length)), rest.dropWhile Text.isDigit)
  | _ => .ok (0, cs)

/-- The parts of a date and a time of day. -/
structure Parts where
  date : Date
  hour : Nat
  minute : Nat
  second : Nat
  nanos : Nat

/-- Reads the parts; `joined` says that a `T` joins date and time. -/
def readParts (joined : Bool) (cs : List Char) : Except ReadError (Parts × List Char) := do
  let (year, cs) ← readYear cs
  let cs ← readMark '-' cs
  let (month, cs) ← readField 1 12 cs
  let cs ← readMark '-' cs
  let (day, cs) ← readField 1 31 cs
  let cs ← if joined then readMark 'T' cs else .ok cs
  let (hour, cs) ← readField 0 23 cs
  let cs ← readMark ':' cs
  let (minute, cs) ← readField 0 59 cs
  let cs ← readMark ':' cs
  let (second, cs) ← readField 0 60 cs
  let (nanos, cs) ← readFraction cs
  return (⟨⟨year, month, day⟩, hour, minute, second, nanos⟩, cs)

/-- The instant that the parts name at an offset of so many seconds. It has to be in the years that dates
are kept in. -/
def ofParts (p : Parts) (offset : Int) : Except ReadError Instant :=
  let (second, leap) := if p.second = 60 then (59, 1000000000) else (p.second, 0)
  let t : Instant :=
    ⟨p.date.toDays * secondsPerDay + p.hour * 3600 + p.minute * 60 + second - offset, p.nanos + leap⟩
  if p.date.isValid ∧ Date.inRange t.date.year then .ok t else .error .outOfRange

/-- The two digits at the head of the text. -/
def twoDigits? (cs : List Char) : Option (Nat × Nat) :=
  match cs with
  | a :: b :: _ =>
    match Text.digitValue? a, Text.digitValue? b with
    | some x, some y => some (x, y)
    | _, _ => none
  | _ => none

/-- The minutes of an offset: two digits, or nothing. -/
def offsetMinutes? (cs : List Char) : Option Nat :=
  match cs with
  | [] => some 0
  | [_, _] => (twoDigits? cs).bind fun (a, b) => if a ≤ 5 then some (a * 10 + b) else none
  | _ => none

/-- An offset in seconds: `Z`, or a sign, hours below 24 and perhaps minutes. -/
def offset? (cs : List Char) : Option Int :=
  match cs.dropWhile Text.isBlank with
  | ['Z'] | ['z'] => some 0
  | c :: r => do
    let sign : Int ← if c = '+' then some 1 else if c = '-' ∨ c = '\u2212' then some (-1) else none
    let (a, b) ← twoDigits? r
    let minutes ← offsetMinutes? ((r.drop 2).dropWhile fun c => c = ':' || Text.isBlank c)
    if a * 10 + b < 24 then some (sign * ((a * 10 + b) * 3600 + minutes * 60 : Nat)) else none
  | [] => none

/-- The eleventh byte of the text is a `T`. -/
def isJoined (cs : List Char) : Bool := (Utf8.encode (String.ofList cs))[10]? = some 'T'.toUInt8

/-- Reads an instant. Where none is named at the offset, what is wrong is said of the text as one without
an offset. -/
def read (s : String) : Except ReadError Instant := do
  let cs := s.toList
  let (p, rest) ← readParts (isJoined cs) cs
  match (offset? rest).map (ofParts p) with
  | some (.ok t) => .ok t
  | _ => if rest.isEmpty then ofParts p 0 else .error .goesOn

end Instant

end AlertService
