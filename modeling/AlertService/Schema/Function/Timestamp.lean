import AlertService.Schema.Function.Moment

/-!
# Written moments

A moment is written as a date, a time of day, both, a number of days or of seconds, or as a template
says, in which a letter behind a percent sign stands for a part of the moment.
-/

namespace AlertService.Schema

namespace Timestamp

open Moment (Shown)

def days (millis : Int) : Int := millis / Moment.millisPerDay

/-- A number in at least so many characters, of which a sign is one. -/
def padded (width : Nat) (n : Int) : List Char :=
  if n < 0 then '-' :: Text.padded (width - 1) n.natAbs else Text.padded width n.natAbs

/-- The date with the given year. -/
def dateWith (year : List Char) (d : Date) : List Char :=
  year ++ '-' :: Text.padded 2 d.month ++ '-' :: Text.padded 2 d.day

/-- The date with the year in four digits behind the sign that it has if it is negative. -/
def dateText (d : Date) : List Char :=
  dateWith ((if d.year < 0 then ['-'] else []) ++ Text.padded 4 d.year.natAbs) d

def hour (clock : Nat) : Nat := clock / 3600000

def minute (clock : Nat) : Nat := clock / 60000 % 60

def second (clock : Nat) : Nat := clock / 1000 % 60

/-- Seconds with their thousandths. -/
def fineSecond (clock : Nat) : List Char :=
  Text.padded 2 (second clock) ++ '.' :: Text.padded 3 (clock % 1000)

def timeText (showsMillis : Bool) (clock : Nat) : List Char :=
  Text.padded 2 (hour clock) ++ ':' :: Text.padded 2 (minute clock) ++
    ':' :: (if showsMillis then fineSecond clock else Text.padded 2 (second clock))

/-- The number of days that a moment is, counted from the start of such numbers. -/
def dayNumber (millis : Int) : Quantity :=
  let t := millis + Moment.origin
  .ofFraction (t < 0) t.natAbs 86400000

/-- The day of the year, counted from zero. -/
def dayOfYear (year : Int) (midnight : Int) : Int := days midnight - Date.toDays ⟨year, 1, 1⟩

/-- The day of the week, Monday being zero. -/
def weekday (millis : Int) : Int := (days millis + 3) % 7

/-- The Thursday of the same week, which decides to which year the week belongs. -/
def thursday (millis : Int) : Int := millis + (3 - weekday millis) * Moment.millisPerDay

/-- A number of two characters, with a blank in front where it has one digit. -/
def spaced (n : Nat) : List Char :=
  let ds := Nat.toDigits 10 n
  List.replicate (2 - ds.length) ' ' ++ ds

/-- The hour of half a day, from one to twelve. -/
def halfDayHour (clock : Nat) : Nat := if hour clock % 12 = 0 then 12 else hour clock % 12

/-- Seconds from the start of 1970. -/
def secondsText (showsMillis : Bool) (millis : Int) : List Char :=
  if showsMillis then
    (if millis < 0 then ['-'] else []) ++ Nat.toDigits 10 (millis.natAbs / 1000) ++
      '.' :: Text.padded 3 (millis.natAbs % 1000)
  else (toString (millis / 1000)).toList

/-- The part of a moment that a letter stands for. -/
def part? (p : Shown) (letter : Char) : Option (List Char) :=
  let d := p.date
  let t := p.millis
  let clock := p.clock
  let weekYear := (Moment.dateOf (thursday t)).year
  let day := dayOfYear d.year (t - clock)
  match letter with
  | 'd' => some (Text.padded 2 d.day)
  | 'e' => some (spaced d.day)
  | 'f' => some (fineSecond clock)
  | 'F' => some (dateWith (padded 4 d.year) d)
  | 'g' => some (padded 2 (weekYear.tmod 100))
  | 'G' => some (padded 4 weekYear)
  | 'H' => some (Text.padded 2 (hour clock))
  | 'k' => some (spaced (hour clock))
  | 'I' => some (Text.padded 2 (halfDayHour clock))
  | 'l' => some (spaced (halfDayHour clock))
  | 'j' => some (Text.padded 3 (day + 1).toNat)
  | 'J' =>
    (dayNumber t).size.map fun x =>
      let style : Printed.Style := ⟨.general, 16, false, false, false, 'e'⟩
      Printed.body style (Printed.digits style x)
  | 'm' => some (Text.padded 2 d.month)
  | 'M' => some (Text.padded 2 (minute clock))
  | 'p' => some [if 12 ≤ hour clock then 'P' else 'A', 'M']
  | 'P' => some [if 12 ≤ hour clock then 'p' else 'a', 'm']
  | 'R' => some (Text.padded 2 (hour clock) ++ ':' :: Text.padded 2 (minute clock))
  | 's' => some (secondsText p.showsMillis t)
  | 'S' => some (Text.padded 2 (second clock))
  | 'T' => some (timeText false clock)
  | 'u' => some (Nat.toDigits 10 (weekday t + 1).toNat)
  | 'w' => some (Nat.toDigits 10 ((weekday t + 1) % 7).toNat)
  | 'U' => some (Text.padded 2 ((day - (weekday t + 1) % 7 + 7) / 7).toNat)
  | 'V' => some (Text.padded 2 (dayOfYear weekYear (thursday t - clock) / 7 + 1).toNat)
  | 'W' => some (Text.padded 2 ((day - weekday t + 7) / 7).toNat)
  | 'Y' => some (padded 4 d.year)
  | '%' => some ['%']
  | _ => none

/-- The text that a template becomes, if every letter stands for something. -/
def filled? (p : Shown) : List Char → Option (List Char)
  | [] => some []
  | '%' :: [] => none
  | '%' :: letter :: r => (part? p letter).bind fun cs => (filled? p r).map (cs ++ ·)
  | c :: r => (filled? p r).map (c :: ·)

/-! ## Functions -/

/-- A function of the moment that its arguments tell. -/
def ofMoment (name : String) (f : Shown → Cell) : Function := fun a => do
  return ((← Moment.ofCells a name a.cells).map f).getD .null

def text (cs : List Char) : Cell := .text (.ofList cs)

def date : Function := ofMoment "date" fun p => text (dateText p.date)

def time : Function := ofMoment "time" fun p => text (timeText p.showsMillis p.clock)

def dateAndTime : Function :=
  ofMoment "datetime" fun p => text (dateText p.date ++ ' ' :: timeText p.showsMillis p.clock)

def dayCount : Function := ofMoment "julianday" fun p => .real (dayNumber p.millis)

def secondCount : Function := ofMoment "unixepoch" fun p =>
  if p.showsMillis then .real (.ofFraction (p.millis < 0) p.millis.natAbs 1000)
  else .integer (p.millis / 1000)

def format : Function := fun a =>
  match a.cells with
  | [] => .error .undetermined
  | template :: cs =>
    match template.words? with
    | none => .ok .null
    | some s => do
      let p ← Moment.ofCells a "strftime" cs
      return (p.bind fun p => (filled? p (Pattern.visible s)).map text).getD .null

/-- The months from one moment to a later one, as far as they are whole, with the moment that is so many
months behind the first one or before the second one. A day that a month does not have lies in the next
month. -/
def wholeMonths (a b : Shown) (isLater : Bool) : Int × Int :=
  let forward := if isLater then 1 else -1
  let count := ((a.date.year - b.date.year) * 12 + ((a.date.month : Int) - b.date.month)) * forward
  let reached (k : Int) : Int :=
    Moment.midnight a.date.year (a.date.month - forward * k) b.date.day + b.clock
  let fits (k : Int) : Bool := if isLater then reached k ≤ a.millis else a.millis ≤ reached k
  let k := ([0, 1, 2].find? fits).getD 3
  (count - k, reached k)

/-- The time from the second moment to the first, by years, months, days and the clock. -/
def differenceText (a b : Shown) : List Char :=
  let isLater : Bool := b.millis ≤ a.millis
  let (months, reached) := wholeMonths a b isLater
  let rest := (a.millis - reached).natAbs
  (if isLater then '+' else '-') :: padded 4 (months / 12) ++ '-' :: padded 2 (months % 12) ++
    '-' :: Text.padded 2 (days rest).toNat ++ ' ' :: timeText true (rest % 86400000)

def difference : Function := fun a =>
  match a.cells with
  | [c, d] => do
    match ← Moment.ofCells a "timediff" [c] with
    | none => return .null
    | some m =>
      let n ← Moment.ofCells a "timediff" [d]
      return (n.map fun n => text (differenceText m n)).getD .null
  | _ => .error .undetermined

/-- The time that it is now. Its own words may be used anywhere. -/
def current (f : Shown → List Char) : Function := fun a =>
  .ok (((Moment.ofInstant a.around.now).shown?.map fun p => text (f p)).getD .null)

def currentDate : Function := current fun p => dateText p.date

def currentTime : Function := current fun p => timeText false p.clock

def currentTimestamp : Function :=
  current fun p => dateText p.date ++ ' ' :: timeText false p.clock

end Timestamp

end AlertService.Schema
