import AlertService.Schema.Function.Pattern
import AlertService.Time.Calendar

/-!
# Moments

Functions of the time read a moment and change it step by step. A moment is written as a date, a time
of day or both, as a number, or as the time that it is now; it is kept in milliseconds from the start
of 1970. Months and years are added in the calendar, all else by the clock.
-/

namespace AlertService.Schema

/-- A moment in milliseconds, if it is known. One that was given as a number keeps it, and a date and a
time of day that were given are kept as they are, such as the last day of a month with fewer days. The
excess is how many days a date lies behind the end of its month. -/
structure Moment where
  millis : Option Int
  raw : Option Quantity
  excess : Nat
  showsMillis : Bool
  date : Option Date
  time : Option Nat
deriving DecidableEq

/-- A moment as it is shown, by its date and its time of day. -/
structure Moment.Shown where
  date : Date
  clock : Nat
  millis : Int
  showsMillis : Bool
deriving DecidableEq

namespace Moment

def millisPerDay : Int := 86400000

/-- The milliseconds from the start of the count of days that numbers stand for until 1970. -/
def origin : Int := 210866760000000

/-- The first moment that has no date any more, counted from the same start. -/
def horizon : Int := 464269060800000

/-- The years that dates are computed in. -/
def isCounted (year : Int) : Bool := -4713 ≤ year && year ≤ 9999

/-- The milliseconds belong to a date. -/
def isDated (millis : Int) : Bool := 0 ≤ millis + origin && millis + origin < horizon

def ofMillis (millis : Int) : Moment := ⟨some millis, none, 0, false, none, none⟩

def ofInstant (t : Instant) : Moment := ofMillis (t.seconds * 1000 + (t.nanos / 1000000 : Nat))

/-- The date of a moment in milliseconds. -/
def dateOf (millis : Int) : Date := .ofDays (millis / millisPerDay)

/-- The milliseconds since midnight. -/
def clock (millis : Int) : Nat := (millis % millisPerDay).toNat

/-- The start of a date whose month may lie outside of its year. -/
def midnight (year month day : Int) : Int :=
  let first : Date := ⟨year + (month - 1) / 12, ((month - 1) % 12).toNat + 1, 1⟩
  (first.toDays + day - 1) * millisPerDay

/-- How many days the day lies behind the end of its month. -/
def overhang (year month : Int) (day : Nat) : Nat :=
  day - Date.daysInMonth (year + (month - 1) / 12) (((month - 1) % 12).toNat + 1)

/-- The date and the time of day. -/
def shown? (m : Moment) : Option Shown := do
  let t ← m.millis
  let d ← m.date.orElse fun _ => if isDated t then some (dateOf t) else none
  return ⟨d, m.time.getD (clock t), t, m.showsMillis⟩

/-! ## Reading -/

/-- A number of exactly `count` digits up to a bound, and the text after it. -/
def digits? (count most : Nat) (cs : List Char) : Option (Nat × List Char) :=
  let ds := (cs.take count).takeWhile Text.isDigit
  let n := Text.ofDigits (ds.map fun c => c.toNat - 48)
  if ds.length = count ∧ n ≤ most then some (n, cs.drop count) else none

def mark? (mark : Char) : List Char → Option (List Char)
  | c :: r => if c = mark then some r else none
  | [] => none

def afterBlanks (cs : List Char) : List Char := cs.dropWhile Numeral.isBlank

/-- The milliseconds that digits behind a point write, cut off before the next second. -/
def millisOf (ds : List Char) : Nat :=
  let n := Text.ofDigits (ds.map fun c => c.toNat - 48)
  min 999 ((2000 * n + Nat.pow 10 ds.length) / (2 * Nat.pow 10 ds.length))

/-- Seconds behind a colon, with their fraction, in milliseconds. -/
def seconds? (cs : List Char) : Option (Nat × List Char) :=
  match mark? ':' cs with
  | none => some (0, cs)
  | some r => do
    let (s, r) ← digits? 2 59 r
    match r with
    | '.' :: d :: rest =>
      if Text.isDigit d then
        let ds := (d :: rest).takeWhile Text.isDigit
        return (s * 1000 + millisOf ds, (d :: rest).dropWhile Text.isDigit)
      else return (s * 1000, r)
    | r => return (s * 1000, r)

/-- The offset behind a sign, in minutes, and the text after it. -/
def signedOffset? (negative : Bool) (cs : List Char) : Option (Int × List Char) := do
  let (h, r) ← digits? 2 14 cs
  let (m, r) ← digits? 2 59 (← mark? ':' r)
  return (Quantity.signed negative (h * 60 + m), r)

/-- The offset that fills the rest of a text, in minutes. -/
def offset? (cs : List Char) : Option Int := do
  let (minutes, r) ←
    match afterBlanks cs with
    | [] => some (0, [])
    | 'Z' :: r => some (0, r)
    | 'z' :: r => some (0, r)
    | '-' :: r => signedOffset? true r
    | '+' :: r => signedOffset? false r
    | _ => none
  if (afterBlanks r).isEmpty then some minutes else none

/-- The time of day that fills a text, in milliseconds, and its offset. -/
def time? (cs : List Char) : Option (Nat × Int) := do
  let (h, r) ← digits? 2 24 cs
  let (m, r) ← digits? 2 59 (← mark? ':' r)
  let (s, r) ← seconds? r
  let minutes ← offset? r
  return (h * 3600000 + m * 60000 + s, minutes * 60000)

/-- The date at the head of a text. -/
def date? (cs : List Char) : Option (Int × Nat × Nat × List Char) := do
  let (negative, cs) := match cs with
    | '-' :: r => (true, r)
    | cs => (false, cs)
  let (y, r) ← digits? 4 9999 cs
  let (m, r) ← digits? 2 12 (← mark? '-' r)
  let (d, r) ← digits? 2 31 (← mark? '-' r)
  if m = 0 ∨ d = 0 then none else some (Quantity.signed negative y, m, d, r)

/-- The moment of a time of day on a date. What is written with an offset is not kept as it is. -/
def onDate (y : Int) (m d : Nat) (isDateGiven : Bool) (time : Nat) (offset : Int) : Moment where
  millis := if isCounted y then some (midnight y m d + time - offset) else none
  raw := none
  excess := overhang y m d
  showsMillis := false
  date := if isDateGiven && offset = 0 then some ⟨y, m, d⟩ else none
  time := if offset = 0 then some time else none

/-- The moment that a date and a time fill. -/
def dateAndTime? (cs : List Char) : Option Moment := do
  let (y, m, d, r) ← date? cs
  let rest := r.dropWhile fun c => Numeral.isBlank c || c = 'T'
  let (time, offset) ← if rest.isEmpty then some (0, 0) else time? rest
  return onDate y m d true time offset

/-- The number of milliseconds that is nearest to `x` times as many, away from zero for halves. -/
def scaled? (millis : Nat) (x : Quantity) : Option Int :=
  x.fraction?.map fun (n, d) =>
    let m := n * (2 * millis) + Quantity.signed (n < 0) d
    m.tdiv (2 * d)

/-- The moment that a number of days stands for. -/
def ofNumber (x : Quantity) : Moment :=
  let millis : Option Int :=
    if x.isBelow .zero then none
    else ((scaled? 86400000 x).filter (· < horizon)).map (· - origin)
  ⟨millis, some x, 0, false, none, none⟩

/-! ## Changing -/

def afterWords? (words : String) (cs : List Char) : Option (List Char) :=
  if (words.toList.isPrefixOf (cs.map Char.toLower)) then some (cs.drop words.length) else none

/-- Moves a moment by the clock. -/
def later (m : Moment) (millis : Int) : Option Moment :=
  m.millis.map fun t =>
    { m with millis := some (t + millis), raw := none, date := none, time := none }

/-- Adds months, and keeps the time of day. -/
def addMonths (m : Moment) (months : Int) : Option Moment := do
  let p ← m.shown?
  let month := p.date.month + months
  if isCounted (p.date.year + (month - 1) / 12) then
    some
      { ofMillis (midnight p.date.year month p.date.day + p.clock) with
        excess := overhang p.date.year month p.date.day, showsMillis := m.showsMillis }
  else none

/-- The units that numbers are counted in, with their milliseconds and the bound of such numbers. -/
def units : List (String × Nat × Nat) :=
  [("second", 1000, 464270000000000), ("minute", 60000, 7737800000000),
   ("hour", 3600000, 128970000000), ("day", 86400000, 5373485), ("month", 2592000000, 176546),
   ("year", 31536000000, 14713)]

/-- Adds a number of some unit. Of months and years only what is left of a whole number counts by the
clock. -/
def addUnits (m : Moment) (x : Quantity) (unit : String) : Option Moment := do
  let (millis, bound) ← units.findSome? fun (name, millis, bound) =>
    if name = unit then some (millis, bound) else none
  if !(x.isBelow (.ofInt bound)) || !((Quantity.ofInt (-(bound : Int))).isBelow x) then none
  else
    let whole := x.truncated Cell.leastInteger Cell.greatestInteger
    let rest := (x.subtract (.ofInt whole)).getD .zero
    if unit = "month" then ((← m.addMonths whole).later (← scaled? millis rest))
    else if unit = "year" then ((← m.addMonths (12 * whole)).later (← scaled? millis rest))
    else ({ m with excess := 0 }.later (← scaled? millis x))

/-- Adds a time of day with a sign. -/
def addTime (m : Moment) (negative : Bool) (cs : List Char) : Option Moment := do
  let (time, offset) ← time? cs
  let time := (time - offset) % millisPerDay
  m.later (if negative then -time else time)

/-- Adds years, months and days with a sign, and a time of day where one follows. -/
def addDate (m : Moment) (negative : Bool) (y mo d : Nat) (rest : List Char) : Option Moment := do
  if 12 ≤ mo ∨ 31 ≤ d then none
  else
    let sign (n : Int) : Int := if negative then -n else n
    let moved ← m.addMonths (sign (12 * y + mo))
    let moved ← moved.later (sign (d * millisPerDay))
    match rest with
    | [] => some moved
    | c :: r => if Numeral.isBlank c then moved.addTime negative r else none

/-- Years, months and days with a sign. -/
def span? (cs : List Char) : Option (Nat × Nat × Nat × List Char) := do
  let years (count : Nat) := (digits? count 14712 cs).bind fun (y, r) => (mark? '-' r).map (y, ·)
  let (y, r) ← (years 4).orElse fun _ => years 5
  let (m, r) ← digits? 2 99 r
  let (d, r) ← digits? 2 99 (← mark? '-' r)
  return (y, m, d, r)

/-- Adds what a text with a sign or a digit at its head says. -/
def add (m : Moment) (cs : List Char) : Option Moment := do
  let negative := cs.head? = some '-'
  let isSigned := negative || cs.head? = some '+'
  let body := if isSigned then cs.tail else cs
  match (if isSigned then span? body else none) with
  | some (y, mo, d, rest) => m.addDate negative y mo d rest
  | none =>
    if (body.takeWhile Text.isDigit).length = 2 && (body.drop 2).head? = some ':' then
      m.addTime negative body
    else
      let word := cs.takeWhile fun c => !Numeral.isBlank c
      let n ← Numeral.ofText? (.ofList word)
      let unit := (afterBlanks (cs.drop word.length)).map Char.toLower
      let unit := if unit.getLast? = some 's' then unit.dropLast else unit
      m.addUnits n.quantity (.ofList unit)

/-- Moves to the next day of the week, unless it is that day. -/
def toWeekday (m : Moment) (cs : List Char) : Option Moment := do
  let n ← Numeral.ofText? (.ofList cs)
  let (day, d) ← n.quantity.fraction?
  let p ← m.shown?
  if day < 0 ∨ 7 * d ≤ day ∨ day % d ≠ 0 then none
  else
    let today := (p.millis / millisPerDay + 4) % 7
    m.later (((day / d - today) % 7) * millisPerDay)

/-- Goes back to the start of a month, a year or a day. -/
def toStart (m : Moment) (cs : List Char) : Option Moment :=
  m.shown?.bind fun p =>
    let start (month day : Nat) : Option Moment :=
      some
        { m with
          millis := some (midnight p.date.year month day), raw := none
          date := some ⟨p.date.year, month, day⟩, time := some 0 }
    match String.ofList (cs.map Char.toLower) with
    | "month" => start p.date.month 1
    | "year" => start 1 1
    | "day" => start p.date.month p.date.day
    | _ => none

/-- A number that stands for seconds from 1970 on. -/
def asSeconds (m : Moment) : Option Moment :=
  m.raw.bind fun x =>
    ((scaled? 1000 x).filter isDated).map fun t =>
      { ofMillis t with showsMillis := m.showsMillis }

/-- Changes a moment as a text says. Some changes must be the first, behind a number; some depend on
where the program runs, which here follows universal time. -/
def change (a : Arguments) (function : String) (isFirst : Bool) (m : Moment) (s : String) :
    Outcome (Option Moment) :=
  let cs := Pattern.visible s
  let local? : Outcome (Option Moment) :=
    match a.strict with
    | some place => .error (.fault (.changing function place))
    | none => .ok (m.later 0)
  match String.ofList (cs.map Char.toLower) with
  | "auto" =>
    .ok (if !isFirst then none else if m.raw.isNone || m.millis.isSome then some { m with raw := none }
      else m.asSeconds)
  | "ceiling" => .ok ((m.later 0).map fun m => { m with excess := 0 })
  | "floor" => .ok (m.later (-(m.excess * millisPerDay)))
  | "julianday" =>
    .ok (if isFirst && m.raw.isSome && m.millis.isSome then some { m with raw := none } else none)
  | "unixepoch" => .ok (if isFirst then m.asSeconds else none)
  | "localtime" => local?
  | "utc" => local?
  | "subsec" | "subsecond" => .ok (some { m with showsMillis := true })
  | _ =>
    .ok (match afterWords? "weekday " cs, afterWords? "start of " cs with
      | some r, _ => m.toWeekday r
      | _, some r => m.toStart r
      | none, none =>
        if cs.head?.any fun c => c = '+' || c = '-' || Text.isDigit c then m.add cs else none)

/-- Changes a moment one step after the other. -/
def changes (a : Arguments) (function : String) : Bool → Moment → List Cell → Outcome (Option Moment)
  | _, m, [] => .ok (some m)
  | isFirst, m, c :: cs =>
    match c.words? with
    | none => .ok none
    | some s =>
      match change a function isFirst m s with
      | .ok (some m) => changes a function false m cs
      | .ok none => .ok none
      | .error e => .error e

/-- The moment that it is now, where that may be asked. -/
def now (a : Arguments) (function : String) : Outcome (Option Moment) :=
  match a.strict with
  | some place => .error (.fault (.changing function place))
  | none => .ok (some (ofInstant a.around.now))

/-- The moment that a text writes. -/
def ofText (a : Arguments) (function : String) (s : String) : Outcome (Option Moment) :=
  let cs := Pattern.visible s
  match dateAndTime? cs, time? cs with
  | some m, _ => .ok (some m)
  | none, some (time, offset) => .ok (some (onDate 2000 1 1 false time offset))
  | none, none =>
    let word := s.toLower
    if word = "now" then now a function
    else
      match Numeral.ofText? (.ofList cs) with
      | some n => .ok (some (ofNumber n.quantity))
      | none =>
        if word = "subsec" ∨ word = "subsecond" then
          (now a function).map (Option.map fun m => { m with showsMillis := true })
        else .ok none

/-- A moment that is not changed is shown with a day that its month has. -/
def unchanged (m : Moment) : Moment :=
  if m.date.any fun d => 28 < d.day then { m with date := none } else m

/-- The moment that arguments tell, if they tell one. -/
def ofCells (a : Arguments) (function : String) : List Cell → Outcome (Option Shown)
  | [] => (now a function).map (·.bind shown?)
  | c :: cs => do
    let start ←
      match c with
      | .null => pure none
      | .integer i => pure (some (ofNumber (.ofInt i)))
      | .real x => pure (some (ofNumber x))
      | c =>
        match c.words? with
        | some s => ofText a function s
        | none => pure none
    match start with
    | some m =>
      let changed ← changes a function true m cs
      return ((changed.map fun m => if cs.isEmpty then m.unchanged else m).bind shown?).filter
        fun p => isDated p.millis
    | none => return none

end Moment

end AlertService.Schema
