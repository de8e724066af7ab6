import AlertService.Text.Digits
import AlertService.Time.Calendar

/-!
# Instants

A point in time, in seconds from the start of 1970 and nanoseconds. A leap second is the second
before it with more than a thousand million nanoseconds.
-/

namespace AlertService

structure Instant where
  seconds : Int
  nanos : Nat
deriving DecidableEq

namespace Instant

def secondsPerDay : Int := 86400

/-- The instant a whole number of seconds from the start of 1970. -/
def ofSeconds (seconds : Int) : Instant := ⟨seconds, 0⟩

/-- The date that an instant falls on. -/
def date (t : Instant) : Date := .ofDays (t.seconds / secondsPerDay)

/-- The instant `seconds` later, if that is still in the years that dates are kept in. -/
def add? (t : Instant) (seconds : Nat) : Option Instant :=
  let later : Instant := ⟨t.seconds + seconds, t.nanos⟩
  if Date.inRange later.date.year then some later else none

/-- The year in four digits; a sign and at least four digits outside of 0 to 9999. -/
def yearChars (y : Int) : List Char :=
  if 0 ≤ y ∧ y ≤ 9999 then Text.padded 4 y.natAbs
  else (if y < 0 then '-' else '+') :: Text.padded 4 y.natAbs

/-- The nanoseconds in three, six or nine digits after a point; nothing if there are none. -/
def fractionChars (nanos : Nat) : List Char :=
  if nanos = 0 then []
  else if nanos % 1000000 = 0 then '.' :: Text.padded 3 (nanos / 1000000)
  else if nanos % 1000 = 0 then '.' :: Text.padded 6 (nanos / 1000)
  else '.' :: Text.padded 9 nanos

/-- Universal time, as in `2001-02-03T04:05:06.789Z`. -/
def text (t : Instant) : String :=
  let d := t.date
  let s := (t.seconds % secondsPerDay).toNat
  let leap := t.nanos / 1000000000
  String.ofList (yearChars d.year ++ '-' :: Text.padded 2 d.month ++ '-' :: Text.padded 2 d.day ++
    'T' :: Text.padded 2 (s / 3600) ++ ':' :: Text.padded 2 (s / 60 % 60) ++
    ':' :: Text.padded 2 (s % 60 + leap) ++ fractionChars (t.nanos % 1000000000) ++ ['Z'])

end Instant

end AlertService
