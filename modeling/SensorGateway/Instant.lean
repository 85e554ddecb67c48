import SensorGateway.Calendar

/-!
# Points in time

An instant is a second counted from 1970-01-01T00:00:00Z and a number of nanoseconds.  The
nanoseconds of a leap second count on from 1000000000 within the last second of a minute.
-/

namespace SensorGateway

/-- A point in time. -/
structure Instant where
  /-- Seconds since the beginning of 1970. -/
  seconds : Int
  /-- Nanoseconds within the second, above 999999999 in a leap second. -/
  nanoseconds : Nat
  deriving DecidableEq, Repr, Inhabited

namespace Instant

/-- The years that can be told. -/
def firstYear : Int := -262143

/-- The years that can be told. -/
def lastYear : Int := 262142

/-- The day of an instant. -/
def date (t : Instant) : Date := Date.ofDays (t.seconds / 86400)

/-- The second of the day of an instant. -/
def secondOfDay (t : Instant) : Nat := (t.seconds % 86400).toNat

/-- The instant with the given parts, if there is one. -/
def of? (seconds : Int) (nanoseconds : Nat) : Option Instant :=
  let t : Instant := { seconds, nanoseconds }
  let leapAllowed := t.secondOfDay % 60 == 59
  if firstYear ≤ t.date.year && t.date.year ≤ lastYear
      && (nanoseconds < 1000000000 || (leapAllowed && nanoseconds < 2000000000)) then
    some t
  else none

/-- An instant as date and time to the millisecond, the rest cut off; a leap second is second 60. -/
def text (t : Instant) : String :=
  let s := t.secondOfDay
  let second := s % 60 + t.nanoseconds / 1000000000
  let milliseconds := t.nanoseconds % 1000000000 / 1000000
  t.date.text ++ "T" ++ Date.padded 2 (s / 3600) ++ ":" ++ Date.padded 2 (s / 60 % 60) ++ ":"
    ++ Date.padded 2 second ++ "." ++ Date.padded 3 milliseconds ++ "Z"

end Instant

end SensorGateway
