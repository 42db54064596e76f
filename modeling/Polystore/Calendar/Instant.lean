import Polystore.Calendar.Date
import Polystore.Text.Whole

/-!
# Instants

An instant is a point of Universal Time with nanoseconds. During a leap second the nanoseconds run
on from one to two thousand millions, so such an instant belongs to the second before it and sorts
behind every other instant of that second.
-/

namespace Polystore.Calendar

/-- How many nanoseconds a second has. -/
def nanosPerSecond : Nat := 1000000000

/-- A point of Universal Time. -/
structure Instant where
  /-- Seconds since the start of 1970, leap seconds not counted. -/
  seconds : Int
  /-- Nanoseconds within the second, beyond the thousand million during a leap second. -/
  nanos : Nat
  nanos_lt : nanos < 2 * nanosPerSecond := by decide
  /-- Only the last second of a minute can be followed by a leap second. -/
  leap_at_minute_end : nanosPerSecond ≤ nanos → seconds % 60 = 59 := by decide
deriving DecidableEq

namespace Instant

/-- The start of a day. -/
def ofDate (d : Date) : Instant :=
  { seconds := 86400 * d.toDays
    nanos := 0
    leap_at_minute_end := fun h => absurd h (by decide) }

/-- The day in which an instant lies. -/
def date (t : Instant) : Date := Date.ofDays (t.seconds / 86400)

/-- The second of the day in which an instant lies. -/
def secondOfDay (t : Instant) : Nat := (t.seconds % 86400).toNat

/-- Milliseconds since the start of 1970, rounded down. -/
def millis (t : Instant) : Int := 1000 * t.seconds + (t.nanos / 1000000 : Nat)

/-- The instant a number of milliseconds after the start of 1970, if the calendar reaches it. -/
def ofMillis? (ms : Int) : Option Instant :=
  let nanos := (ms % 1000).toNat * 1000000
  have nanos_lt : nanos < nanosPerSecond := by
    have : (ms % 1000).toNat < 1000 := by omega
    simp only [nanos, nanosPerSecond]; omega
  let t : Instant :=
    { seconds := ms / 1000
      nanos := nanos
      nanos_lt := by omega
      leap_at_minute_end := fun h => absurd h (by omega) }
  if t.date.isInRange then some t else none

/-- Instants sort by seconds and then by nanoseconds. -/
def compare (a b : Instant) : Ordering :=
  match Ord.compare a.seconds b.seconds with
  | .eq => Ord.compare a.nanos b.nanos
  | o => o

/-! ## Text -/

/-- How many digits of the second are written. -/
inductive Precision where
  /-- As few as keep the nanoseconds, in groups of three. -/
  | shortest
  /-- Three digits always. -/
  | millis
deriving DecidableEq

/-- How the zone of Universal Time is written. -/
inductive Zone where
  /-- As the difference `+00:00`. -/
  | offset
  /-- As the letter `Z`. -/
  | letter
deriving DecidableEq

/-- The year in four digits, or with a sign when four digits do not hold it. -/
def yearChars (year : Int) : List Char :=
  if 0 ≤ year && year ≤ 9999 then Text.paddedDigits 4 year.toNat
  else (if year < 0 then '-' else '+') :: Text.paddedDigits 4 year.natAbs

/-- The digits behind the seconds, with their point. -/
def fractionChars (precision : Precision) (nanos : Nat) : List Char :=
  match precision with
  | .millis => '.' :: Text.paddedDigits 3 (nanos / 1000000)
  | .shortest =>
    if nanos == 0 then []
    else if nanos % 1000000 == 0 then '.' :: Text.paddedDigits 3 (nanos / 1000000)
    else if nanos % 1000 == 0 then '.' :: Text.paddedDigits 6 (nanos / 1000)
    else '.' :: Text.paddedDigits 9 nanos

/-- The time zone mark. -/
def zoneChars : Zone → List Char
  | .offset => ['+', '0', '0', ':', '0', '0']
  | .letter => ['Z']

/-- Date, `T`, time of day and zone. A leap second is written as second sixty. -/
def chars (precision : Precision) (zone : Zone) (t : Instant) : List Char :=
  let d := t.date
  let s := t.secondOfDay
  let (second, nanos) :=
    if nanosPerSecond ≤ t.nanos then (s % 60 + 1, t.nanos - nanosPerSecond) else (s % 60, t.nanos)
  yearChars d.year ++ '-' :: Text.paddedDigits 2 d.month ++ '-' :: Text.paddedDigits 2 d.day ++
    'T' :: Text.paddedDigits 2 (s / 3600) ++ ':' :: Text.paddedDigits 2 (s / 60 % 60) ++
    ':' :: Text.paddedDigits 2 second ++ fractionChars precision nanos ++ zoneChars zone

/-- The text of an instant with the zone as a difference. -/
def text (t : Instant) : String := String.ofList (t.chars .shortest .offset)

/-- The text of an instant in whole milliseconds with the zone as a letter. -/
def millisText (t : Instant) : String := String.ofList (t.chars .millis .letter)

end Instant

end Polystore.Calendar
