/-!
# Days of the calendar

Days are counted from 1 January 1970 in the Gregorian calendar, extended without end to both sides.
The count works on years that begin in March, so that the day added in a leap year is the last one:
four hundred such years are 146097 days, and a month of the year starts `(153 * m + 2) / 5` days
after the first of March.
-/

namespace Polystore.Calendar

/-- A day by year, month and day of the month. -/
structure Date where
  /-- The year; year 0 is the one before year 1. -/
  year : Int
  /-- The month, from 1. -/
  month : Nat
  /-- The day of the month, from 1. -/
  day : Nat
deriving DecidableEq

/-- Whether a year has a 29 February. -/
def isLeapYear (year : Int) : Bool :=
  year % 4 == 0 && (year % 100 != 0 || year % 400 == 0)

/-- How many days a month has; no month beyond the twelve has any. -/
def monthLength (year : Int) (month : Nat) : Nat :=
  if month == 2 then (if isLeapYear year then 29 else 28)
  else if month == 4 || month == 6 || month == 9 || month == 11 then 30
  else if 1 ≤ month && month ≤ 12 then 31
  else 0

/-- Whether the calendar has this day. -/
def Date.isValid (d : Date) : Bool :=
  1 ≤ d.month && d.month ≤ 12 && 1 ≤ d.day && d.day ≤ monthLength d.year d.month

/-- How many days lie between 1 January 1970 and a date. -/
def Date.toDays (d : Date) : Int :=
  let year := if d.month ≤ 2 then d.year - 1 else d.year
  let era := year / 400
  let yearOfEra := year % 400
  let month : Int := (d.month + 9) % 12
  let dayOfYear := (153 * month + 2) / 5 + d.day - 1
  let dayOfEra := 365 * yearOfEra + yearOfEra / 4 - yearOfEra / 100 + dayOfYear
  146097 * era + dayOfEra - 719468

/-- The date that lies a number of days after 1 January 1970. -/
def Date.ofDays (days : Int) : Date :=
  let shifted := days + 719468
  let era := shifted / 146097
  let dayOfEra := shifted % 146097
  let yearOfEra :=
    (dayOfEra - dayOfEra / 1460 + dayOfEra / 36524 - dayOfEra / 146096) / 365
  let dayOfYear := dayOfEra - (365 * yearOfEra + yearOfEra / 4 - yearOfEra / 100)
  let month := (5 * dayOfYear + 2) / 153
  let day := dayOfYear - (153 * month + 2) / 5 + 1
  { year := yearOfEra + 400 * era + (if 10 ≤ month then 1 else 0)
    month := (if month < 10 then month + 3 else month - 9).toNat
    day := day.toNat }

/-- The first and the last year that an instant can lie in. -/
def yearRange : Int × Int := (-262143, 262142)

/-- Whether instants reach to the year of a date. -/
def Date.isInRange (d : Date) : Bool := yearRange.1 ≤ d.year && d.year ≤ yearRange.2

example : (Date.mk 1970 1 1).toDays = 0 := by decide
example : (Date.mk 2000 3 1).toDays = 11017 := by decide
example : Date.ofDays 11016 = ⟨2000, 2, 29⟩ := by decide
example : Date.ofDays (-719529) = ⟨-1, 12, 31⟩ := by decide

end Polystore.Calendar
