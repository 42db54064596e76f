import Polystore.Calendar.Instant
import Polystore.Text.Basic

/-!
# Reading instants

An instant is written in one of two manners. The strict one has a zone and fixed widths: four
digits of the year, two of everything else, `T`, `t` or one space in front of the time. The lenient
one has no zone and means Universal Time: numbers may have fewer digits and blanks in front, the
year may have a sign and then any number of digits, and the time, its seconds and their fraction
may be missing. Seconds run to sixty; the sixtieth is a leap second.

Every reader takes the characters it can use from the front and returns the rest.
-/

namespace Polystore.Calendar

open Polystore.Text (trimStart natOfDigits)

/-- Exactly `width` digits. -/
def takeDigits (width : Nat) (cs : List Char) : Option (Nat × List Char) :=
  let ds := cs.take width
  if ds.length == width && ds.all Char.isDigit then some (natOfDigits 0 ds, cs.drop width)
  else none

/-- One given character. -/
def takeChar (c : Char) : List Char → Option (List Char)
  | d :: rest => if d == c then some rest else none
  | [] => none

/-- The nanoseconds of the digits behind a point: nine digits count, and further ones are passed
over. -/
def takeNanos (cs : List Char) : Option (Nat × List Char) :=
  let ds := cs.takeWhile Char.isDigit
  if ds.isEmpty then none
  else
    let counted := ds.take 9
    some (natOfDigits 0 counted * 10 ^ (9 - counted.length), cs.dropWhile Char.isDigit)

/-- A point and the digits behind it, or nothing. -/
def takeFraction : List Char → Option (Nat × List Char)
  | '.' :: rest => takeNanos rest
  | cs => some (0, cs)

/-- The time of day of clock fields: hours to 23, minutes to 59 and seconds to 60, the sixtieth
being a leap second. The result is the second of the day and the nanoseconds. -/
def timeOfDay (hour minute second nanos : Nat) : Option (Nat × Nat) :=
  if 23 < hour || 59 < minute || 60 < second then none
  else if second == 60 then some (3600 * hour + 60 * minute + 59, nanosPerSecond + nanos)
  else some (3600 * hour + 60 * minute + second, nanos)

/-- The instant at a time of day, given in Universal Time plus `offset` minutes. -/
def instantAt (d : Date) (time : Nat × Nat) (offset : Int) : Option Instant :=
  if d.isValid && d.isInRange then
    let seconds := 86400 * d.toDays + (time.1 : Int) - 60 * offset
    if h : time.2 < 2 * nanosPerSecond ∧ (nanosPerSecond ≤ time.2 → seconds % 60 = 59) then
      some ⟨seconds, time.2, h.1, h.2⟩
    else none
  else none

/-! ## The strict manner -/

/-- The difference from Universal Time in minutes: `Z` or a sign, hours, a colon and minutes. -/
def takeOffset : List Char → Option (Int × List Char)
  | [] => none
  | c :: rest =>
    if c == 'Z' || c == 'z' then some (0, rest)
    else if c == '+' || c == '-' || c == '\u2212' then do
      let (hours, rest) ← takeDigits 2 rest
      let rest ← takeChar ':' rest
      let (minutes, rest) ← takeDigits 2 rest
      if 59 < minutes || 23 < hours then none
      else
        let total : Int := 60 * hours + minutes
        some (if c == '+' then total else -total, rest)
    else none

/-- An instant in the strict manner, with nothing behind it. -/
def readStrict (cs : List Char) : Option Instant := do
  let (year, cs) ← takeDigits 4 cs
  let cs ← takeChar '-' cs
  let (month, cs) ← takeDigits 2 cs
  let cs ← takeChar '-' cs
  let (day, cs) ← takeDigits 2 cs
  let cs ← (takeChar 'T' cs).or ((takeChar 't' cs).or (takeChar ' ' cs))
  let (hour, cs) ← takeDigits 2 cs
  let cs ← takeChar ':' cs
  let (minute, cs) ← takeDigits 2 cs
  let cs ← takeChar ':' cs
  let (second, cs) ← takeDigits 2 cs
  let (nanos, cs) ← takeFraction cs
  let (offset, cs) ← takeOffset cs
  let time ← timeOfDay hour minute second nanos
  if cs.isEmpty then instantAt ⟨year, month, day⟩ time offset else none

/-! ## The lenient manner -/

/-- Blanks and then one to `width` digits. -/
def takeNumber (width : Nat) (cs : List Char) : Option (Nat × List Char) :=
  let cs := trimStart cs
  let ds := (cs.take width).takeWhile Char.isDigit
  if ds.isEmpty then none else some (natOfDigits 0 ds, cs.drop ds.length)

/-- Blanks and then a year: up to four digits, or any number of them behind a sign. -/
def takeYear (cs : List Char) : Option (Int × List Char) :=
  let signed := fun (sign : Int) (rest : List Char) =>
    let ds := rest.takeWhile Char.isDigit
    if ds.isEmpty then none
    else some (sign * (natOfDigits 0 ds : Int), rest.dropWhile Char.isDigit)
  match trimStart cs with
  | '-' :: rest => signed (-1) rest
  | '+' :: rest => signed 1 rest
  | cs => (takeNumber 4 cs).map fun (n, rest) => ((n : Int), rest)

/-- Year, month and day with hyphens between them. -/
def takeDate (cs : List Char) : Option (Date × List Char) := do
  let (year, cs) ← takeYear cs
  let cs ← takeChar '-' cs
  let (month, cs) ← takeNumber 2 cs
  let cs ← takeChar '-' cs
  let (day, cs) ← takeNumber 2 cs
  some (⟨year, month, day⟩, cs)

/-- Hours and minutes, and seconds with an optional fraction when `withSeconds` is set. -/
def takeClock (withSeconds : Bool) (cs : List Char) : Option ((Nat × Nat) × List Char) := do
  let (hour, cs) ← takeNumber 2 cs
  let cs ← takeChar ':' cs
  let (minute, cs) ← takeNumber 2 cs
  if withSeconds then
    let cs ← takeChar ':' cs
    let (second, cs) ← takeNumber 2 cs
    let (nanos, cs) ← takeFraction cs
    (timeOfDay hour minute second nanos).map (·, cs)
  else
    (timeOfDay hour minute 0 0).map (·, cs)

/-- A date and a time in the lenient manner, with the given reader for what stands between them and
nothing behind. -/
def readLenient (between : List Char → Option (List Char)) (withSeconds : Bool)
    (cs : List Char) : Option Instant := do
  let (d, cs) ← takeDate cs
  let cs ← between cs
  let (time, cs) ← takeClock withSeconds cs
  if cs.isEmpty then instantAt d time 0 else none

/-- A date alone, which means its start. -/
def readDate (cs : List Char) : Option Instant := do
  let (d, cs) ← takeDate cs
  if cs.isEmpty then instantAt d (0, 0) 0 else none

/-- The instant that a text spells, blanks around it aside: the strict manner is tried first, then
the lenient ones with `T` and with blanks between date and time, then the date alone. -/
def Instant.read? (cs : List Char) : Option Instant :=
  let cs := Text.trim cs
  (readStrict cs).or <|
    (readLenient (takeChar 'T') true cs).or <|
    (readLenient (takeChar 'T') false cs).or <|
    (readLenient (fun rest => some (trimStart rest)) true cs).or <|
    readDate cs

/-- The instant that a text spells. -/
def Instant.ofText? (s : String) : Option Instant := Instant.read? s.toList

end Polystore.Calendar
