import Polystore.Binary64.Basic
import Polystore.Text.Whole

/-!
# The fewest digits that read back

Between two neighbouring numbers of the format lies a midpoint; every decimal strictly between the
midpoints around a number reads back as that number, and a midpoint itself does so when the
number's magnitude is even. Of the decimals with one digit, then two, and so on, the first to lie
in this interval is taken, and of two the nearer. How an exact tie is settled is left to the caller.

All comparisons are made on whole numbers of half units.
-/

namespace Polystore.Binary64

/-- A positive decimal `0.d₁d₂… * 10 ^ point`. -/
structure Decimal where
  /-- The digits behind the point, the first of them not zero. -/
  digits : List Char
  /-- Where the decimal point stands, counted from in front of the first digit. -/
  point : Int

/-- What to do when two shortest decimals are equally near. -/
inductive Tie where
  /-- Take the one whose last digit is even. -/
  | even
  /-- Take the larger one. -/
  | up
deriving DecidableEq

/-- How many places the decimal point stands in front of the first digit other than zero, for a
number of fewer units than make one. -/
def leadingZeros : Nat → Nat → Nat
  | 0, _ => 0
  | fuel + 1, u => if unitsPerOne ≤ 10 * u then 0 else leadingZeros fuel (10 * u) + 1

/-- The point of a positive number of units: the number is at least `10 ^ (point - 1)` and less
than `10 ^ point`. -/
def decimalPoint (u : Nat) : Int :=
  if unitsPerOne ≤ u then (Text.natDigits (u / unitsPerOne)).length
  else -(leadingZeros 330 u : Int)

/-- Of the two points of the grid `10 ^ (point - count)` around a magnitude, the nearer one that
reads back as the magnitude, as a multiple of the grid's step. -/
def onGrid (tie : Tie) (magnitude : Nat) (point : Int) (count : Nat) : Option Nat :=
  let value := 2 * unitsOf magnitude
  let low := unitsOf (magnitude - 1) + unitsOf magnitude
  let high := unitsOf magnitude + unitsOf (magnitude + 1)
  let scale := 10 ^ ((count : Int) - point).toNat
  let step := 2 * unitsPerOne * 10 ^ (point - (count : Int)).toNat
  let below := value * scale / step
  let inside := fun (c : Nat) =>
    if magnitude % 2 == 0 then low * scale ≤ c * step && c * step ≤ high * scale
    else low * scale < c * step && c * step < high * scale
  let down := value * scale - below * step
  let up := step - down
  match inside below, inside (below + 1) with
  | true, true =>
    if down < up then some below
    else if up < down then some (below + 1)
    else match tie with
      | .up => some (below + 1)
      | .even => if below % 2 == 0 then some below else some (below + 1)
  | true, false => some below
  | false, true => some (below + 1)
  | false, false => none

/-- The first grid, of `fuel` grids from `count` digits on, with a point that reads back. -/
def firstGrid (tie : Tie) (magnitude : Nat) (point : Int) : Nat → Nat → Nat × Nat
  | 0, count => (count, 2 * unitsOf magnitude * 10 ^ ((count : Int) - point).toNat /
      (2 * unitsPerOne * 10 ^ (point - (count : Int)).toNat))
  | fuel + 1, count =>
    match onGrid tie magnitude point count with
    | some c => (count, c)
    | none => firstGrid tie magnitude point fuel (count + 1)

/-- The shortest decimal that reads back as a positive finite magnitude. Seventeen digits always
suffice. -/
def shortest (tie : Tie) (magnitude : Nat) : Decimal :=
  let point := decimalPoint (unitsOf magnitude)
  let (count, c) := firstGrid tie magnitude point 17 1
  let digits := Text.natDigits c
  { digits := (digits.reverse.dropWhile (· == '0')).reverse
    point := point + (digits.length : Int) - (count : Int) }

end Polystore.Binary64
