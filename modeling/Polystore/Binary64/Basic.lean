/-!
# Binary floating-point numbers of 64 bits

A number is a sign and a magnitude below `2 ^ 63`. The magnitude holds eleven bits of exponent above
fifty-two bits of fraction, so that larger magnitudes are larger numbers; above the magnitude of
infinity lie the values that are not numbers.

Every finite magnitude stands for a whole number of *units*, where a unit is `2 ^ -1074`, the least
positive number of the format. Arithmetic is exact on units and rounds once, to the nearest
magnitude, with ties to the even one (`Polystore.Binary64.round`).
-/

namespace Polystore

-- powers of natural numbers are those of the language, whatever is imported beside them
attribute [instance (high), default_instance high+1] instPowNat

/-- A floating-point number: its sign and the sixty-three bits below the sign. -/
structure Binary64 where
  /-- Whether the sign bit is set. -/
  negative : Bool
  /-- The bits of exponent and fraction, read as one number. -/
  magnitude : Nat
  magnitude_lt : magnitude < 2 ^ 63 := by decide
deriving DecidableEq

namespace Binary64

/-- The magnitude of infinity: all bits of the exponent, none of the fraction. -/
def infiniteMagnitude : Nat := 0x7ff0000000000000

/-- Zero with a clear sign. -/
def zero : Binary64 := ⟨false, 0, by decide⟩

/-- Infinity of the given sign. -/
def infinite (negative : Bool) : Binary64 := ⟨negative, infiniteMagnitude, by decide⟩

/-- A value that is not a number. -/
def nan : Binary64 := ⟨false, 0x7ff8000000000000, by decide⟩

instance : Inhabited Binary64 := ⟨zero⟩

/-- Whether the value is not a number. -/
def isNaN (x : Binary64) : Bool := infiniteMagnitude < x.magnitude

/-- Whether the value is a number other than the infinities. -/
def isFinite (x : Binary64) : Bool := x.magnitude < infiniteMagnitude

/-- The number of the opposite sign. -/
def neg (x : Binary64) : Binary64 := { x with negative := !x.negative }

/-- Zero of either sign. -/
def isZero (x : Binary64) : Bool := x.magnitude == 0

/-- The unit count of a magnitude. The exponent counts doublings; below the first doubling the
magnitude is the count itself, and above it the fraction has a leading one in front. -/
def unitsOf (magnitude : Nat) : Nat :=
  let exponent := magnitude / 2 ^ 52
  if exponent = 0 then magnitude
  else (2 ^ 52 + magnitude % 2 ^ 52) * 2 ^ (exponent - 1)

/-- How many units the absolute value of a finite number has. -/
def units (x : Binary64) : Nat := unitsOf x.magnitude

/-- How many units make one. -/
def unitsPerOne : Nat := 2 ^ 1074

/-- The place of a number in the order of all numbers; zeros of both signs share one place, and a
value that is not a number has none. -/
def place (x : Binary64) : Option Int :=
  if x.isNaN then none
  else some (if x.negative then -(x.magnitude : Int) else x.magnitude)

/-- Numeric order: `none` when one side is not a number. -/
def compare (x y : Binary64) : Option Ordering :=
  match x.place, y.place with
  | some a, some b => some (Ord.compare a b)
  | _, _ => none

/-- Numeric equality: zeros of both signs are equal, and what is not a number equals nothing. -/
def same (x y : Binary64) : Bool := x.compare y == some .eq

/-- Whether the number is finite and whole. -/
def isIntegral (x : Binary64) : Bool := x.isFinite && x.units % unitsPerOne == 0

/-- The whole part of a finite number, the fraction cut off. -/
def truncate (x : Binary64) : Int :=
  let whole := x.units / unitsPerOne
  if x.negative then -(whole : Int) else whole

/-- A bit pattern as a number. -/
def ofBits (n : Nat) : Binary64 :=
  ⟨2 ^ 63 ≤ n % 2 ^ 64, n % 2 ^ 63, Nat.mod_lt _ (by decide)⟩

/-- The bit pattern of a number. -/
def toBits (x : Binary64) : Nat := (if x.negative then 2 ^ 63 else 0) + x.magnitude

/-! ## Rounding -/

/-- The magnitude next to `num / den` units: the floor on the grid of the magnitude's exponent, or
the one above when the rest is more than half a step, or exactly half and the floor is odd. -/
def nearest (num den : Nat) : Nat :=
  let whole := num / den
  let exponent := if whole < 2 ^ 53 then 0 else Nat.log2 whole - 52
  let step := 2 ^ exponent
  let floor := exponent * 2 ^ 52 + whole / step
  let rest := num - (whole / step * step) * den
  -- one above the last magnitude of an exponent is the first of the next exponent
  if 2 * rest > step * den || (2 * rest == step * den && floor % 2 == 1) then floor + 1 else floor

/-- The number of the given sign nearest to `num / den` units; what is too large becomes
infinite. -/
def roundUnits (negative : Bool) (num den : Nat) : Binary64 :=
  let m := nearest num den
  if h : m < infiniteMagnitude then ⟨negative, m, Nat.lt_trans h (by decide)⟩
  else infinite negative

/-- The number of the given sign nearest to `num / den`. -/
def round (negative : Bool) (num den : Nat) : Binary64 :=
  roundUnits negative (num * unitsPerOne) den

/-- The number nearest to a whole number. -/
def ofInt (n : Int) : Binary64 := round (n < 0) n.natAbs 1

/-- The number nearest to `± digits * 10 ^ exponent`. Magnitudes that are sure to vanish or to
overflow are settled by the exponent alone. -/
def ofDecimal (negative : Bool) (digits : Nat) (exponent : Int) : Binary64 :=
  let lead := exponent + (Nat.log2 digits / 3 : Nat)
  if digits = 0 || lead < -1000 then ⟨negative, 0, by decide⟩
  else if exponent > 400 then infinite negative
  else if 0 ≤ exponent then round negative (digits * 10 ^ exponent.toNat) 1
  else round negative digits (10 ^ (-exponent).toNat)

/-- The rounded product of two finite numbers. -/
def mul (x y : Binary64) : Binary64 :=
  roundUnits (x.negative != y.negative) (x.units * y.units) unitsPerOne

/-- The rounded quotient of a finite number by a finite one other than zero. -/
def div (x y : Binary64) : Binary64 :=
  roundUnits (x.negative != y.negative) (x.units * unitsPerOne) y.units

example : (ofInt 1).toBits = 0x3ff0000000000000 := by decide +kernel
example : (ofInt (-9007199254740993)).toBits = 0xc340000000000000 := by decide +kernel
example : (ofDecimal false 1 (-1)).toBits = 0x3fb999999999999a := by decide +kernel
example : (ofDecimal false 5 (-324)).toBits = 1 := by decide +kernel
example : (ofDecimal true 1 308).toBits = 0xffe1ccf385ebc8a0 := by decide +kernel
example : ofDecimal false 18 307 = infinite false := by decide +kernel

end Binary64

end Polystore
