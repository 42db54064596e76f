import Polystore.Text.Basic

/-!
# Whole numbers in text

A whole number is an optional sign and at least one ASCII digit, and nothing else. Unsigned
numbers admit the plus sign only.
-/

namespace Polystore.Text

/-- The number spelled by a text that holds at least one digit and digits only. -/
def readDigits (cs : List Char) : Option Nat :=
  if cs.isEmpty || !cs.all Char.isDigit then none else some (natOfDigits 0 cs)

/-- The number spelled by digits after an optional plus sign. -/
def readNat : List Char → Option Nat
  | '+' :: rest => readDigits rest
  | cs => readDigits cs

/-- The number spelled by digits after an optional sign. -/
def readInt : List Char → Option Int
  | '-' :: rest => (readDigits rest).map fun n => -(n : Int)
  | cs => (readNat cs).map Int.ofNat

/-- The 64-bit integer spelled by a text, if it is in range. -/
def readInt64 (cs : List Char) : Option Int64 :=
  match readInt cs with
  | some n => if -2 ^ 63 ≤ n ∧ n < 2 ^ 63 then some (Int64.ofInt n) else none
  | none => none

/-- The number below `bound` spelled by a text. -/
def readNatBelow (bound : Nat) (cs : List Char) : Option Nat :=
  (readNat cs).filter (· < bound)

/-- The decimal digits of a number. -/
def natDigits (n : Nat) : List Char := Nat.toDigits 10 n

/-- The decimal digits of a number, with a minus sign in front when it is negative. -/
def intDigits (n : Int) : List Char :=
  if n < 0 then '-' :: natDigits n.natAbs else natDigits n.natAbs

/-- The decimal digits of a number, with zeros in front up to a width. -/
def paddedDigits (width n : Nat) : List Char :=
  let ds := natDigits n
  List.replicate (width - ds.length) '0' ++ ds

example : readInt ['-', '1', '2'] = some (-12) := by decide
example : readInt ['-'] = none := by decide
example : readNat ['+', '7'] = some 7 := by decide
example : readNat ['-', '7'] = none := by decide
example : paddedDigits 3 7 = ['0', '0', '7'] := by decide

end Polystore.Text
