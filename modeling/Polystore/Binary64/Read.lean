import Polystore.Binary64.Basic
import Polystore.Text.Whole

/-!
# Reading numbers

A number in text is an optional sign, digits with at most one point among them or at one of their
ends, and an optional exponent; or, in any case of letters, one of the words for infinity and for
what is not a number. The number read is the nearest one to the decimal that is written.
-/

namespace Polystore.Binary64

/-- The exponent after the digits: nothing, or a marker, an optional sign and digits. -/
def readExponent : List Char → Option Int
  | [] => some 0
  | c :: rest => if c == 'e' || c == 'E' then Text.readInt rest else none

/-- A number without its sign. -/
def readUnsigned (negative : Bool) (cs : List Char) : Option Binary64 :=
  let lower := cs.map Char.toLower
  if lower == "inf".toList || lower == "infinity".toList then some (infinite negative)
  else if lower == "nan".toList then some nan
  else
    let whole := cs.takeWhile Char.isDigit
    let rest := cs.dropWhile Char.isDigit
    let afterPoint := match rest with
      | '.' :: tail => tail
      | _ => []
    let fraction := afterPoint.takeWhile Char.isDigit
    let tail := match rest with
      | '.' :: tail => tail.dropWhile Char.isDigit
      | _ => rest
    if whole.isEmpty && fraction.isEmpty then none
    else (readExponent tail).map fun exponent =>
      ofDecimal negative (Text.natOfDigits (Text.natOfDigits 0 whole) fraction)
        (exponent - (fraction.length : Int))

/-- The number that a text spells, if it spells one. -/
def read? : List Char → Option Binary64
  | '-' :: rest => readUnsigned true rest
  | '+' :: rest => readUnsigned false rest
  | cs => readUnsigned false cs

end Polystore.Binary64
