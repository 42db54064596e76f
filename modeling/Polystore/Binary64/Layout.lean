import Polystore.Binary64.Shortest

/-!
# Numbers as text

A layout says how the shortest digits of a number are set: where the point may stand without an
exponent, what follows a whole number, and how ties between shortest decimals go. Two layouts are
in use, one for documents and one for messages and keys.
-/

namespace Polystore.Binary64

/-- How the digits of a number are set. -/
structure Layout where
  /-- The places of the point that are written without an exponent. -/
  isPositional : Int → Bool
  /-- What follows a whole number written without an exponent. -/
  wholeEnd : List Char
  /-- How a tie between two shortest decimals goes. -/
  tie : Tie

/-- Numbers in documents: up to sixteen digits in front of the point and four zeros behind it are
written out, whole numbers keep one zero behind the point, and ties go to the even digit. -/
def Layout.document : Layout := ⟨fun p => -5 < p && p ≤ 16, ['.', '0'], .even⟩

/-- Numbers in messages and keys: never an exponent, no point in a whole number, ties go up. -/
def Layout.plain : Layout := ⟨fun _ => true, [], .up⟩

/-- A decimal without an exponent. -/
def positional (wholeEnd : List Char) (d : Decimal) : List Char :=
  let count : Int := d.digits.length
  if d.point ≤ 0 then
    ['0', '.'] ++ List.replicate (-d.point).toNat '0' ++ d.digits
  else if count ≤ d.point then
    d.digits ++ List.replicate (d.point - count).toNat '0' ++ wholeEnd
  else d.digits.take d.point.toNat ++ '.' :: d.digits.drop d.point.toNat

/-- A decimal with one digit in front of the point and a signed exponent. -/
def scientific (d : Decimal) : List Char :=
  let exponent := d.point - 1
  let fraction := d.digits.drop 1
  d.digits.take 1 ++ (if fraction.isEmpty then [] else '.' :: fraction) ++
    (if exponent < 0 then ['e', '-'] else ['e', '+']) ++ Text.natDigits exponent.natAbs

/-- The decimal that is set for a finite magnitude. -/
def Layout.decimal (layout : Layout) (magnitude : Nat) : Decimal :=
  if magnitude == 0 then ⟨['0'], 1⟩ else shortest layout.tie magnitude

/-- A number in the given layout. -/
def Layout.chars (layout : Layout) (x : Binary64) : List Char :=
  if x.isNaN then ['N', 'a', 'N']
  else
    let sign := if x.negative then ['-'] else []
    if x.isFinite then
      let d := layout.decimal x.magnitude
      sign ++ (if layout.isPositional d.point then positional layout.wholeEnd d else scientific d)
    else sign ++ ['i', 'n', 'f']

/-- A number in the given layout. -/
def Layout.text (layout : Layout) (x : Binary64) : String := String.ofList (layout.chars x)

/-- The exact digits of a finite whole number, its sign kept also for zero. -/
def wholeText (x : Binary64) : String :=
  String.ofList ((if x.negative then ['-'] else []) ++ Text.natDigits x.truncate.natAbs)

end Polystore.Binary64
