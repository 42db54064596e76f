import Polystore.Json.Basic
import Polystore.Text.Basic

/-!
# Reading documents

The reader takes one document from a text and refuses everything behind it but blanks. Arrays and
objects may be nested 127 deep. When an object names a field twice, the later value stands in the
earlier place.

A whole number that fits 64 bits is exact. Every other number is read the quick way: its leading
digits are collected as long as they fit 64 bits, later ones are dropped, and the result is
multiplied or divided once by a power of ten, each step rounded. The last bit may therefore differ
from that of the nearest number.
-/

namespace Polystore.Json

/-- The blanks between the parts of a document. -/
def isSpace (c : Char) : Bool := c == ' ' || c == '\t' || c == '\n' || c == '\r'

/-- A text without the blanks in front. -/
def skipSpace (cs : List Char) : List Char := cs.dropWhile isSpace

/-! ## Numbers -/

/-- The bound of the leading digits. -/
def significandBound : Nat := 2 ^ 64

/-- A scaled number: one multiplication or division by a power of ten, repeated divisions while the
power is beyond the format. `none` when it overflows. -/
def scaled : Nat → Binary64 → Int → Option Binary64
  | 0, _, _ => none
  | fuel + 1, x, exponent =>
    if exponent.natAbs ≤ 308 then
      let power := Binary64.ofDecimal false 1 exponent.natAbs
      if 0 ≤ exponent then
        let y := x.mul power
        if y.isFinite then some y else none
      else some (x.div power)
    else if x.isZero then some x
    else if 0 ≤ exponent then none
    else scaled fuel (x.div (Binary64.ofDecimal false 1 308)) (exponent + 308)

/-- A float of leading digits and a power of ten. -/
def floatOf (negative : Bool) (significand : Nat) (exponent : Int) : Option Json :=
  (scaled 4 (Binary64.ofInt significand) exponent).map fun x =>
    .float (if negative then x.neg else x)

/-- The digits of an exponent, on top of `value`. Beyond 32 bits the number is zero, or too large
when it has digits other than zero and the exponent is positive. -/
def readExponentDigits (negative down : Bool) (significand : Nat) (start : Int) :
    Nat → List Char → Option (Json × List Char)
  | value, c :: rest =>
    if c.isDigit then
      let value := 10 * value + Text.digitValue c
      if value < 2 ^ 31 then readExponentDigits negative down significand start value rest
      else if significand != 0 && !down then none
      else
        let zero := Binary64.zero
        some (.float (if negative then zero.neg else zero), rest.dropWhile Char.isDigit)
    else
      (floatOf negative significand (if down then start - value else start + value)).map
        (·, c :: rest)
  | value, [] =>
    (floatOf negative significand (if down then start - value else start + value)).map (·, [])

/-- What follows the exponent mark: an optional sign and at least one digit. -/
def readExponent (negative : Bool) (significand : Nat) (start : Int) (cs : List Char) :
    Option (Json × List Char) :=
  let (down, digits) := match cs with
    | '+' :: rest => (false, rest)
    | '-' :: rest => (true, rest)
    | _ => (false, cs)
  match digits with
  | c :: _ =>
    if c.isDigit then readExponentDigits negative down significand start 0 digits else none
  | [] => none

/-- The end of a number that has a point or too many digits: an exponent, or nothing. -/
def finishFloat (negative : Bool) (significand : Nat) (exponent : Int) (cs : List Char) :
    Option (Json × List Char) :=
  match cs with
  | c :: rest =>
    if c == 'e' || c == 'E' then readExponent negative significand exponent rest
    else (floatOf negative significand exponent).map (·, cs)
  | [] => (floatOf negative significand exponent).map (·, [])

/-- The digits behind the point. Those that do not fit are passed over. -/
def readFraction (negative : Bool) : Nat → Int → List Char → Option (Json × List Char)
  | significand, exponent, c :: rest =>
    if c.isDigit then
      let next := 10 * significand + Text.digitValue c
      if next < significandBound then readFraction negative next (exponent - 1) rest
      else finishFloat negative significand exponent (rest.dropWhile Char.isDigit)
    else finishFloat negative significand exponent (c :: rest)
  | significand, exponent, [] => finishFloat negative significand exponent []

/-- A point with at least one digit behind it, or the end of a float. -/
def afterWhole (negative : Bool) (significand : Nat) (exponent : Int) (cs : List Char) :
    Option (Json × List Char) :=
  match cs with
  | '.' :: c :: rest =>
    if c.isDigit then readFraction negative significand exponent (c :: rest) else none
  | ['.'] => none
  | _ => finishFloat negative significand exponent cs

/-- A whole number without its sign, as a document: exact where 64 bits hold it. Minus zero is a
float, as only a float has a sign for zero. -/
def wholeOf (negative : Bool) (n : Nat) : Json :=
  if negative then
    if h : 0 < n ∧ n ≤ 2 ^ 63 then .int ⟨-(n : Int), by omega, by omega⟩
    else .float (Binary64.ofInt n).neg
  else if h : n < 2 ^ 64 then .int ⟨n, by omega, by omega⟩
  else .float (Binary64.ofInt n)

/-- The digits in front of the point. Those that do not fit count as places only. -/
def readWhole (negative : Bool) : Nat → List Char → Option (Json × List Char)
  | significand, c :: rest =>
    if c.isDigit then
      let next := 10 * significand + Text.digitValue c
      if next < significandBound then readWhole negative next rest
      else
        let places := (c :: rest).takeWhile Char.isDigit
        afterWhole negative significand places.length (rest.dropWhile Char.isDigit)
    else if c == '.' || c == 'e' || c == 'E' then
      afterWhole negative significand 0 (c :: rest)
    else some (wholeOf negative significand, c :: rest)
  | significand, [] => some (wholeOf negative significand, [])

/-- A number behind its sign. A zero in front is followed by no other digit. -/
def readUnsigned (negative : Bool) (cs : List Char) : Option (Json × List Char) :=
  match cs with
  | '0' :: c :: _ => if c.isDigit then none else readWhole negative 0 cs
  | c :: _ => if c.isDigit then readWhole negative 0 cs else none
  | [] => none

/-! ## Texts -/

/-- The number of one hexadecimal digit. -/
def hexValue (c : Char) : Option Nat :=
  let n := c.toNat
  if 48 ≤ n && n ≤ 57 then some (n - 48)
  else if 97 ≤ n && n ≤ 102 then some (n - 87)
  else if 65 ≤ n && n ≤ 70 then some (n - 55)
  else none

/-- The number of four hexadecimal digits. -/
def readHex4 : List Char → Option (Nat × List Char)
  | a :: b :: c :: d :: rest => do
    let a ← hexValue a
    let b ← hexValue b
    let c ← hexValue c
    let d ← hexValue d
    some (4096 * a + 256 * b + 16 * c + d, rest)
  | _ => none

/-- The character of an escape by code unit: a high half needs a low half in a second escape, and a
low half does not stand alone. -/
def readUnit (cs : List Char) : Option (Char × List Char) := do
  let (unit, rest) ← readHex4 cs
  if 0xd800 ≤ unit && unit ≤ 0xdbff then
    match rest with
    | '\\' :: 'u' :: rest =>
      let (low, rest) ← readHex4 rest
      if 0xdc00 ≤ low && low ≤ 0xdfff then
        some (Char.ofNat (0x10000 + 0x400 * (unit - 0xd800) + (low - 0xdc00)), rest)
      else none
    | _ => none
  else if 0xdc00 ≤ unit && unit ≤ 0xdfff then none
  else some (Char.ofNat unit, rest)

/-- The character that a letter stands for behind a backslash. -/
def unescape (c : Char) : Option Char :=
  if c == '\x22' || c == '\\' || c == '/' then some c
  else if c == 'b' then some '\x08'
  else if c == 'f' then some '\x0c'
  else if c == 'n' then some '\n'
  else if c == 'r' then some '\r'
  else if c == 't' then some '\t'
  else none

/-- The characters of a text up to its closing quote, behind those in `seen` (last one first). -/
def readChars : Nat → List Char → List Char → Option (String × List Char)
  | 0, _, _ => none
  | _, _, [] => none
  | fuel + 1, seen, c :: rest =>
    if c == '\x22' then some (String.ofList seen.reverse, rest)
    else if c == '\\' then
      match rest with
      | 'u' :: rest =>
        match readUnit rest with
        | some (d, rest) => readChars fuel (d :: seen) rest
        | none => none
      | e :: rest =>
        match unescape e with
        | some d => readChars fuel (d :: seen) rest
        | none => none
      | [] => none
    else if c.toNat < 0x20 then none
    else readChars fuel (c :: seen) rest

/-- A text behind its opening quote. -/
def readString (cs : List Char) : Option (String × List Char) := readChars (cs.length + 1) [] cs

/-! ## Documents -/

/-- A given word. -/
def readWord (word : List Char) (value : Json) (cs : List Char) : Option (Json × List Char) :=
  if word.isPrefixOf cs then some (value, cs.drop word.length) else none

mutual

/-- One document, with blanks in front of it. `depth` counts the levels that may still open. -/
def readValue : Nat → Nat → List Char → Option (Json × List Char)
  | 0, _, _ => none
  | fuel + 1, depth, cs =>
    match skipSpace cs with
    | [] => none
    | c :: rest =>
      if c == '\x22' then (readString rest).map fun (s, rest) => (.text s, rest)
      else if c == '[' then
        match depth with
        | 0 => none
        | depth + 1 =>
          match skipSpace rest with
          | ']' :: rest => some (.array [], rest)
          | rest => readItems fuel depth [] rest
      else if c == '\x7b' then
        match depth with
        | 0 => none
        | depth + 1 =>
          match skipSpace rest with
          | '\x7d' :: rest => some (.object [], rest)
          | rest => readFields fuel depth [] rest
      else if c == '-' then readUnsigned true rest
      else if c.isDigit then readUnsigned false (c :: rest)
      else if c == 'n' then readWord ['u', 'l', 'l'] .null rest
      else if c == 't' then readWord ['r', 'u', 'e'] (.bool true) rest
      else if c == 'f' then readWord ['a', 'l', 's', 'e'] (.bool false) rest
      else none

/-- The items of an array up to its closing bracket, behind those in `seen` (last one first). -/
def readItems : Nat → Nat → List Json → List Char → Option (Json × List Char)
  | 0, _, _, _ => none
  | fuel + 1, depth, seen, cs =>
    match readValue fuel depth cs with
    | none => none
    | some (j, rest) =>
      match skipSpace rest with
      | ',' :: rest => readItems fuel depth (j :: seen) rest
      | ']' :: rest => some (.array (j :: seen).reverse, rest)
      | _ => none

/-- The fields of an object up to its closing brace, behind those in `seen`. -/
def readFields : Nat → Nat → List (String × Json) → List Char → Option (Json × List Char)
  | 0, _, _, _ => none
  | fuel + 1, depth, seen, cs =>
    match skipSpace cs with
    | '\x22' :: rest =>
      match readString rest with
      | none => none
      | some (key, rest) =>
        match skipSpace rest with
        | ':' :: rest =>
          match readValue fuel depth rest with
          | none => none
          | some (j, rest) =>
            match skipSpace rest with
            | ',' :: rest => readFields fuel depth (setField key j seen) rest
            | '\x7d' :: rest => some (.object (setField key j seen), rest)
            | _ => none
        | _ => none
    | _ => none

end

/-- How deep arrays and objects may be nested. -/
def depthLimit : Nat := 127

/-- The document that a text holds, if it holds one and nothing else. -/
def read? (s : String) : Option Json :=
  let cs := s.toList
  match readValue (2 * cs.length + 2) depthLimit cs with
  | some (j, rest) => if (skipSpace rest).isEmpty then some j else none
  | none => none

end Polystore.Json
