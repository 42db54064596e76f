import Polystore.Calendar.Read
import Polystore.Json.Reader
import Polystore.Sql.Pieces
import Polystore.Binary64.Read
import Polystore.Text.Basic
import Polystore.Value.Basic

/-!
# Literals in statements

A literal is, in this order: the place of a parameter, `null`, a truth value, a quoted text, a
number, a document, a date, or else the text that is written.
-/

namespace Polystore.Sql

/-- What a character means behind a backslash. -/
def unescapeChar (c : Char) : Char :=
  if c == 'n' then '\n'
  else if c == 't' then '\t'
  else if c == 'r' then '\r'
  else if c == '0' then '\x00'
  else c

/-- The content of a quotation with its escapes resolved: backslashes take effect, and a quote that
is written twice counts once. -/
def unescape (q : Char) : List Char → List Char
  | [] => []
  | [c] => [c]
  | c :: d :: rest =>
    if c == '\\' then unescapeChar d :: unescape q rest
    else if c == q && d == q then q :: unescape q rest
    else c :: unescape q (d :: rest)

/-- The content of a text that starts and ends with the same quotation mark. -/
def unquote : List Char → Option (List Char)
  | [] => none
  | q :: rest =>
    if isQuote q && rest.getLast? == some q then some (unescape q rest.dropLast) else none

/-- The name that a token means: without its brackets or quotes. -/
def nameOf (token : List Char) : String :=
  let cs := Text.trim token
  let plain := String.ofList ((unquote cs).getD cs)
  match cs with
  | '[' :: rest => if rest.getLast? == some ']' then String.ofList rest.dropLast else plain
  | _ => plain

/-- The names of a list. -/
def nameList (text : List Char) : Outcome (List String) :=
  (splitTopLevel ',' text).map (·.map nameOf)

/-- Whether a token could be a number: a digit or a point behind an optional sign, and nothing but
digits, points, signs and exponent marks. -/
def looksNumeric (token : List Char) : Bool :=
  let body := match token with
    | '-' :: rest => rest
    | '+' :: rest => rest
    | _ => token
  (match body with
    | c :: _ => c.isDigit || c == '.'
    | [] => false) &&
  body.all fun c => c.isDigit || c == '.' || c == 'e' || c == 'E' || c == '-' || c == '+'

/-- Digits of a given count, then the rest. -/
def afterDigits (count : Nat) (cs : List Char) : Option (List Char) :=
  (Calendar.takeDigits count cs).map (·.2)

/-- Nothing, or the zone of a date: `Z`, or a sign, hours and minutes with an optional colon. -/
def isZone : List Char → Bool
  | [] => true
  | ['Z'] => true
  | c :: rest =>
    (c == '+' || c == '-') &&
    match afterDigits 2 rest with
    | some (':' :: rest) => afterDigits 2 rest == some []
    | some rest => afterDigits 2 rest == some []
    | none => false

/-- Whether a text has the shape of a time with optional seconds, fraction and zone. -/
def isTime (cs : List Char) : Bool :=
  match (afterDigits 2 cs).bind (Calendar.takeChar ':') |>.bind (afterDigits 2) with
  | none => false
  | some rest =>
    match rest with
    | ':' :: rest =>
      match afterDigits 2 rest with
      | none => false
      | some ('.' :: c :: rest) => c.isDigit && isZone (rest.dropWhile Char.isDigit)
      | some rest => isZone rest
    | _ => isZone rest

/-- Whether a text has the shape of a date, with or without a time. -/
def isDateShaped (cs : List Char) : Bool :=
  match (afterDigits 4 cs).bind (Calendar.takeChar '-') |>.bind (afterDigits 2)
      |>.bind (Calendar.takeChar '-') |>.bind (afterDigits 2) with
  | none => false
  | some [] => true
  | some (c :: rest) => (c == 'T' || c == ' ') && isTime rest

/-- The number that a token spells: an integer if it fits, else a float. -/
def readNumber (token : List Char) : Option Value :=
  if looksNumeric token then
    ((Text.readInt64 token).map .int).or ((Binary64.read? token).map .float)
  else none

/-- The document that a token spells, if it starts like an object or an array. -/
def readDocument (token : List Char) : Option Value :=
  match token with
  | c :: _ =>
    if c == '\x7b' || c == '[' then (Json.read? (String.ofList token)).map Value.ofJson else none
  | [] => none

/-- The instant that a token of the shape of a date spells. -/
def readInstant (token : List Char) : Option Value :=
  if isDateShaped token then (Calendar.Instant.read? token).map .date else none

/-- The value of a token other than the place of a parameter. -/
def literalOf (token : List Char) : Value :=
  let lower := token.map Char.toLower
  if lower == "null".toList then .null
  else if lower == "true".toList then .bool true
  else if lower == "false".toList then .bool false
  else
    (((unquote token).map fun cs => Value.text (String.ofList cs)).or <|
      (readNumber token).or <| (readDocument token).or (readInstant token)).getD
      (.text (String.ofList token))

/-- The value of a token; `none` for the place of a parameter. -/
def parseValue (text : List Char) : Option Value :=
  let token := Text.trim text
  if token == ['?'] then none else some (literalOf token)

/-- The values of a list. -/
def parseValues (text : List Char) : Outcome (List (Option Value)) :=
  (splitTopLevel ',' text).map (·.map parseValue)

end Polystore.Sql
