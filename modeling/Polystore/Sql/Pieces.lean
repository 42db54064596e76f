import Polystore.Error
import Polystore.Text.Basic

/-!
# Cutting a text into pieces

A list in a statement is cut at its separators, but not at those that stand between quotes or inside
brackets. Between quotes a backslash takes the next character along, and a quote that is written
twice does not end the quotation. Brackets of all three shapes count alike.
-/

namespace Polystore.Sql

/-- Whether a character opens and closes a quotation. -/
def isQuote (c : Char) : Bool := c == '\x27' || c == '\x22' || c == '\x60'

/-- Whether a character opens a bracket. -/
def isOpening (c : Char) : Bool := c == '(' || c == '[' || c == '\x7b'

/-- Whether a character closes a bracket. -/
def isClosing (c : Char) : Bool := c == ')' || c == ']' || c == '\x7d'

/-- Why a text cannot be cut. -/
inductive CutError where
  /-- A quotation has no end. -/
  | unterminated
  /-- Brackets do not come in pairs. -/
  | unbalanced
deriving DecidableEq

/-- A character of a text with its place between quotations and brackets. -/
structure Placed where
  char : Char
  /-- Whether a quotation is open in front of it. -/
  quoted : Bool
  /-- Whether the text is cut here. -/
  cuts : Bool
deriving DecidableEq

/-- The characters of a text as far as they were read, and what is wrong with the text. -/
structure Scan where
  placed : List Placed
  fault : Option CutError

/-- A scan preceded by one more character. -/
def Scan.preceded (scan : Scan) (c : Char) (quoted cuts : Bool) : Scan :=
  { scan with placed := ⟨c, quoted, cuts⟩ :: scan.placed }

/-- Reads a text from a place where a quotation mark, if any, and a number of brackets are open. -/
def scanFrom (separator : Char) : Option Char → Nat → List Char → Scan
  | some _, _, [] => ⟨[], some .unterminated⟩
  | none, 0, [] => ⟨[], none⟩
  | none, _ + 1, [] => ⟨[], some .unbalanced⟩
  | some q, depth, c :: rest =>
    if c == '\\' then
      match rest with
      | d :: rest =>
        ((scanFrom separator (some q) depth rest).preceded d true false).preceded c true false
      | [] => ⟨[⟨c, true, false⟩], some .unterminated⟩
    else if c == q then
      match rest with
      | d :: rest =>
        if d == q then
          -- a doubled mark is content
          ((scanFrom separator (some q) depth rest).preceded d true false).preceded c true false
        else (scanFrom separator none depth (d :: rest)).preceded c true false
      | [] => (scanFrom separator none depth []).preceded c true false
    else (scanFrom separator (some q) depth rest).preceded c true false
  | none, depth, c :: rest =>
    if isQuote c then (scanFrom separator (some c) depth rest).preceded c false false
    else if isOpening c then (scanFrom separator none (depth + 1) rest).preceded c false false
    else if isClosing c then
      match depth with
      -- nothing behind a bracket that was never opened is read
      | 0 => ⟨[], some .unbalanced⟩
      | depth + 1 => (scanFrom separator none depth rest).preceded c false false
    else (scanFrom separator none depth rest).preceded c false (c == separator && depth == 0)

/-- Reads a text from its start. -/
def scan (separator : Char) (text : List Char) : Scan := scanFrom separator none 0 text

/-- The segment in front of the first cut, and the segments behind the cuts. -/
def cutAt : List Placed → List Char × List (List Char)
  | [] => ([], [])
  | r :: rest =>
    let (first, others) := cutAt rest
    if r.cuts then ([], first :: others) else (r.char :: first, others)

/-- The segments of a text between separators that stand outside quotations and brackets. -/
def segments (separator : Char) (text : List Char) : Except CutError (List (List Char)) :=
  let scanned := scan separator text
  match scanned.fault with
  | some e => .error e
  | none =>
    let (first, others) := cutAt scanned.placed
    .ok (first :: others)

/-- Segments without the blanks around them; a single one that is all blank is no piece at all. -/
def piecesOf (segments : List (List Char)) : List (List Char) :=
  match segments with
  | [s] => if Text.isAllBlank s then [] else [Text.trim s]
  | _ => segments.map Text.trim

/-- The error of a text that cannot be cut. -/
def CutError.on (text : List Char) : CutError → Error
  | .unterminated => SyntaxError.unterminatedString (String.ofList text)
  | .unbalanced => SyntaxError.unbalancedParentheses (String.ofList text)

/-- The pieces of a text between separators. -/
def splitTopLevel (separator : Char) (text : List Char) : Outcome (List (List Char)) :=
  match segments separator text with
  | .ok parts => .ok (piecesOf parts)
  | .error e => .error (e.on text)

end Polystore.Sql
