import Polystore.Error
import Polystore.Query.Basic

/-!
# Formatters

A formatter decides the tokens of statement text: how names are quoted, what stands for a
parameter, how types and literals are spelled. The shape of a statement is the same for all; it is
put together in `Polystore.Statement.Render` from the tokens given here.
-/

namespace Polystore

/-- The tokens in which formatters differ. -/
structure Formatter where
  /-- The type of a column in a declaration. -/
  columnType : Column → String
  /-- A name between quotes. -/
  quoteName : String → String
  /-- What stands for the parameter of a position, counted from one. -/
  placeholder : Nat → String
  /-- The words that mark a column which counts up. -/
  autoIncrement : String
  /-- The content of a literal between single quotes. -/
  escape : String → String

namespace Formatter

/-- A text with every occurrence of a character written twice. -/
def doubled (c : Char) (s : String) : String :=
  String.ofList (s.toList.flatMap fun d => if d == c then [d, d] else [d])

/-- The text of a natural number. -/
def natText (n : Nat) : String := String.ofList (Text.natDigits n)

/-- A text between two double quotes, with double quotes inside it doubled. -/
def doubleQuoted (s : String) : String := "\"" ++ doubled '\x22' s ++ "\""

/-- The standard name of a column's type. -/
def standardType (c : Column) : String :=
  match c.type with
  | .text =>
    match c.length with
    | some n => "VARCHAR(" ++ natText n.toNat ++ ")"
    | none => "TEXT"
  | .integer => "INTEGER"
  | .float => "DOUBLE PRECISION"
  | .boolean => "BOOLEAN"
  | .date => "TIMESTAMP"
  | .json => "JSON"

/-- The standard tokens. -/
def standard : Formatter :=
  { columnType := standardType
    quoteName := doubleQuoted
    placeholder := fun _ => "?"
    autoIncrement := "AUTO_INCREMENT"
    escape := doubled '\x27' }

/-- The type of a column by its own name, with its length if it has one. -/
def plainType (c : Column) : String :=
  match c.length with
  | some n => c.type.name ++ "(" ++ natText n.toNat ++ ")"
  | none => c.type.name

/-- The tokens of the memory store. Its reader takes a backslash as an escape, so backslashes in
literals are doubled as well. -/
def memory : Formatter :=
  { standard with
    columnType := plainType
    escape := fun s => doubled '\x27' (doubled '\\' s) }

/-- Tokens with numbered parameters. Names stand between backquotes as they are, and counted columns
are marked in the words of the standard. -/
def numbered : Formatter :=
  { standard with
    quoteName := fun s => "\x60" ++ s ++ "\x60"
    placeholder := fun n => "$" ++ natText n
    autoIncrement := "GENERATED BY DEFAULT AS IDENTITY" }

/-! ## Tokens that follow from these -/

/-- A truth value. -/
def boolean (_ : Formatter) (b : Bool) : String := if b then "TRUE" else "FALSE"

/-- A text between single quotes. -/
def string (f : Formatter) (s : String) : String := "'" ++ f.escape s ++ "'"

/-- An instant, in milliseconds. -/
def date (f : Formatter) (t : Calendar.Instant) : String := f.string t.millisText

/-- A document. -/
def json (f : Formatter) (j : Json) : String := f.string j.print

mutual

/-- A value of any kind; a list stands between parentheses. A float that is not finite has no
literal. -/
def literal (f : Formatter) : Value → Outcome String
  | .null => .ok "NULL"
  | .bool b => .ok (f.boolean b)
  | .int n => .ok (Value.intText n)
  | .float x =>
    let text := Binary64.Layout.plain.text x
    if x.isFinite then .ok text else .error (.unsupported ("non-finite float " ++ text))
  | .text s => .ok (f.string s)
  | .date t => .ok (f.date t)
  | .json j => .ok (f.json j)
  | .list items => do
    let parts ← literals f items
    .ok ("(" ++ Text.joined ", " parts ++ ")")

/-- The values of a list. -/
def literals (f : Formatter) : List Value → Outcome (List String)
  | [] => .ok []
  | v :: rest => do
    let part ← literal f v
    let parts ← literals f rest
    .ok (part :: parts)

end

/-- A default, which must not be a list. -/
def defaultValue (f : Formatter) (v : Value) : Outcome String :=
  match v with
  | .list _ => .error (.unsupported ("default value of type " ++ v.kindName))
  | _ => f.literal v

/-- The clause for a number of rows to show at most. -/
def limit (_ : Formatter) (n : UInt64) : String := "LIMIT " ++ natText n.toNat

/-- The clause for a number of rows to pass over. -/
def offset (_ : Formatter) (n : UInt64) : String := "OFFSET " ++ natText n.toNat

/-- Both clauses, as far as they are given. -/
def paging (f : Formatter) (l o : Option UInt64) : String :=
  Text.joined " " ((l.map f.limit).toList ++ (o.map f.offset).toList)

/-- Names between quotes with commas between them. -/
def names (f : Formatter) (ns : List String) : String := Text.joined ", " (ns.map f.quoteName)

end Formatter

end Polystore
