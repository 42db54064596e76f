import Polystore.Calendar.Read
import Polystore.Json.Printer
import Polystore.TextMap
import Polystore.Text.Printable

/-!
# Values

What a row holds under a column, a document under a field, and what a condition compares with. A
value is a scalar, a list of values, or a document. Scalars and arrays of documents have values of
their own; only objects stay documents when a document is turned into a value.
-/

namespace Polystore

open Polystore.Calendar (Instant)

/-- A value. -/
inductive Value where
  | null
  | bool (b : Bool)
  | int (n : Int64)
  | float (x : Binary64)
  | text (s : String)
  | date (t : Instant)
  | list (items : List Value)
  | json (j : Json)

/-- What is stored as one record: a value for each of some names. -/
abbrev Row := TextMap Value

namespace Value

instance : Inhabited Value := ⟨.null⟩

/-- Whether the value is `null`. -/
def isNull : Value → Bool
  | .null => true
  | _ => false

/-- The truth value, if it is one. -/
def asBool : Value → Option Bool
  | .bool b => some b
  | _ => none

/-- The whole number, if it is one. -/
def asInt : Value → Option Int64
  | .int n => some n
  | _ => none

/-- The text, if it is one. -/
def asText : Value → Option String
  | .text s => some s
  | _ => none

/-- The items, if it is a list. -/
def asList : Value → Option (List Value)
  | .list items => some items
  | _ => none

/-- The name of the kind of value. -/
def kindName : Value → String
  | .null => "null"
  | .bool _ => "boolean"
  | .int _ => "integer"
  | .float _ => "float"
  | .text _ => "text"
  | .date _ => "date"
  | .list _ => "list"
  | .json _ => "json"

/-! ## Values and documents -/

mutual

/-- The value of a document. A whole number beyond the signed range becomes a float. -/
def ofJson : Json → Value
  | .null => .null
  | .bool b => .bool b
  | .int n =>
    match n.toInt64? with
    | some i => .int i
    | none => .float (Binary64.ofInt n.val)
  | .float x => .float x
  | .text s => .text s
  | .array items => .list (ofJsonItems items)
  | .object fields => .json (.object fields)

/-- The values of the documents of a list. -/
def ofJsonItems : List Json → List Value
  | [] => []
  | j :: rest => ofJson j :: ofJsonItems rest

end

mutual

/-- The document of a value, its instants written with the given zone mark. A float that is not
finite has no document and becomes `null`. -/
def toJsonWith (zone : Calendar.Instant.Zone) : Value → Json
  | .null => .null
  | .bool b => .bool b
  | .int n => .ofInt64 n
  | .float x => if x.isFinite then .float x else .null
  | .text s => .text s
  | .date t => .text (String.ofList (t.chars .shortest zone))
  | .list items => .array (toJsonItems zone items)
  | .json j => j

/-- The documents of the values of a list. -/
def toJsonItems (zone : Calendar.Instant.Zone) : List Value → List Json
  | [] => []
  | v :: rest => toJsonWith zone v :: toJsonItems zone rest

end

/-- The document of a value, as conditions and keys write it. -/
def toJson (v : Value) : Json := v.toJsonWith .offset

/-- The document of a value, as stored queries write it. -/
def encode (v : Value) : Json := v.toJsonWith .letter

/-! ## Texts -/

/-- The text of a truth value. -/
def boolText (b : Bool) : String := if b then "true" else "false"

/-- The text of a whole number. -/
def intText (n : Int64) : String := String.ofList (Text.intDigits n.toInt)

/-- The canonical text of a value, by which keys are formed. A whole float is written exactly, so
that it has the text of the integer it equals. -/
def keyText : Value → String
  | .null => "null"
  | .bool b => boolText b
  | .int n => intText n
  | .float x => if x.isIntegral then x.wholeText else Binary64.Layout.plain.text x
  | .text s => s
  | .date t => t.text
  | .list items => (toJson (.list items)).print
  | .json j => j.print

/-- The text of a value in messages. -/
def display : Value → String
  | .null => "NULL"
  | .bool b => boolText b
  | .int n => intText n
  | .float x => Binary64.Layout.plain.text x
  | .text s => Text.quoted s
  | .date t => t.text
  | .list items => (toJson (.list items)).print
  | .json j => j.print

end Value

/-- The value of a row in a column; a column without a value reads as `null`. -/
def Row.at (row : Row) (column : String) : Value := (row.get? column).getD .null

namespace Row

theorem get?_of_at {row : Row} {column : String} {v : Value} (h : row.at column = v)
    (notNull : v ≠ .null) : row.get? column = some v := by
  rw [Row.at] at h
  cases stored : row.get? column with
  | none =>
    rw [stored] at h
    exact absurd h.symm notNull
  | some w =>
    rw [stored] at h
    exact congrArg some h

@[simp] theorem at_insert_self (row : Row) (column : String) (v : Value) :
    Row.at (row.insert column v) column = v := by
  rw [Row.at, TextMap.get?_insert_self]
  rfl

/-- Setting a value leaves the other columns alone. -/
theorem at_insert_of_ne {column other : String} (ne : column ≠ other) (row : Row) (v : Value) :
    Row.at (row.insert column v) other = row.at other := by
  rw [Row.at, Row.at, TextMap.get?_insert_of_ne ne]

theorem at_erase_of_ne {column other : String} (ne : column ≠ other) (row : Row) :
    Row.at (row.erase column) other = row.at other := by
  rw [Row.at, Row.at, TextMap.get?_erase, if_neg ne]

end Row

/-- The document of a row, as stored queries write it. -/
def Row.encode (row : Row) : Json := .object (row.entries.map fun b => (b.1, b.2.encode))

end Polystore
