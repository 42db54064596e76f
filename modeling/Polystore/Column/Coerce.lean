import Polystore.Binary64.Read
import Polystore.Column.Basic
import Polystore.Error
import Polystore.Json.Reader

/-!
# Storing values in columns

A value goes into a column in the representation of the column's type, or not at all. `null` goes
into every column. Numbers, truth values and instants become text by their canonical text, and
texts become what they spell; a whole float becomes an integer, and an integer the nearest float.
-/

namespace Polystore

/-- An integer held between the least and the greatest of 64 bits. -/
def clampInt64 (n : Int) : Int64 :=
  if n < -2 ^ 63 then Int64.minValue
  else if 2 ^ 63 ≤ n then Int64.maxValue
  else Int64.ofInt n

namespace ColumnType

open Polystore.Calendar (Instant)

/-- The truth value that a text spells. -/
def readBool (s : String) : Option Bool :=
  let word := Text.asciiLower (Text.trimmed s)
  if word = "true" || word = "1" then some true
  else if word = "false" || word = "0" then some false
  else none

/-- The value as a column of the type stores it, if it can. -/
def convert (type : ColumnType) (v : Value) : Option Value :=
  match type, v with
  | _, .null => some .null
  | .text, .text s => some (.text s)
  | .text, .int n => some (.text (Value.keyText (.int n)))
  | .text, .float x => some (.text (Value.keyText (.float x)))
  | .text, .bool b => some (.text (Value.keyText (.bool b)))
  | .text, .date t => some (.text t.text)
  | .integer, .int n => some (.int n)
  | .integer, .bool b => some (.int (if b then 1 else 0))
  | .integer, .float x => if x.isIntegral then some (.int (clampInt64 x.truncate)) else none
  | .integer, .text s => (Text.readInt64 (Text.trim s.toList)).map .int
  | .float, .float x => some (.float x)
  | .float, .int n => some (.float (Binary64.ofInt n.toInt))
  | .float, .text s => (Binary64.read? (Text.trim s.toList)).map .float
  | .boolean, .bool b => some (.bool b)
  | .boolean, .int n => if n = 0 then some (.bool false) else if n = 1 then some (.bool true) else none
  | .boolean, .text s => (readBool s).map .bool
  | .date, .date t => some (.date t)
  | .date, .text s => (Instant.ofText? s).map .date
  | .date, .int n => (Instant.ofMillis? n.toInt).map .date
  | .json, .json j => some (.json j)
  | .json, .list items => some (.list items)
  | .json, .text s =>
    match Json.read? s with
    | some j => some (Value.ofJson j)
    | none => some (.text s)
  | .json, .int n => some (.int n)
  | .json, .float x => some (.float x)
  | .json, .bool b => some (.bool b)
  | _, _ => none

/-- The value as a column of the type stores it; a value that it cannot store is an error that names
the column and shows the value. -/
def coerce (type : ColumnType) (column : String) (v : Value) : Outcome Value :=
  match type.convert v with
  | some w => .ok w
  | none => .error (ExecutionError.typeMismatch column type.name v.display)

/-! ## What columns store -/

/-- A value is stored as what it converts to. -/
theorem coerce_eq_ok {type : ColumnType} {column : String} {v w : Value} :
    type.coerce column v = .ok w ↔ type.convert v = some w := by
  rw [coerce]
  cases type.convert v <;> simp

/-- Every column stores `null` as `null`. -/
theorem coerce_null (type : ColumnType) (column : String) :
    type.coerce column .null = .ok .null := by
  cases type <;> rfl

/-- Whether a value is in the representation of a type. Values of every kind stand for JSON. -/
def represents : ColumnType → Value → Bool
  | .text, .text _ => true
  | .integer, .int _ => true
  | .float, .float _ => true
  | .boolean, .bool _ => true
  | .date, .date _ => true
  | .json, _ => true
  | _, _ => false

/-- What a column stores is `null` or in the representation of its type. -/
theorem represents_of_coerce {type : ColumnType} {column : String} {v w : Value}
    (h : type.coerce column v = .ok w) : w = .null ∨ type.represents w = true := by
  rw [coerce_eq_ok] at h
  by_cases null : v = .null
  · subst null
    exact .inl (Except.ok.inj ((coerce_null type column).symm.trans (coerce_eq_ok.mpr h))).symm
  right
  cases type with
  | text => cases v <;> simp [convert] at h null <;> subst h <;> rfl
  | integer => cases v <;> simp [convert] at h null <;> grind [represents]
  | float => cases v <;> simp [convert] at h null <;> grind [represents]
  | boolean => cases v <;> simp [convert] at h null <;> grind [represents]
  | date => cases v <;> simp [convert] at h null <;> grind [represents]
  | json => rfl

end ColumnType

end Polystore
