import Polystore.Text.Basic
import Polystore.Value.Basic

/-!
# Columns

A table has columns, each of one of six types. A column may have a length, which only its
declaration shows, may refuse `null`, may belong to the primary key, may demand distinct values, and
may have a default for rows that leave it out. A primary column that counts up is the identity of
its table: it receives a number when a row brings none.
-/

namespace Polystore

/-- The type of a column. -/
inductive ColumnType where
  | text
  | integer
  | float
  | boolean
  | date
  | json
deriving DecidableEq

namespace ColumnType

/-- The name of a type. -/
def name : ColumnType → String
  | .text => "text"
  | .integer => "integer"
  | .float => "float"
  | .boolean => "boolean"
  | .date => "date"
  | .json => "json"

/-- The type of this name. -/
def ofName? (s : String) : Option ColumnType :=
  if s = "text" then some .text
  else if s = "integer" then some .integer
  else if s = "float" then some .float
  else if s = "boolean" then some .boolean
  else if s = "date" then some .date
  else if s = "json" then some .json
  else none

@[simp] theorem ofName?_name (t : ColumnType) : ofName? t.name = some t := by
  cases t <;> rfl

/-- The names that declarations use for integers. -/
def integerNames : List String :=
  ["int", "integer", "bigint", "smallint", "tinyint", "serial", "bigserial"]

/-- The names that declarations use for floats. -/
def floatNames : List String :=
  ["float", "real", "double", "double precision", "decimal", "numeric"]

/-- The names that declarations use for dates. -/
def dateNames : List String := ["date", "datetime", "timestamp", "timestamptz"]

/-- The type that a declaration means by a name. A length in parentheses does not count, nor do
blanks around the name and the case of its letters; an unknown name means text. -/
def ofDeclaredName (s : String) : ColumnType :=
  let base := Text.asciiLower (Text.trimmed (String.ofList (s.toList.takeWhile (· ≠ '('))))
  if integerNames.contains base then .integer
  else if floatNames.contains base then .float
  else if ["bool", "boolean"].contains base then .boolean
  else if dateNames.contains base then .date
  else if ["json", "jsonb"].contains base then .json
  else .text

example : ofDeclaredName "VARCHAR(20)" = .text := by decide +kernel
example : ofDeclaredName " BigInt (9)" = .integer := by decide +kernel

end ColumnType

/-- What a table declares about a column. -/
structure Column where
  type : ColumnType
  /-- The declared length. -/
  length : Option UInt32
  /-- Whether `null` may be stored. -/
  nullable : Bool
  /-- Whether the column belongs to the primary key. -/
  primary : Bool
  /-- Whether stored values must be distinct. -/
  unique : Bool
  /-- What a row holds that leaves the column out. -/
  default : Option Value
  /-- Whether numbers are generated, provided the column is primary. -/
  autoIncrement : Bool

namespace Column

/-- A column of a type that accepts `null` and nothing more. -/
def ofType (type : ColumnType) : Column :=
  { type, length := none, nullable := true, primary := false, unique := false, default := none
    autoIncrement := false }

instance : Inhabited Column := ⟨ofType .text⟩

/-- The column with a declared length. -/
def withLength (c : Column) (n : UInt32) : Column := { c with length := some n }

/-- The column without `null`. -/
def notNull (c : Column) : Column := { c with nullable := false }

/-- The column as part of the primary key, which is never `null`. -/
def asPrimary (c : Column) : Column := { c with primary := true, nullable := false }

/-- The column with distinct values. -/
def asUnique (c : Column) : Column := { c with unique := true }

/-- The column with a default. -/
def withDefault (c : Column) (v : Value) : Column := { c with default := some v }

/-- The column with generated numbers. -/
def counting (c : Column) : Column := { c with autoIncrement := true }

/-- Whether the column is the identity of its table. -/
def isIdentity (c : Column) : Bool := c.autoIncrement && c.primary

end Column

/-- A column with its name. -/
structure ColumnDef where
  name : String
  column : Column

instance : Inhabited ColumnDef := ⟨⟨"", default⟩⟩

/-- The columns of a table in their order. -/
abbrev Schema := List ColumnDef

namespace Schema

/-- The schema with a column set: an existing one of the name is replaced, a new one comes last. -/
def withColumn (schema : Schema) (name : String) (column : Column) : Schema :=
  match schema with
  | [] => [⟨name, column⟩]
  | d :: rest =>
    if d.name = name then ⟨name, column⟩ :: rest else d :: Schema.withColumn rest name column

/-- The column of a name. -/
def column? (schema : Schema) (name : String) : Option Column :=
  (schema.find? (·.name = name)).map (·.column)

end Schema

/-- The schemas of a database by the names of their tables. -/
abbrev Schemas := TextMap Schema

end Polystore
