import Polystore.Column.Basic
import Polystore.Json.Members

/-!
# Columns as documents

A column is written as an object with its type first. Length and default are left out when there
are none; when reading, flags that are missing have their usual meaning. A column can be read from a
list of its members as well, but a column with its name only from an object.
-/

namespace Polystore

/-- The type that a document names. -/
def ColumnType.decode? (manner : Manner) (j : Json) : Option ColumnType :=
  (j.bareName? manner).bind ofName?

namespace Column

/-- The fields of a column. -/
def encodeFields (c : Column) : List (String × Json) :=
  [("type", .text c.type.name)] ++
  (match c.length with
    | some n => [("length", .ofNat64 n.toUInt64)]
    | none => []) ++
  [("nullable", .bool c.nullable), ("primary", .bool c.primary), ("unique", .bool c.unique)] ++
  (match c.default with
    | some v => [("default", v.encode)]
    | none => []) ++
  [("auto_increment", .bool c.autoIncrement)]

/-- A column as a document. -/
def encode (c : Column) : Json := .object c.encodeFields

/-- Reads the members of a column. -/
def reader (manner : Manner) : Members.Reader Column := do
  let type ← Members.required "type" (ColumnType.decode? manner)
  let length ← Members.optional "length" Json.asUInt32?
  let nullable ← Members.defaulted "nullable" Json.asBool? true
  let primary ← Members.defaulted "primary" Json.asBool? false
  let unique ← Members.defaulted "unique" Json.asBool? false
  let default ← Members.optional "default" fun v => some (Value.ofJson v)
  let autoIncrement ← Members.defaulted "auto_increment" Json.asBool? false
  return { type, length, nullable, primary, unique, default, autoIncrement }

/-- The column that a document describes. -/
def decode? (manner : Manner) (j : Json) : Option Column := j.record? (reader manner)

end Column

namespace ColumnDef

/-- A named column as a document: the name in front of the fields of the column. -/
def encode (d : ColumnDef) : Json := .object (("name", .text d.name) :: d.column.encodeFields)

/-- The named column that the fields of an object describe. The members of the column stand beside
the name and are read leniently. -/
def decode? : Json → Option ColumnDef
  | .object fields => do
    let name ← (Json.field? "name" fields).bind Json.asText?
    let column ← Members.readAll (Column.reader .lenient) (.named fields)
    some { name, column }
  | _ => none

end ColumnDef

namespace Schema

/-- A schema as a document. -/
def encode (schema : Schema) : Json := .array (schema.map ColumnDef.encode)

/-- The schema that a document describes. -/
def decode? (j : Json) : Option Schema := j.asListOf? ColumnDef.decode?

end Schema

/-- Schemas as a document, by ascending names. -/
def Schemas.encode (schemas : Schemas) : Json :=
  .object (schemas.entries.map fun b => (b.1, Schema.encode b.2))

/-- The schemas that a document describes. -/
def Schemas.decode? (j : Json) : Option Schemas := do
  let fields ← j.asFields?
  let bindings ← fields.mapM fun f => (Schema.decode? f.2).map (f.1, ·)
  some (TextMap.ofList bindings)

/-- The row that a document describes. -/
def Row.decode? (j : Json) : Option Row :=
  j.asFields?.map fun fields => TextMap.ofList (fields.map fun f => (f.1, Value.ofJson f.2))

end Polystore
