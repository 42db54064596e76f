import Polystore.Column.Codec
import Polystore.Condition.Codec
import Polystore.Query.Basic

/-!
# Queries as documents

A query is a document whose tag `type` names its kind. Parts that are missing have their usual
meaning and are left out when writing.
-/

namespace Polystore

namespace Direction

/-- The name of a direction. -/
def name : Direction → String
  | .ascending => "asc"
  | .descending => "desc"

/-- The direction of a name. -/
def ofName? (s : String) : Option Direction :=
  if s = "asc" then some .ascending
  else if s = "desc" then some .descending
  else none

/-- The direction that a document names. -/
def decode? (manner : Manner) (j : Json) : Option Direction := (j.bareName? manner).bind ofName?

end Direction

namespace SortKey

/-- A field to sort by as a document. -/
def encode (k : SortKey) : Json :=
  .object [("field", .text k.field), ("direction", .text k.direction.name)]

/-- The field to sort by that a document describes. -/
def decode? (manner : Manner) : Json → Option SortKey :=
  Json.record? do
    let field ← Members.required "field" Json.asText?
    let direction ← Members.defaulted "direction" (Direction.decode? manner) .ascending
    return { field, direction }

end SortKey

namespace Alteration

/-- A change as a document. -/
def encode : Alteration → Json
  | .add name column =>
    .object [("action", .text "add"), ("name", .text name), ("column", column.encode)]
  | .drop name => .object [("action", .text "drop"), ("name", .text name)]
  | .modify name column =>
    .object [("action", .text "modify"), ("name", .text name), ("column", column.encode)]

/-- The names of the kinds of change. -/
def kindNames : List String := ["add", "drop", "modify"]

/-- Reads the members of a change of a kind. -/
def reader (kind : String) : Members.Reader Alteration := do
  let name ← Members.required "name" Json.asText?
  if kind = "add" then
    let column ← Members.required "column" (Column.decode? .lenient)
    return .add name column
  else if kind = "drop" then return .drop name
  else if kind = "modify" then
    let column ← Members.required "column" (Column.decode? .lenient)
    return .modify name column
  else failure

/-- The change that a document describes. -/
def decode? (manner : Manner) (j : Json) : Option Alteration := do
  let (kind, members) ← j.tagged? manner "action" kindNames
  members.readAll (reader kind)

end Alteration

/-- The condition that a document describes, the cause of a failure forgotten. -/
def Condition.decode? (j : Json) : Option Condition := (Condition.ofJson j).toOption

/-- A field that is left out when there is nothing to write. -/
def optionalField (key : String) (value : Option Json) : List (String × Json) :=
  match value with
  | some j => [(key, j)]
  | none => []

/-- A field that is left out when its list is empty. -/
def listField (key : String) (items : List Json) : List (String × Json) :=
  if items.isEmpty then [] else [(key, .array items)]

namespace Selection

/-- The fields of a selection. -/
def encodeFields (s : Selection) : List (String × Json) :=
  [("table_name", .text s.table)] ++
  optionalField "conditions" (s.conditions.map Condition.toJson) ++
  optionalField "fields" (s.fields.map Json.ofTexts) ++
  listField "orderings" (s.orderings.map SortKey.encode) ++
  listField "groupings" (s.groupings.map .text) ++
  optionalField "limit_count" (s.limit.map Json.ofUInt64) ++
  optionalField "offset_count" (s.offset.map Json.ofUInt64)

/-- Reads the members of a selection. -/
def reader (manner : Manner) : Members.Reader Selection := do
  let table ← Members.required "table_name" Json.asText?
  let conditions ← Members.optional "conditions" Condition.decode?
  let fields ← Members.optional "fields" (Json.asListOf? Json.asText?)
  let orderings ← Members.defaulted "orderings" (Json.asListOf? (SortKey.decode? manner)) []
  let groupings ← Members.defaulted "groupings" (Json.asListOf? Json.asText?) []
  let limit ← Members.optional "limit_count" Json.asUInt64?
  let offset ← Members.optional "offset_count" Json.asUInt64?
  return { table, conditions, fields, orderings, groupings, limit, offset }

/-- The selection that a document describes. -/
def decode? (manner : Manner) (j : Json) : Option Selection := j.record? (reader manner)

end Selection

namespace Query

/-- The fields of a query behind its type. -/
def encodeFields : Query → List (String × Json)
  | .create table schema => [("table_name", .text table), ("schema", Schema.encode schema)]
  | .select selection => selection.encodeFields
  | .insert table data => [("table_name", .text table), ("data", Row.encode data)]
  | .update table changes conditions =>
    [("table_name", .text table), ("update", Row.encode changes)] ++
      optionalField "conditions" (conditions.map Condition.toJson)
  | .delete table conditions =>
    [("table_name", .text table)] ++ optionalField "conditions" (conditions.map Condition.toJson)
  | .alter table alterations =>
    [("table_name", .text table), ("alterations", .array (alterations.map Alteration.encode))]
  | .dropTable table => [("table_name", .text table)]
  | .dropIndex table index => [("table_name", .text table), ("index_name", .text index)]
  | .createIndex table index columns unique =>
    [("table_name", .text table), ("index_name", .text index), ("columns", .ofTexts columns),
      ("unique", .bool unique)]

/-- A query as a document. -/
def encode (q : Query) : Json := .object (("type", .text q.kindName) :: q.encodeFields)

/-- The names of the kinds of query. -/
def kindNames : List String :=
  ["create", "select", "insert", "update", "delete", "alter", "drop_table", "drop_index",
    "create_index"]

/-- Reads the members of a query of a kind. -/
def reader (kind : String) : Members.Reader Query :=
  if kind = "select" then do
    let selection ← Selection.reader .lenient
    return .select selection
  else do
    let table ← Members.required "table_name" Json.asText?
    if kind = "create" then
      let schema ← Members.required "schema" Schema.decode?
      return .create table schema
    else if kind = "insert" then
      let data ← Members.required "data" Row.decode?
      return .insert table data
    else if kind = "update" then
      let changes ← Members.required "update" Row.decode?
      let conditions ← Members.optional "conditions" Condition.decode?
      return .update table changes conditions
    else if kind = "delete" then
      let conditions ← Members.optional "conditions" Condition.decode?
      return .delete table conditions
    else if kind = "alter" then
      let alterations ← Members.required "alterations"
        (Json.asListOf? (Alteration.decode? .lenient))
      return .alter table alterations
    else if kind = "drop_table" then return .dropTable table
    else if kind = "drop_index" then
      let index ← Members.required "index_name" Json.asText?
      return .dropIndex table index
    else if kind = "create_index" then
      let index ← Members.required "index_name" Json.asText?
      let columns ← Members.required "columns" (Json.asListOf? Json.asText?)
      let unique ← Members.defaulted "unique" Json.asBool? false
      return .createIndex table index columns unique
    else failure

/-- The query that a document describes. -/
def decode? (j : Json) : Option Query := do
  let (kind, members) ← j.tagged? .strict "type" kindNames
  members.readAll (reader kind)

end Query

end Polystore
