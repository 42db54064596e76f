import Polystore.Query.Codec
import Polystore.Statement.Basic

/-!
# Statements as documents

A statement is a document whose tag `statement` names its kind. A place for a value has its `kind`
beside its `value`, and a predicate is an object with one field, named for the kind of predicate.
-/

namespace Polystore

namespace Operand

mutual

/-- A place as a document. -/
def encode : Operand → Json
  | .param index => .object [("kind", .text "param"), ("value", .ofNat64 (.ofNat index))]
  | .literal v => .object [("kind", .text "literal"), ("value", v.encode)]
  | .list items => .object [("kind", .text "list"), ("value", .array (encodeItems items))]

/-- The places of a list as documents. -/
def encodeItems : List Operand → List Json
  | [] => []
  | item :: rest => encode item :: encodeItems rest

end

/-- The names of the kinds of place. -/
def kindNames : List String := ["param", "literal", "list"]

/-- How the value among the fields of a place is read: leniently when it stands in front of the
kind, else in the manner of the place. -/
def valueManner (manner : Manner) : List (String × Json) → Manner
  | [] => manner
  | (key, _) :: rest =>
    if key = "value" then .lenient
    else if key = "kind" then manner
    else valueManner manner rest

/-- The kind of a place, its value, and how the value is read. A place is an object with both, or
the array of the two. -/
def parts? (manner : Manner) : Json → Option (String × Json × Manner)
  | .object fields => do
    let kind ← (Json.field? "kind" fields).bind (Json.bareName? manner)
    let value ← Json.field? "value" fields
    some (kind, value, valueManner manner fields)
  | .array [tag, value] => (tag.tagName? manner kindNames).map (·, value, manner)
  | _ => none

mutual

/-- The place that a document describes; `fuel` bounds how deep lists are nested in it. -/
def decodeWithin : Nat → Manner → Json → Option Operand
  | 0, _, _ => none
  | fuel + 1, manner, j => do
    let (kind, value, manner) ← parts? manner j
    if kind = "param" then (value.asNatBelow? (2 ^ 64)).map .param
    else if kind = "literal" then some (.literal (Value.ofJson value))
    else if kind = "list" then
      match value with
      | .array items => (decodeItemsWithin fuel manner items).map .list
      | _ => none
    else none

/-- The places that the documents of a list describe. -/
def decodeItemsWithin : Nat → Manner → List Json → Option (List Operand)
  | 0, _, _ => none
  | _ + 1, _, [] => some []
  | fuel + 1, manner, j :: rest => do
    let item ← decodeWithin fuel manner j
    let items ← decodeItemsWithin fuel manner rest
    some (item :: items)

end

/-- The place that a document describes. -/
def decode? (manner : Manner) (j : Json) : Option Operand := decodeWithin (j.nodes + 1) manner j

end Operand

/-- The comparison that a document names. -/
def Comparison.decode? (manner : Manner) (j : Json) : Option Comparison :=
  (j.bareName? manner).bind ofName?

namespace Predicate

/-- An object with one field. -/
def tagged (key : String) (value : Json) : Json := .object [(key, value)]

mutual

/-- A predicate as a document. -/
def encode : Predicate → Json
  | .compare column op operand =>
    tagged "compare"
      (.object [("column", .text column), ("op", .text op.name), ("value", operand.encode)])
  | .isNull column negated =>
    tagged "is_null" (.object [("column", .text column), ("negated", .bool negated)])
  | .between column low high negated =>
    tagged "between"
      (.object [("column", .text column), ("low", low.encode), ("high", high.encode),
        ("negated", .bool negated)])
  | .and parts => tagged "and" (.array (encodeParts parts))
  | .or parts => tagged "or" (.array (encodeParts parts))
  | .not inner => tagged "not" (encode inner)
  | .literal truth => tagged "literal" (.bool truth)

/-- The parts of a predicate as documents. -/
def encodeParts : List Predicate → List Json
  | [] => []
  | p :: rest => encode p :: encodeParts rest

end

/-- Reads the members of a comparison. -/
def compareReader : Members.Reader Predicate := do
  let column ← Members.required "column" Json.asText?
  let op ← Members.required "op" (Comparison.decode? .lenient)
  let operand ← Members.required "value" (Operand.decode? .lenient)
  return .compare column op operand

/-- Reads the members of a test for `null`. -/
def isNullReader : Members.Reader Predicate := do
  let column ← Members.required "column" Json.asText?
  let negated ← Members.required "negated" Json.asBool?
  return .isNull column negated

/-- Reads the members of a test of a range. -/
def betweenReader : Members.Reader Predicate := do
  let column ← Members.required "column" Json.asText?
  let low ← Members.required "low" (Operand.decode? .lenient)
  let high ← Members.required "high" (Operand.decode? .lenient)
  let negated ← Members.required "negated" Json.asBool?
  return .between column low high negated

/-- The predicate of a kind without predicates in it. -/
def decodeLeaf (kind : String) (body : Json) : Option Predicate :=
  if kind = "compare" then body.record? compareReader
  else if kind = "is_null" then body.record? isNullReader
  else if kind = "between" then body.record? betweenReader
  else if kind = "literal" then body.asBool?.map .literal
  else none

mutual

/-- The predicate that a document describes. Predicates stand in statements only, so they are read
leniently. -/
def decode? : Json → Option Predicate
  | .object [(kind, .array items)] =>
    if kind = "and" then (decodeParts items).map .and
    else if kind = "or" then (decodeParts items).map .or
    else decodeLeaf kind (.array items)
  | .object [(kind, .object fields)] =>
    if kind = "not" then (decode? (.object fields)).map .not
    else decodeLeaf kind (.object fields)
  | .object [(kind, body)] => decodeLeaf kind body
  | _ => none

/-- The predicates that the documents of a list describe. -/
def decodeParts : List Json → Option (List Predicate)
  | [] => some []
  | j :: rest => do
    let p ← decode? j
    let ps ← decodeParts rest
    some (p :: ps)

end

end Predicate

/-- A part of a statement that is written as `null` when it is missing. -/
def nullable {α : Type} (encode : α → Json) : Option α → Json
  | some a => encode a
  | none => .null

namespace SelectStatement

/-- The fields of a read. -/
def encodeFields (s : SelectStatement) : List (String × Json) :=
  [("table", .text s.table), ("fields", .ofTexts s.fields),
    ("filter", nullable Predicate.encode s.filter), ("group_by", .ofTexts s.groupBy),
    ("order_by", .array (s.orderBy.map SortKey.encode)), ("limit", nullable Json.ofUInt64 s.limit),
    ("offset", nullable Json.ofUInt64 s.offset)]

/-- Reads the members of a read. -/
def reader : Members.Reader SelectStatement := do
  let table ← Members.required "table" Json.asText?
  let fields ← Members.required "fields" (Json.asListOf? Json.asText?)
  let filter ← Members.nullable "filter" Predicate.decode?
  let groupBy ← Members.required "group_by" (Json.asListOf? Json.asText?)
  let orderBy ← Members.required "order_by" (Json.asListOf? (SortKey.decode? .lenient))
  let limit ← Members.nullable "limit" Json.asUInt64?
  let offset ← Members.nullable "offset" Json.asUInt64?
  return { table, fields, filter, groupBy, orderBy, limit, offset }

end SelectStatement

namespace Statement

/-- The name of the kind of statement. -/
def kindName : Statement → String
  | .createTable _ _ _ => "create_table"
  | .createIndex _ _ _ _ _ => "create_index"
  | .insert _ _ _ => "insert"
  | .select _ => "select"
  | .update _ _ _ => "update"
  | .delete _ _ => "delete"
  | .alterTable _ _ => "alter_table"
  | .dropTable _ _ => "drop_table"
  | .dropIndex _ _ _ => "drop_index"

/-- A column with its new value as a document. -/
def encodeAssignment (a : String × Operand) : Json := .array [.text a.1, a.2.encode]

/-- The fields of a statement behind its kind. -/
def encodeFields : Statement → List (String × Json)
  | .createTable table columns ifNotExists =>
    [("table", .text table), ("columns", Schema.encode columns),
      ("if_not_exists", .bool ifNotExists)]
  | .createIndex table index columns unique ifNotExists =>
    [("table", .text table), ("index", .text index), ("columns", .ofTexts columns),
      ("unique", .bool unique), ("if_not_exists", .bool ifNotExists)]
  | .insert table columns values =>
    [("table", .text table), ("columns", .ofTexts columns),
      ("values", .array (values.map Operand.encode))]
  | .select s => s.encodeFields
  | .update table assignments filter =>
    [("table", .text table), ("assignments", .array (assignments.map encodeAssignment)),
      ("filter", nullable Predicate.encode filter)]
  | .delete table filter =>
    [("table", .text table), ("filter", nullable Predicate.encode filter)]
  | .alterTable table alterations =>
    [("table", .text table), ("alterations", .array (alterations.map Alteration.encode))]
  | .dropTable table ifExists => [("table", .text table), ("if_exists", .bool ifExists)]
  | .dropIndex table index ifExists =>
    [("table", .text table), ("index", .text index), ("if_exists", .bool ifExists)]

/-- A statement as a document. -/
def encode (s : Statement) : Json :=
  .object (("statement", .text s.kindName) :: s.encodeFields)

/-- The column and its new value that a document describes. -/
def decodeAssignment : Json → Option (String × Operand)
  | .array [.text column, operand] => (Operand.decode? .lenient operand).map (column, ·)
  | _ => none

/-- The names of the kinds of statement. -/
def kindNames : List String :=
  ["create_table", "create_index", "insert", "select", "update", "delete", "alter_table",
    "drop_table", "drop_index"]

/-- Reads the members of a statement of a kind. -/
def reader (kind : String) : Members.Reader Statement :=
  if kind = "select" then do
    let s ← SelectStatement.reader
    return .select s
  else do
    let table ← Members.required "table" Json.asText?
    if kind = "create_table" then
      let columns ← Members.required "columns" Schema.decode?
      let ifNotExists ← Members.required "if_not_exists" Json.asBool?
      return .createTable table columns ifNotExists
    else if kind = "create_index" then
      let index ← Members.required "index" Json.asText?
      let columns ← Members.required "columns" (Json.asListOf? Json.asText?)
      let unique ← Members.required "unique" Json.asBool?
      let ifNotExists ← Members.required "if_not_exists" Json.asBool?
      return .createIndex table index columns unique ifNotExists
    else if kind = "insert" then
      let columns ← Members.required "columns" (Json.asListOf? Json.asText?)
      let values ← Members.required "values" (Json.asListOf? (Operand.decode? .lenient))
      return .insert table columns values
    else if kind = "update" then
      let assignments ← Members.required "assignments" (Json.asListOf? decodeAssignment)
      let filter ← Members.nullable "filter" Predicate.decode?
      return .update table assignments filter
    else if kind = "delete" then
      let filter ← Members.nullable "filter" Predicate.decode?
      return .delete table filter
    else if kind = "alter_table" then
      let alterations ← Members.required "alterations"
        (Json.asListOf? (Alteration.decode? .lenient))
      return .alterTable table alterations
    else if kind = "drop_table" then
      let ifExists ← Members.required "if_exists" Json.asBool?
      return .dropTable table ifExists
    else if kind = "drop_index" then
      let index ← Members.required "index" Json.asText?
      let ifExists ← Members.required "if_exists" Json.asBool?
      return .dropIndex table index ifExists
    else failure

/-- The statement that a document describes. -/
def decode? (j : Json) : Option Statement := do
  let (kind, members) ← j.tagged? .strict "statement" kindNames
  members.readAll (reader kind)

end Statement

end Polystore
