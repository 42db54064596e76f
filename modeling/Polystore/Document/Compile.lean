import Polystore.Document.Filter
import Polystore.Query.Codec

/-!
# From queries to operations on collections

A query becomes an operation on one collection of documents. Values stay in the operation, so
nothing is bound.
-/

namespace Polystore.Document

/-- What is read from a collection. -/
structure Finding where
  filter : Filter
  /-- The fields to show; none show all. -/
  projection : List String
  sort : List SortKey
  groupBy : List String
  skip : Option UInt64
  limit : Option UInt64

/-- What to do with a collection. -/
inductive Operation where
  | createCollection (schema : Schema)
  | find (f : Finding)
  | insertOne (document : Row)
  | updateMany (filter : Filter) (set : Row)
  | deleteMany (filter : Filter)
  | alter (alterations : List Alteration)
  | dropCollection
  | createIndex (name : String) (fields : List String) (unique : Bool)
  | dropIndex (name : String)

/-- An operation on a named collection. -/
structure Command where
  collection : String
  operation : Operation

/-- The operation of a query. -/
def operationOf : Query → Outcome Operation
  | .create _ schema => .ok (.createCollection schema)
  | .select s => do
    let filter ← Filter.ofConditions? s.conditions
    .ok (.find
      { filter, projection := s.fields.getD [], sort := s.orderings, groupBy := s.groupings
        skip := s.offset, limit := s.limit })
  | .insert _ data => .ok (.insertOne data)
  | .update _ changes conditions => do
    let filter ← Filter.ofConditions? conditions
    .ok (.updateMany filter changes)
  | .delete _ conditions => do
    let filter ← Filter.ofConditions? conditions
    .ok (.deleteMany filter)
  | .alter _ alterations => .ok (.alter alterations)
  | .dropTable _ => .ok .dropCollection
  | .dropIndex _ index => .ok (.dropIndex index)
  | .createIndex _ index columns unique => .ok (.createIndex index columns unique)

/-- The command of a query. -/
def compile (q : Query) : Outcome (Bound Command) :=
  (operationOf q).map fun operation => ⟨⟨q.table, operation⟩, []⟩

/-! ## Commands as documents -/

namespace Operation

/-- The name of the kind of operation. -/
def kindName : Operation → String
  | .createCollection _ => "create_collection"
  | .find _ => "find"
  | .insertOne _ => "insert_one"
  | .updateMany _ _ => "update_many"
  | .deleteMany _ => "delete_many"
  | .alter _ => "alter"
  | .dropCollection => "drop_collection"
  | .createIndex _ _ _ => "create_index"
  | .dropIndex _ => "drop_index"

/-- A count that is written as `null` when it is missing. -/
def countJson : Option UInt64 → Json
  | some n => .ofNat64 n
  | none => .null

/-- The fields of an operation behind its kind. -/
def encodeFields : Operation → List (String × Json)
  | .createCollection schema => [("schema", Schema.encode schema)]
  | .find f =>
    [("filter", f.filter.toJson), ("projection", .ofTexts f.projection),
      ("sort", .array (f.sort.map SortKey.encode)), ("group_by", .ofTexts f.groupBy),
      ("skip", countJson f.skip), ("limit", countJson f.limit)]
  | .insertOne document => [("document", Row.encode document)]
  | .updateMany filter set => [("filter", filter.toJson), ("set", Row.encode set)]
  | .deleteMany filter => [("filter", filter.toJson)]
  | .alter alterations => [("alterations", .array (alterations.map Alteration.encode))]
  | .dropCollection => []
  | .createIndex name fields unique =>
    [("name", .text name), ("fields", .ofTexts fields), ("unique", .bool unique)]
  | .dropIndex name => [("name", .text name)]

/-- An operation as a document. -/
def encode (o : Operation) : Json := .object (("op", .text o.kindName) :: o.encodeFields)

end Operation

/-- A command as a document. -/
def Command.encode (c : Command) : Json :=
  .object [("collection", .text c.collection), ("operation", c.operation.encode)]

end Polystore.Document
