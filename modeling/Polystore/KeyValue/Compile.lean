import Polystore.KeyValue.Key
import Polystore.Error
import Polystore.Query.Codec

/-!
# From queries to operations on buckets

A query becomes an operation on one entry of a bucket. Changes of columns and indexes mean nothing
here.
-/

namespace Polystore.KeyValue

/-- What to do with a bucket. -/
inductive Operation where
  | createBucket
  | get (key : String) (fields : List String)
  /-- Put an entry in place of the one that is there. -/
  | set (key : String) (value : Row)
  /-- Put fields into an entry that is there. -/
  | merge (key : String) (patch : Row)
  | delete (key : String)
  | dropBucket
  | noop

/-- An operation on a named bucket. -/
structure Command where
  bucket : String
  operation : Operation

/-- The operation of a query. -/
def operationOf : Query → Operation
  | .create _ _ => .createBucket
  | .select s => .get (extractKey s.conditions none) (s.fields.getD [])
  | .insert _ data => .set (extractKey none (some data)) data
  | .update _ changes conditions => .merge (extractKey conditions (some changes)) changes
  | .delete _ conditions => .delete (extractKey conditions none)
  | .dropTable _ => .dropBucket
  | .alter _ _ => .noop
  | .createIndex _ _ _ _ => .noop
  | .dropIndex _ _ => .noop

/-- The command of a query. Every query has one. -/
def compile (q : Query) : Outcome (Bound Command) := .ok ⟨⟨q.table, operationOf q⟩, []⟩

/-! ## Commands as documents -/

namespace Operation

/-- The name of the kind of operation. -/
def kindName : Operation → String
  | .createBucket => "create_bucket"
  | .get _ _ => "get"
  | .set _ _ => "set"
  | .merge _ _ => "merge"
  | .delete _ => "delete"
  | .dropBucket => "drop_bucket"
  | .noop => "noop"

/-- The fields of an operation behind its kind. -/
def encodeFields : Operation → List (String × Json)
  | .get key fields => [("key", .text key), ("fields", .ofTexts fields)]
  | .set key value => [("key", .text key), ("value", Row.encode value)]
  | .merge key patch => [("key", .text key), ("patch", Row.encode patch)]
  | .delete key => [("key", .text key)]
  | _ => []

/-- An operation as a document. -/
def encode (o : Operation) : Json := .object (("op", .text o.kindName) :: o.encodeFields)

end Operation

/-- A command as a document. -/
def Command.encode (c : Command) : Json :=
  .object [("bucket", .text c.bucket), ("operation", c.operation.encode)]

end Polystore.KeyValue
