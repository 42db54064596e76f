import Polystore.Column.Coerce
import Polystore.Document.Compile
import Polystore.Index
import Polystore.Statement.Holds

/-!
# The store of documents

The store holds collections by name, each with its documents in the order in which they were added
and its indexes by name. A collection comes into being with its first document. A document always
has an identity under the field that the configuration names; one that is added without receives a
fresh one.

Documents are not typed. A field may be reached through the objects that hold it by a path with
dots; indexes and changes take names as they are.
-/

namespace Polystore.Document

/-- How documents are kept. -/
structure Config where
  /-- The field that holds the identity. -/
  idField : String
  /-- Whether patterns tell capital from small letters. -/
  caseSensitiveLike : Bool
deriving DecidableEq

/-- The identity is under `_id`, and patterns pass over the case of letters. -/
def Config.standard : Config := ⟨"_id", false⟩

/-- A collection of documents. -/
structure Collection where
  documents : List Row
  indexes : TextMap Index

/-- The collection without documents. -/
def Collection.empty : Collection := ⟨[], TextMap.empty⟩

/-- The collections by name. -/
abbrev Store := TextMap Collection

/-- Something that reads and writes the store and may fail. -/
abbrev Step (α : Type) := ExceptT Error (StateM Store) α

/-- What a step comes to, with the store behind it. -/
def Step.outcome {α : Type} (step : Step α) (s : Store) : Outcome α × Store := step.run.run s

/-- A step that only computes. -/
def Step.lift {α : Type} (o : Outcome α) : Step α :=
  match o with
  | .ok a => pure a
  | .error e => throw e

/-- The collection of a name, which must be there. -/
def Step.collection (name : String) : Step Collection := do
  match (← get).get? name with
  | some c => pure c
  | none => throw (.execution <| .collectionNotFound name)

/-- The collection of a name, made now if it is not there. -/
def Step.openCollection (name : String) : Step Collection := do
  match (← get).get? name with
  | some c => pure c
  | none =>
    modify (·.insert name .empty)
    pure .empty

/-! ## Paths and filters -/

/-- The parts of a text between its dots. -/
def segments (current : List Char) : List Char → List String
  | [] => [String.ofList current.reverse]
  | c :: rest =>
    if c == '.' then String.ofList current.reverse :: segments [] rest
    else segments (c :: current) rest

/-- The value that a path leads to from a value, through objects. -/
def descend (v : Value) : List String → Value
  | [] => v
  | name :: rest =>
    match v with
    | .json j =>
      match j.get? name with
      | some inner => descend (Value.ofJson inner) rest
      | none => .null
    | _ => .null

/-- The value of a document at a path; what the path misses reads as `null`. -/
def lookupPath (document : Row) (path : String) : Value :=
  match segments [] path.toList with
  | [] => .null
  | first :: rest =>
    match document.get? first with
    | some v => descend v rest
    | none => .null

namespace Filter

/-- Whether every operator holds of a value, up to the first that does not. -/
def operatorsHold (caseSensitive : Bool) (actual : Value) :
    List (Operator × Value) → Outcome Bool
  | [] => .ok true
  | (op, v) :: rest => do
    if ← (Comparison.ofOperator op).holds caseSensitive actual v then
      operatorsHold caseSensitive actual rest
    else .ok false

mutual

/-- Whether a document meets a filter. -/
def meets (caseSensitive : Bool) (document : Row) : Filter → Outcome Bool
  | .all => .ok true
  | .field name ops => operatorsHold caseSensitive (lookupPath document name) ops
  | .and parts => meetsAll caseSensitive document parts
  | .or parts => meetsAny caseSensitive document parts
  | .not inner => (meets caseSensitive document inner).map (!·)

/-- Whether a document meets every part, up to the first that it does not meet. -/
def meetsAll (caseSensitive : Bool) (document : Row) : List Filter → Outcome Bool
  | [] => .ok true
  | f :: rest => do
    if ← meets caseSensitive document f then meetsAll caseSensitive document rest else .ok false

/-- Whether a document meets some part, up to the first that it meets. -/
def meetsAny (caseSensitive : Bool) (document : Row) : List Filter → Outcome Bool
  | [] => .ok false
  | f :: rest => do
    if ← meets caseSensitive document f then .ok true else meetsAny caseSensitive document rest

end

end Filter

namespace Collection

/-- The collection with its indexes made anew. -/
def reindexed (c : Collection) : Collection :=
  { c with indexes := c.indexes.map (·.rebuilt c.documents) }

/-- The first repeated key of a unique index, with the name of the index. -/
def repeatedKey (documents : List Row) : List (String × Index) → Option (String × String)
  | [] => none
  | (name, index) :: rest =>
    if index.unique then
      match firstRepeated index.columns [] documents with
      | some k => some (name, k)
      | none => repeatedKey documents rest
    else repeatedKey documents rest

/-- No two documents may have one key of a unique index. -/
def checkUnique (c : Collection) (name : String) : Outcome Unit :=
  match repeatedKey c.documents c.indexes.entries with
  | some (index, k) =>
    .error (.execution <| .constraintViolation name
      ("duplicate value '" ++ k ++ "' for unique index " ++ index))
  | none => .ok ()

/-- Every document with the mark whether it meets a filter. -/
def marked (c : Collection) (config : Config) (filter : Filter) : Outcome (List (Row × Bool)) :=
  c.documents.mapM fun d => (filter.meets config.caseSensitiveLike d).map fun m => (d, m)

end Collection

/-! ## Reading -/

/-- A document cut down to some paths. A path stays when it leads to a value or when the document
has a field of this very name. -/
def projected (paths : List String) (document : Row) : Row :=
  TextMap.ofList ((paths.map fun p => (p, lookupPath document p)).filter fun b =>
    !b.2.isNull || document.contains b.1)

/-- The order of two documents by one sort key; a descending key turns the order round. -/
def keyOrder (k : SortKey) (a b : Row) : Ordering :=
  let o := (lookupPath a k.field).sortCompare (lookupPath b k.field)
  match k.direction with
  | .ascending => o
  | .descending => o.swap

/-- The documents that a read brings from a collection, sorted by a given sort. -/
def Collection.findBy (c : Collection) (sort : Rows.Sorting) (config : Config) (f : Finding) :
    Outcome (List Row) := do
  let documents ← c.marked config f.filter
  let hits := (documents.filter (·.2)).map (·.1)
  let shown := Rows.presented sort lookupPath keyOrder f.groupBy f.sort f.skip f.limit hits
  .ok (if f.projection.isEmpty then shown else shown.map (projected f.projection))

/-- The documents that a read brings from a collection. -/
def Collection.find (c : Collection) (config : Config) (f : Finding) : Outcome (List Row) :=
  c.findBy Rows.inserted config f

/-! ## Writing -/

/-- Whether a document lacks an identity. -/
def lacksId (config : Config) (document : Row) : Bool := (document.at config.idField).isNull

/-- A document with an identity: its own, or the fresh one. -/
def identified (config : Config) (freshId : String) (document : Row) : Row :=
  if lacksId config document then document.insert config.idField (.text freshId) else document

/-- Add a document. -/
def insertOne (config : Config) (freshId : String) (name : String) (document : Row) :
    Step Result := do
  -- a collection that is made here stays, also when the document is refused
  let c ← Step.openCollection name
  let d := identified config freshId document
  let next : Collection := { c with documents := c.documents ++ [d] }
  Step.lift (next.checkUnique name)
  modify (·.insert name { next with indexes := c.indexes.map (·.add c.documents.length d) })
  pure { rows := [], affected := 1, insertId := d.get? config.idField }

/-- Set fields of the documents that meet a filter. -/
def updateMany (config : Config) (name : String) (filter : Filter) (set : Row) : Step Result := do
  let c ← Step.collection name
  let documents ← Step.lift (c.marked config filter)
  let next : Collection :=
    { c with documents := documents.map fun d => if d.2 then TextMap.union d.1 set else d.1 }
  Step.lift (next.checkUnique name)
  modify (·.insert name next.reindexed)
  pure (Result.ofAffected (documents.filter (·.2)).length)

/-- Remove the documents that meet a filter. -/
def deleteMany (config : Config) (name : String) (filter : Filter) : Step Result := do
  let c ← Step.collection name
  let documents ← Step.lift (c.marked config filter)
  let next : Collection := { c with documents := (documents.filter (!·.2)).map (·.1) }
  modify (·.insert name next.reindexed)
  pure (Result.ofAffected (documents.filter (·.2)).length)

/-- A document with the value of a field, if it has one, in the representation of a column. -/
def recoerced (name : String) (c : Column) (document : Row) : Outcome Row :=
  match document.get? name with
  | some v => (c.type.coerce name v).map (document.insert name)
  | none => .ok document

/-- A collection after one change: a new column fills in its default where the field is missing, a
dropped one takes the field and the indexes over it along, and a modified one stores present values
in its own representation. -/
def Collection.altered (c : Collection) : Alteration → Outcome Collection
  | .add name column =>
    match column.default with
    | none => .ok c
    | some v =>
      .ok { c with
        documents := c.documents.map fun d => if d.contains name then d else d.insert name v }
  | .drop name =>
    .ok
      { documents := c.documents.map (·.erase name)
        indexes := c.indexes.filter fun _ index => !index.columns.contains name }
  | .modify name column => do
    let documents ← c.documents.mapM (recoerced name column)
    .ok { c with documents }

/-- Change the documents as if their columns changed. -/
def alter (name : String) (alterations : List Alteration) : Step Result := do
  let c ← Step.collection name
  let next ← Step.lift (alterations.foldlM Collection.altered c)
  modify (·.insert name next.reindexed)
  pure Result.done

/-- Make an index; one that is there stays as it is. -/
def createIndex (name index : String) (fields : List String) (unique : Bool) : Step Result := do
  let c ← Step.openCollection name
  if c.indexes.contains index then pure Result.done
  else
    let next : Collection :=
      { c with indexes := c.indexes.insert index (Index.build fields unique c.documents) }
    Step.lift (next.checkUnique name)
    modify (·.insert name next)
    pure Result.done

/-- Remove an index, if it is there. -/
def dropIndex (name index : String) : Step Result := do
  match (← get).get? name with
  | some c => modify (·.insert name { c with indexes := c.indexes.erase index })
  | none => pure ()
  pure Result.done

/-- Run a command. A document that is added without an identity receives `freshId`. -/
def apply (config : Config) (freshId : String) (command : Command) : Step Result :=
  let name := command.collection
  match command.operation with
  | .createCollection _ => do
    let _ ← Step.openCollection name
    pure Result.done
  | .find f => do
    let c ← Step.collection name
    let rows ← Step.lift (c.find config f)
    pure (Result.ofRows rows)
  | .insertOne document => insertOne config freshId name document
  | .updateMany filter set => updateMany config name filter set
  | .deleteMany filter => deleteMany config name filter
  | .alter alterations => alter name alterations
  | .dropCollection => do
    modify (·.erase name)
    pure Result.done
  | .createIndex index fields unique => createIndex name index fields unique
  | .dropIndex index => dropIndex name index

namespace Store

/-- The store without collections. -/
def empty : Store := TextMap.empty

/-- What a command comes to, with the store behind it. -/
def run (s : Store) (config : Config) (freshId : String) (command : Command) :
    Outcome Result × Store :=
  (apply config freshId command).outcome s

end Store

end Polystore.Document
