import Polystore.Proofs.Document.Failure

/-!
# What a command on documents does

A command that fails has changed nothing. A command that succeeds reads a collection, puts another
one in its place, or takes it away, and `Effect` says which, with everything that was checked on the
way. A command that makes an index or adds a document opens its collection first; a collection that
was not there counts as one without documents and indexes.
-/

namespace Polystore.Document

open Steps

/-! ## Collections -/

/-- The collection of a name; one that is not there is empty. -/
def Store.collectionOf (s : Store) (name : String) : Collection := (s.get? name).getD .empty

/-- The collection with other documents. -/
def Collection.withDocuments (c : Collection) (documents : List Row) : Collection :=
  { c with documents }

/-- The collection with one more document, which goes into its indexes. -/
def Collection.added (c : Collection) (document : Row) : Collection :=
  { documents := c.documents ++ [document]
    indexes := c.indexes.map (·.add c.documents.length document) }

/-- The collection with one more index, made of its documents. -/
def Collection.withIndex (c : Collection) (index : String) (fields : List String) (unique : Bool) :
    Collection :=
  { c with indexes := c.indexes.insert index (Index.build fields unique c.documents) }

/-- The documents with the fields of those that are marked set. -/
def setMarked (set : Row) (documents : List (Row × Bool)) : List Row :=
  documents.map fun d => if d.2 then TextMap.union d.1 set else d.1

/-- The documents that are not marked. -/
def unmarked (documents : List (Row × Bool)) : List Row := (documents.filter (!·.2)).map (·.1)

/-! ## Steps on the store -/

namespace Step

theorem run_lift_bind_eq_ok {α β : Type} {o : Outcome α} {f : α → Step β} {b : β}
    {s s' : Store} :
    (lift o >>= f).run.run s = (.ok b, s') ↔
      ∃ a, o = .ok a ∧ (f a).run.run s = (.ok b, s') := by
  have lifted : (lift o).run.run s = (o, s) := by
    cases o <;> rfl
  rw [run_bind_eq_ok, lifted]
  constructor
  · rintro ⟨a, t, same, h⟩
    cases same
    exact ⟨a, rfl, h⟩
  · rintro ⟨a, rfl, h⟩
    exact ⟨a, s, rfl, h⟩

theorem run_collection_bind_eq_ok {β : Type} {name : String} {f : Collection → Step β} {b : β}
    {s s' : Store} :
    (collection name >>= f).run.run s = (.ok b, s') ↔
      ∃ c, s.get? name = some c ∧ (f c).run.run s = (.ok b, s') := by
  have looked : (collection name).run.run s =
      ((s.get? name).elim (.error (.execution (.collectionNotFound name))) .ok, s) := by
    rw [collection, run_get_bind]
    cases s.get? name <;> rfl
  rw [run_bind_eq_ok, looked]
  constructor
  · rintro ⟨c, t, same, h⟩
    cases found : s.get? name with
    | none =>
      rw [found] at same
      cases same
    | some d =>
      rw [found] at same
      cases same
      exact ⟨_, rfl, h⟩
  · rintro ⟨c, found, h⟩
    exact ⟨c, s, by rw [found]; rfl, h⟩

/-- A collection that is opened is there afterwards, as it was. -/
theorem run_openCollection_bind {β : Type} (name : String) (f : Collection → Step β) (s : Store) :
    (openCollection name >>= f).run.run s =
      (f (s.collectionOf name)).run.run (s.insert name (s.collectionOf name)) := by
  rw [run_bind, run_openCollection, Store.collectionOf]
  cases found : s.get? name with
  | none => rfl
  | some c =>
    have same : TextMap.insert s name c = s := TextMap.insert_of_get? found
    show (f c).run.run s = (f c).run.run (TextMap.insert s name c)
    rw [same]

end Step

/-! ## The effects -/

/-- What an operation on the collection of a name that succeeds has done: its result, and the store
behind it. -/
inductive Effect (config : Config) (freshId : String) (s : Store) (name : String) :
    Operation → Result → Store → Prop
  | opened {schema : Schema} :
      Effect config freshId s name (.createCollection schema) Result.done
        (s.insert name (s.collectionOf name))
  | found {f : Finding} {c : Collection} {rows : List Row} (there : s.get? name = some c)
      (read : c.find config f = .ok rows) :
      Effect config freshId s name (.find f) (Result.ofRows rows) s
  | inserted {document d : Row} (identity : d = identified config freshId document)
      (fits : ((s.collectionOf name).withDocuments
        ((s.collectionOf name).documents ++ [d])).checkUnique name = .ok ()) :
      Effect config freshId s name (.insertOne document)
        { rows := [], affected := 1, insertId := d.get? config.idField }
        (s.insert name ((s.collectionOf name).added d))
  | updated {filter : Filter} {set : Row} {c : Collection} {documents : List (Row × Bool)}
      (there : s.get? name = some c) (marked : c.marked config filter = .ok documents)
      (fits : (c.withDocuments (setMarked set documents)).checkUnique name = .ok ()) :
      Effect config freshId s name (.updateMany filter set)
        (Result.ofAffected (documents.filter (·.2)).length)
        (s.insert name (c.withDocuments (setMarked set documents)).reindexed)
  | deleted {filter : Filter} {c : Collection} {documents : List (Row × Bool)}
      (there : s.get? name = some c) (marked : c.marked config filter = .ok documents) :
      Effect config freshId s name (.deleteMany filter)
        (Result.ofAffected (documents.filter (·.2)).length)
        (s.insert name (c.withDocuments (unmarked documents)).reindexed)
  | altered {alterations : List Alteration} {c next : Collection}
      (there : s.get? name = some c) (made : alterations.foldlM Collection.altered c = .ok next) :
      Effect config freshId s name (.alter alterations) Result.done
        (s.insert name next.reindexed)
  | dropped : Effect config freshId s name .dropCollection Result.done (s.erase name)
  | indexThere {index : String} {fields : List String} {unique : Bool}
      (taken : (s.collectionOf name).indexes.contains index = true) :
      Effect config freshId s name (.createIndex index fields unique) Result.done
        (s.insert name (s.collectionOf name))
  | indexMade {index : String} {fields : List String} {unique : Bool}
      (free : (s.collectionOf name).indexes.contains index = false)
      (fits : ((s.collectionOf name).withIndex index fields unique).checkUnique name = .ok ()) :
      Effect config freshId s name (.createIndex index fields unique) Result.done
        (s.insert name ((s.collectionOf name).withIndex index fields unique))
  | indexDropped {index : String} {c : Collection} (there : s.get? name = some c) :
      Effect config freshId s name (.dropIndex index) Result.done
        (s.insert name { c with indexes := c.indexes.erase index })
  | noCollection {index : String} (missing : s.get? name = none) :
      Effect config freshId s name (.dropIndex index) Result.done s

variable {config : Config} {freshId : String} {s s' : Store} {name : String} {r : Result}

theorem insertOne_effect {document : Row}
    (h : (insertOne config freshId name document).run.run s = (.ok r, s')) :
    Effect config freshId s name (.insertOne document) r s' := by
  rw [insertOne, Step.run_openCollection_bind] at h
  obtain ⟨_, fits, h⟩ := Step.run_lift_bind_eq_ok.mp h
  obtain ⟨rfl, rfl⟩ := run_write_eq_ok.mp h
  rw [TextMap.insert_insert]
  exact .inserted rfl fits

theorem updateMany_effect {filter : Filter} {set : Row}
    (h : (updateMany config name filter set).run.run s = (.ok r, s')) :
    Effect config freshId s name (.updateMany filter set) r s' := by
  obtain ⟨c, there, h⟩ := Step.run_collection_bind_eq_ok.mp h
  obtain ⟨documents, marked, h⟩ := Step.run_lift_bind_eq_ok.mp h
  obtain ⟨_, fits, h⟩ := Step.run_lift_bind_eq_ok.mp h
  obtain ⟨rfl, rfl⟩ := run_write_eq_ok.mp h
  exact .updated there marked fits

theorem deleteMany_effect {filter : Filter}
    (h : (deleteMany config name filter).run.run s = (.ok r, s')) :
    Effect config freshId s name (.deleteMany filter) r s' := by
  obtain ⟨c, there, h⟩ := Step.run_collection_bind_eq_ok.mp h
  obtain ⟨documents, marked, h⟩ := Step.run_lift_bind_eq_ok.mp h
  obtain ⟨rfl, rfl⟩ := run_write_eq_ok.mp h
  exact .deleted there marked

theorem alter_effect {alterations : List Alteration}
    (h : (alter name alterations).run.run s = (.ok r, s')) :
    Effect config freshId s name (.alter alterations) r s' := by
  obtain ⟨c, there, h⟩ := Step.run_collection_bind_eq_ok.mp h
  obtain ⟨next, made, h⟩ := Step.run_lift_bind_eq_ok.mp h
  obtain ⟨rfl, rfl⟩ := run_write_eq_ok.mp h
  exact .altered there made

theorem createIndex_effect {index : String} {fields : List String} {unique : Bool}
    (h : (createIndex name index fields unique).run.run s = (.ok r, s')) :
    Effect config freshId s name (.createIndex index fields unique) r s' := by
  rw [createIndex, Step.run_openCollection_bind] at h
  split at h
  · rename_i taken
    obtain ⟨rfl, rfl⟩ := run_pure_eq_ok.mp h
    exact .indexThere taken
  · rename_i free
    obtain ⟨_, fits, h⟩ := Step.run_lift_bind_eq_ok.mp h
    obtain ⟨rfl, rfl⟩ := run_write_eq_ok.mp h
    rw [TextMap.insert_insert]
    exact .indexMade (Bool.eq_false_iff.mpr free) fits

theorem dropIndex_effect {index : String}
    (h : (dropIndex name index).run.run s = (.ok r, s')) :
    Effect config freshId s name (.dropIndex index) r s' := by
  replace h := run_get_bind_eq_ok.mp h
  split at h
  · rename_i c there
    obtain ⟨rfl, rfl⟩ := run_write_eq_ok.mp h
    exact .indexDropped there
  · rename_i missing
    obtain ⟨rfl, rfl⟩ := run_pure_eq_ok.mp h
    exact .noCollection missing

/-- **A command that succeeds has had its effect.** -/
theorem run_effect {operation : Operation}
    (h : s.run config freshId ⟨name, operation⟩ = (.ok r, s')) :
    Effect config freshId s name operation r s' := by
  rw [Store.run, Step.outcome, apply] at h
  cases operation with
  | createCollection schema =>
    replace h : (Step.openCollection name >>= fun _ => pure Result.done).run.run s =
        (.ok r, s') := h
    rw [Step.run_openCollection_bind] at h
    obtain ⟨rfl, rfl⟩ := run_pure_eq_ok.mp h
    exact .opened
  | find f =>
    obtain ⟨c, there, h⟩ := Step.run_collection_bind_eq_ok.mp h
    obtain ⟨rows, read, h⟩ := Step.run_lift_bind_eq_ok.mp h
    obtain ⟨rfl, rfl⟩ := run_pure_eq_ok.mp h
    exact .found there read
  | insertOne document => exact insertOne_effect h
  | updateMany filter set => exact updateMany_effect h
  | deleteMany filter => exact deleteMany_effect h
  | alter alterations => exact alter_effect h
  | dropCollection =>
    obtain ⟨rfl, rfl⟩ := run_write_eq_ok.mp h
    exact .dropped
  | createIndex index fields unique => exact createIndex_effect h
  | dropIndex index => exact dropIndex_effect h

/-- The store behind a command is the one in front of it, or the command has had its effect. -/
theorem run_store_cases (s : Store) (config : Config) (freshId : String) (command : Command) :
    (s.run config freshId command).2 = s ∨
      ∃ r, Effect config freshId s command.collection command.operation r
        (s.run config freshId command).2 := by
  cases h : s.run config freshId command with
  | mk o s' =>
    cases o with
    | ok r => exact .inr ⟨r, run_effect h⟩
    | error e =>
      have failed : (s.run config freshId command).1 = .error e := by rw [h]
      have kept := Store.run_of_error failed
      rw [h] at kept
      exact .inl kept

end Polystore.Document
