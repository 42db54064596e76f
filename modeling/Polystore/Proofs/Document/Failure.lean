import Mathlib
import Polystore.Backend
import Polystore.Proofs.Outcome
import Polystore.Proofs.Steps

/-!
# A failing command leaves the documents alone

A command on documents works on a copy of its collection and puts the copy back when nothing can
fail any more. Two commands seem to break the rule: an insertion and the making of an index open
their collection first, and a collection that was not there is written before the uniqueness of its
keys is checked. But a collection opened in this way has no index and no document, so there is
nothing that could repeat, and the check that follows succeeds.
-/

namespace Polystore.Document

open Steps

/-! ## Collections that repeat nothing -/

namespace Collection

/-- Without documents no key is repeated, however many indexes there are. -/
theorem repeatedKey_nil (indexes : List (String × Index)) : repeatedKey [] indexes = none := by
  induction indexes with
  | nil => rfl
  | cons b rest ih =>
    rw [repeatedKey]
    split
    · exact ih
    · exact ih

theorem checkUnique_of_no_documents {c : Collection} (none : c.documents = []) (name : String) :
    c.checkUnique name = .ok () := by
  rw [checkUnique, none, repeatedKey_nil]

theorem checkUnique_of_no_indexes {c : Collection} (none : c.indexes = TextMap.empty)
    (name : String) : c.checkUnique name = .ok () := by
  rw [checkUnique, none]
  rfl

end Collection

/-! ## Steps -/

namespace Step

theorem reads_lift {α : Type} (o : Outcome α) : Reads (lift o) := by
  cases o with
  | ok a => exact reads_pure a
  | error e => exact reads_throw e

theorem reads_collection (name : String) : Reads (collection name) := by
  refine reads_bind reads_get fun s => ?_
  cases s.get? name with
  | none => exact reads_throw _
  | some c => exact reads_pure c

/-- Setting the collection comes last. -/
theorem succeeds_write {f : Store → Store} {r : Result} :
    Succeeds (do modify f; pure r : Step Result) :=
  succeeds_modify_bind (succeeds_pure r)

/-- The collection that is opened, and the store that it is opened in. -/
theorem run_openCollection (name : String) (s : Store) :
    (openCollection name).run.run s =
      match s.get? name with
      | some c => (.ok c, s)
      | none => (.ok .empty, s.insert name .empty) := by
  rw [openCollection, run_get_bind]
  cases s.get? name <;> rfl

/-- What opens a collection is all or nothing when it is so on a collection that is there, and when
it cannot fail on the one that is made for it. -/
theorem openCollection_allOrNothing {α : Type} {name : String} {f : Collection → Step α}
    (there : ∀ c, AllOrNothing (f c)) (made : Succeeds (f .empty)) :
    AllOrNothing (openCollection name >>= f) := by
  intro s e failed
  have opened := run_openCollection name s
  cases found : s.get? name with
  | some c =>
    rw [found] at opened
    rw [run_bind_ok opened] at failed ⊢
    exact there c s e failed
  | none =>
    rw [found] at opened
    rw [run_bind_ok opened] at failed
    obtain ⟨r, succeeded⟩ := made (s.insert name .empty)
    rw [succeeded] at failed
    cases failed

end Step

/-! ## The commands -/

/-- A document cannot be refused by a collection that was made for it. -/
theorem insertOne_allOrNothing (config : Config) (freshId name : String) (document : Row) :
    AllOrNothing (insertOne config freshId name document) := by
  refine Step.openCollection_allOrNothing (fun c => ?_) ?_
  · exact allOrNothing_bind (Step.reads_lift _) fun _ => Step.succeeds_write.allOrNothing
  · dsimp only
    rw [Collection.checkUnique_of_no_indexes rfl]
    exact succeeds_bind (succeeds_pure _) fun _ => Step.succeeds_write

theorem updateMany_allOrNothing (config : Config) (name : String) (filter : Filter) (set : Row) :
    AllOrNothing (updateMany config name filter set) := by
  refine allOrNothing_bind (Step.reads_collection name) fun c => ?_
  refine allOrNothing_bind (Step.reads_lift _) fun documents => ?_
  exact allOrNothing_bind (Step.reads_lift _) fun _ => Step.succeeds_write.allOrNothing

theorem deleteMany_allOrNothing (config : Config) (name : String) (filter : Filter) :
    AllOrNothing (deleteMany config name filter) := by
  refine allOrNothing_bind (Step.reads_collection name) fun c => ?_
  exact allOrNothing_bind (Step.reads_lift _) fun documents => Step.succeeds_write.allOrNothing

/-- The changes of a whole list are made on a copy; a failing one throws the copy away. -/
theorem alter_allOrNothing (name : String) (alterations : List Alteration) :
    AllOrNothing (alter name alterations) := by
  refine allOrNothing_bind (Step.reads_collection name) fun c => ?_
  exact allOrNothing_bind (Step.reads_lift _) fun next => Step.succeeds_write.allOrNothing

/-- An index cannot be refused by a collection that was made for it. -/
theorem createIndex_allOrNothing (name index : String) (fields : List String) (unique : Bool) :
    AllOrNothing (createIndex name index fields unique) := by
  refine Step.openCollection_allOrNothing (fun c => ?_) ?_
  · split
    · exact (reads_pure _).allOrNothing
    · exact allOrNothing_bind (Step.reads_lift _) fun _ => Step.succeeds_write.allOrNothing
  · split
    · exact succeeds_pure _
    · dsimp only
      rw [Collection.checkUnique_of_no_documents rfl]
      exact succeeds_bind (succeeds_pure _) fun _ => Step.succeeds_write

theorem dropIndex_allOrNothing (name index : String) : AllOrNothing (dropIndex name index) := by
  refine allOrNothing_bind reads_get fun s => ?_
  cases s.get? name with
  | none => exact (succeeds_pure _).allOrNothing
  | some c => exact Step.succeeds_write.allOrNothing

theorem find_allOrNothing (config : Config) (name : String) (f : Finding) :
    AllOrNothing (do
      let c ← Step.collection name
      let rows ← Step.lift (c.find config f)
      pure (Result.ofRows rows) : Step Result) := by
  refine allOrNothing_bind (Step.reads_collection name) fun c => ?_
  exact allOrNothing_bind (Step.reads_lift _) fun rows => (reads_pure _).allOrNothing

theorem apply_allOrNothing (config : Config) (freshId : String) (command : Command) :
    AllOrNothing (apply config freshId command) := by
  unfold apply
  cases command.operation with
  | createCollection schema =>
    exact Step.openCollection_allOrNothing (fun _ => (succeeds_pure _).allOrNothing)
      (succeeds_pure _)
  | find f => exact find_allOrNothing config command.collection f
  | insertOne document => exact insertOne_allOrNothing config freshId command.collection document
  | updateMany filter set => exact updateMany_allOrNothing config command.collection filter set
  | deleteMany filter => exact deleteMany_allOrNothing config command.collection filter
  | alter alterations => exact alter_allOrNothing command.collection alterations
  | dropCollection => exact Step.succeeds_write.allOrNothing
  | createIndex index fields unique =>
    exact createIndex_allOrNothing command.collection index fields unique
  | dropIndex index => exact dropIndex_allOrNothing command.collection index

/-- A command that fails on the store has changed nothing in it. -/
theorem Store.run_of_error {s : Store} {config : Config} {freshId : String} {command : Command}
    {e : Error} (h : (s.run config freshId command).1 = .error e) :
    (s.run config freshId command).2 = s :=
  apply_allOrNothing config freshId command s e h

end Polystore.Document

namespace Polystore

open Document

/-- **A backend of documents that refuses a command is as it was**: it has the same collections, each
with the same documents and indexes, whatever the command, its filters and the fresh identities. -/
theorem DocumentBackend.execute_eq_of_error {b : DocumentBackend} {command : Command} {e : Error}
    (h : (b.execute command).1 = .error e) : (b.execute command).2 = b := by
  unfold execute at h ⊢
  split at h
  · rename_i connected
    rw [if_pos connected]
    cases ran : b.store.run b.config (b.freshId b.issued) command with
    | mk o store =>
      rw [ran] at h
      have failed : o = .error e := h
      have kept := Store.run_of_error (by rw [ran]; exact failed)
      rw [ran] at kept
      have kept : store = b.store := kept
      -- a command that fails gives out no fresh identity
      rw [failed, kept]
      rfl
  · rename_i away
    rw [if_neg away]

/-- Two documents without a label in common, and an index that keeps it so. -/
def labelled : DocumentBackend :=
  let documents : List Row :=
    [TextMap.ofList [("_id", .text "a"), ("label", .text "bolt"), ("shelf", .int 1)],
      TextMap.ofList [("_id", .text "b"), ("label", .text "nut"), ("shelf", .int 2)]]
  { config := .standard
    connected := true
    store := TextMap.empty.insert "items"
      ⟨documents, TextMap.empty.insert "by_label" (Index.build ["label"] true documents)⟩
    freshId := fun n => String.ofList (Text.natDigits n)
    issued := 0 }

/-- A change of the documents whose label is `bolt` or in what is no list. The first document meets
the filter, and the second one is compared with the operand that should be a list. -/
def halfMoved : Command :=
  ⟨"items", .updateMany
    (.or [.field "label" [(.eq, .text "bolt")], .field "label" [(.within, .text "nut")]])
    (TextMap.ofList [("shelf", .int 7)])⟩

theorem DocumentBackend.execute_eq_of_error_halfMoved :
    (labelled.execute halfMoved).1 = .error (ExecutionError.notAnArray "IN") ∧
      (labelled.execute halfMoved).2 = labelled := by
  have failed : (labelled.execute halfMoved).1 = .error (ExecutionError.notAnArray "IN") := by
    cbv
  exact ⟨failed, DocumentBackend.execute_eq_of_error failed⟩

end Polystore
