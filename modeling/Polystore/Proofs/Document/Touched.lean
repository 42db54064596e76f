import Mathlib
import Polystore.Proofs.Document.Effect
import Polystore.Proofs.Selection.Agreement

/-!
# Changed and removed documents are those that are found

A find, an update and a deletion walk over the documents of a collection with one filter. An update
judges every document by what it was, so a filter that reads a field which the update replaces, or
reads inside of one, is not led astray. All three agree on the documents that meet the filter: an
update sets the fields of these and no others, a deletion takes these out and leaves the others in
their order, and both report how many documents the find would have brought.
-/

namespace Polystore.Document

open Outcome

/-- A find of all documents that meet a filter, in any order and cut down to any fields. -/
def findingAll (filter : Filter) (projection : List String) (sort : List SortKey) : Finding :=
  { filter, projection, sort, groupBy := [], skip := none, limit := none }

/-- Every document of the collection that is kept under the name meets the filter or does not, and a
find of all that do succeeds and brings one row for each: where no fields are chosen the documents
themselves, and where no order is asked for in the order of the collection. -/
structure Told (s : Store) (config : Config) (name : String) (filter : Filter) (c : Collection)
    (hit : Row → Bool) : Prop where
  found : s.get? name = some c
  decides : ∀ d ∈ c.documents, filter.meets config.caseSensitiveLike d = .ok (hit d)
  read : ∀ freshId projection sort, ∃ rows,
    s.run config freshId ⟨name, .find (findingAll filter projection sort)⟩ =
        (.ok (Result.ofRows rows), s) ∧
      rows.length = (c.documents.filter hit).length ∧
      (projection = [] → rows.Perm (c.documents.filter hit)) ∧
      (projection = [] → sort = [] → rows = c.documents.filter hit)

/-- What an update makes of a document. -/
inductive Updated (set : Row) (hit : Row → Bool) (d : Row) : Row → Prop
  | unmatched (misses : hit d = false) : Updated set hit d d
  | matched {next : Row} (hits : hit d = true)
      (gained : ∀ name v, set.get? name = some v → next.get? name = some v)
      (kept : ∀ name, set.get? name = none → next.get? name = d.get? name) :
      Updated set hit d next

variable {s : Store} {config : Config} {name : String} {filter : Filter} {c : Collection}
  {documents : List (Row × Bool)}

/-! ## The documents that meet the filter -/

/-- A find of all brings the marked documents, sorted and cut down. -/
theorem Collection.find_of_marked (h : c.marked config filter = .ok documents)
    (projection : List String) (sort : List SortKey) :
    c.find config (findingAll filter projection sort) =
      .ok (let shown := Rows.sorted keyOrder sort ((documents.filter (·.2)).map (·.1))
        if projection.isEmpty then shown else shown.map (projected projection)) := by
  rw [Collection.find, Collection.findBy, findingAll, h]
  rfl

theorem told_of_marked (found : s.get? name = some c)
    (h : c.marked config filter = .ok documents) :
    ∃ hit, Told s config name filter c hit ∧
      documents = c.documents.map fun d => (d, hit d) := by
  obtain ⟨hit, decides, rfl⟩ := exists_marks h
  refine ⟨hit, ⟨found, decides, fun freshId projection sort => ?_⟩, rfl⟩
  have brings := Collection.find_of_marked h projection sort
  rw [Selection.hits_eq] at brings
  have same := Rows.sorted_perm keyOrder sort (c.documents.filter hit)
  refine ⟨_, run_find found brings, ?_, fun all => ?_, fun all unsorted => ?_⟩
  · dsimp only
    split
    · exact same.length_eq
    · rw [List.length_map]
      exact same.length_eq
  · subst all
    exact same
  · subst all unsorted
    exact Rows.sorted_nil keyOrder _

/-! ## Updates and deletions -/

/-- In a document with fields set, the set ones decide. -/
theorem updated_union {set d : Row} {hit : Row → Bool} (hits : hit d = true) :
    Updated set hit d (TextMap.union d set) := by
  refine .matched hits (fun name v holds => ?_) fun name free => ?_
  · rw [TextMap.get?_union, holds, Option.some_or]
  · rw [TextMap.get?_union, free, Option.none_or]

/-- Every document is updated in its place. -/
theorem updated_setMarked (set : Row) (hit : Row → Bool) (ds : List Row) :
    List.Forall₂ (Updated set hit) ds (setMarked set (ds.map fun d => (d, hit d))) := by
  rw [setMarked, List.map_map, List.forall₂_map_right_iff, List.forall₂_same]
  intro d _
  rw [Function.comp_apply]
  cases met : hit d with
  | false => exact .unmatched met
  | true => exact updated_union met

theorem unmarked_map (hit : Row → Bool) (ds : List Row) :
    unmarked (ds.map fun d => (d, hit d)) = ds.filter (!hit ·) := by
  rw [unmarked, List.filter_map, List.map_map]
  exact List.map_id _

/-- As many are marked as a find brings. -/
theorem length_marked (hit : Row → Bool) (ds : List Row) :
    ((ds.map fun d => (d, hit d)).filter (·.2)).length = (ds.filter hit).length := by
  rw [← Selection.hits_eq, List.length_map]

/-- **An update and a deletion touch the documents that a find with their filter brings, and no
others.** Both report the number of these documents. An update leaves all documents in their places
and those that do not meet the filter as they are; the others gain the set fields and keep all other
fields. A deletion leaves the documents that do not meet the filter, in their order. No other
collection is touched. -/
theorem changes_touch_found_documents (s : Store) (config : Config) (freshId name : String)
    (filter : Filter) :
    (∀ set r s', s.run config freshId ⟨name, .updateMany filter set⟩ = (.ok r, s') →
      ∃ c c' hit, Told s config name filter c hit ∧
        r.affected = (c.documents.filter hit).length ∧ s'.get? name = some c' ∧
        List.Forall₂ (Updated set hit) c.documents c'.documents ∧
        ∀ other, name ≠ other → s'.get? other = s.get? other) ∧
    (∀ r s', s.run config freshId ⟨name, .deleteMany filter⟩ = (.ok r, s') →
      ∃ c c' hit, Told s config name filter c hit ∧
        r.affected = (c.documents.filter hit).length ∧ s'.get? name = some c' ∧
        c'.documents = c.documents.filter (!hit ·) ∧
        ∀ other, name ≠ other → s'.get? other = s.get? other) := by
  refine ⟨fun set r s' ran => ?update, fun r s' ran => ?deletion⟩
  case update =>
    cases run_effect ran with
    | updated there marked =>
      obtain ⟨hit, told, rfl⟩ := told_of_marked there marked
      exact ⟨_, _, hit, told, length_marked hit _, TextMap.get?_insert_self ..,
        updated_setMarked set hit _, fun _ ne => TextMap.get?_insert_of_ne ne ..⟩
  case deletion =>
    cases run_effect ran with
    | deleted there marked =>
      obtain ⟨hit, told, rfl⟩ := told_of_marked there marked
      exact ⟨_, _, hit, told, length_marked hit _, TextMap.get?_insert_self ..,
        unmarked_map hit _, fun _ ne => TextMap.get?_insert_of_ne ne ..⟩

/-- Items with their places. -/
def placed : List Row :=
  let place (shelf : String) (slot : Json) : Value :=
    .json (.object [("shelf", .text shelf), ("slot", slot)])
  [TextMap.ofList [("_id", .int 1), ("place", place "A" .null)],
    TextMap.ofList [("_id", .int 2), ("place", place "B" .null)],
    TextMap.ofList [("_id", .int 3), ("place", place "A" (.bool true))]]

/-- The items on the first shelf. -/
def onFirstShelf : Filter := .field "place.shelf" [(.eq, .text "A")]

/-- They move, and what the filter reads moves with them. -/
def moved : Row :=
  TextMap.ofList [("place", .json (.object [("shelf", .text "C")])), ("seen", .bool true)]

theorem changes_touch_found_documents_placed :
    let s : Store := TextMap.empty.insert "items"
      ⟨placed, TextMap.empty.insert "by_id" (Index.build ["_id"] true placed)⟩
    (∃ s' c c' hit,
      s.run .standard "" ⟨"items", .updateMany onFirstShelf moved⟩ = (.ok ⟨[], 2, none⟩, s') ∧
        Told s .standard "items" onFirstShelf c hit ∧ 2 = (c.documents.filter hit).length ∧
        s'.get? "items" = some c' ∧
        List.Forall₂ (Updated moved hit) c.documents c'.documents) ∧
    (∃ s' c c' hit,
      s.run .standard "" ⟨"items", .deleteMany onFirstShelf⟩ = (.ok ⟨[], 2, none⟩, s') ∧
        Told s .standard "items" onFirstShelf c hit ∧ 2 = (c.documents.filter hit).length ∧
        s'.get? "items" = some c' ∧ c'.documents = c.documents.filter (!hit ·)) := by
  intro s
  have updated : (s.run .standard "" ⟨"items", .updateMany onFirstShelf moved⟩).1 =
      .ok ⟨[], 2, none⟩ := by cbv
  have deleted : (s.run .standard "" ⟨"items", .deleteMany onFirstShelf⟩).1 =
      .ok ⟨[], 2, none⟩ := by cbv
  obtain ⟨updates, deletes⟩ := changes_touch_found_documents s .standard "" "items" onFirstShelf
  obtain ⟨c, c', hit, told, count, after, rows, _⟩ := updates moved _ _ (Prod.ext updated rfl)
  obtain ⟨e, e', gone, told', count', after', rest, _⟩ := deletes _ _ (Prod.ext deleted rfl)
  exact ⟨⟨_, c, c', hit, Prod.ext updated rfl, told, count, after, rows⟩,
    ⟨_, e, e', gone, Prod.ext deleted rfl, told', count', after', rest⟩⟩

end Polystore.Document
