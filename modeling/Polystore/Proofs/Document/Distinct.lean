import Polystore.Proofs.Document.Effect
import Polystore.Proofs.Relational.Distinct
import Polystore.Proofs.Value.Tuples

/-!
# Distinct documents stay distinct

A document that is added, documents that are changed and a new unique index are all checked: no two
documents may have one key of a unique index. Documents that are removed, and indexes that are
removed, take nothing from that. A change of columns is not checked. It rewrites documents when it
fills in a default or stores values in another representation, and two documents that had different
keys, or none, may have one key behind it. As long as no change of columns rewrites a field that a
unique index is over, the documents of every collection stay distinct.
-/

namespace Polystore

/-! ## Keys and the values that they are made of -/

/-- Values, not all of them `null` on either side, that make different keys. -/
def KeysApart (vs ws : List Value) : Prop :=
  vs.all Value.isNull = false → ws.all Value.isNull = false → Rows.keyOf vs ≠ Rows.keyOf ws

/-- Whether rows are distinct over columns is a matter of their values there. -/
theorem distinctOver_iff_values {columns : List String} {rows : List Row} :
    DistinctOver columns rows ↔ (rows.map (Row.valuesIn columns)).Pairwise KeysApart := by
  rw [List.pairwise_map]
  simp only [DistinctOver, KeysApart, Row.valuesIn, Row.isBlankIn, Row.key, Rows.key, List.all_map,
    Function.comp_def]

namespace Document

/-! ## Collections whose documents are distinct -/

namespace Collection

/-- No two documents have one key of a unique index. -/
def Distinct (c : Collection) : Prop :=
  c.indexes.Each fun _ index => index.unique = true → DistinctOver index.columns c.documents

variable {c next : Collection} {name : String}

theorem repeatedKey_eq_none {documents : List Row} {indexes : List (String × Index)} :
    repeatedKey documents indexes = none ↔
      ∀ b ∈ indexes, b.2.unique = true → DistinctOver b.2.columns documents := by
  induction indexes with
  | nil => simp [repeatedKey]
  | cons b rest ih =>
    obtain ⟨label, index⟩ := b
    rw [repeatedKey, List.forall_mem_cons, ← ih, ← firstRepeated_nil_eq_none]
    cases index.unique with
    | false => simp
    | true => cases firstRepeated index.columns [] documents <;> simp

/-- The check passes just when the documents are distinct. -/
theorem checkUnique_eq_ok : c.checkUnique name = .ok () ↔ c.Distinct := by
  rw [Distinct, TextMap.each_iff, ← repeatedKey_eq_none, checkUnique]
  cases repeatedKey c.documents c.indexes.entries <;> simp

theorem distinct_empty : Collection.empty.Distinct := TextMap.each_empty _

theorem Distinct.reindexed (h : c.Distinct) : c.reindexed.Distinct := by
  refine TextMap.each_map.mpr (h.imp fun _ index distinct unique => ?_)
  rw [Index.unique_rebuilt] at unique
  rw [Index.columns_rebuilt]
  exact distinct unique

/-- Documents can be left out. -/
theorem Distinct.sublist {documents : List Row} (h : c.Distinct)
    (fewer : documents.Sublist c.documents) : (c.withDocuments documents).Distinct :=
  h.imp fun _ _ distinct unique => (distinct unique).sublist fewer

theorem Distinct.added {document : Row}
    (h : (c.withDocuments (c.documents ++ [document])).Distinct) : (c.added document).Distinct :=
  TextMap.each_map.mpr h

theorem Distinct.dropIndex (h : c.Distinct) (index : String) :
    Collection.Distinct { c with indexes := c.indexes.erase index } :=
  TextMap.Each.erase h index

end Collection

end Document

/-! ## Changes of columns -/

/-- Whether a change of columns writes a field of documents that is one of some columns: it fills in
a default, or it stores what is there in another representation. -/
def Alteration.rewrites (columns : List String) : Alteration → Bool
  | .add name column => column.default.isSome && columns.contains name
  | .drop _ => false
  | .modify name _ => columns.contains name

namespace Document

namespace Collection

/-- Whether no change of columns rewrites a field that a unique index is over. -/
def isSparedBy (c : Collection) (alterations : List Alteration) : Bool :=
  c.indexes.all fun _ index => !index.unique || alterations.all (!·.rewrites index.columns)

variable {c next : Collection} {alteration : Alteration}

/-- The indexes that are left by a change were there before, and not over a dropped column. -/
theorem indexes_altered (made : c.altered alteration = .ok next) :
    next.indexes.Each fun name index =>
      c.indexes.get? name = some index ∧
        ∀ dropped, alteration = .drop dropped → dropped ∉ index.columns := by
  intro name index stored
  cases alteration with
  | add column definition =>
    rw [altered] at made
    split at made <;> cases made
    · exact ⟨stored, nofun⟩
    · exact ⟨stored, nofun⟩
  | drop column =>
    cases made
    obtain ⟨kept, remains⟩ := List.mem_filter.mp (TextMap.mem_of_get? stored)
    refine ⟨TextMap.get?_of_mem kept, ?_⟩
    rintro _ ⟨⟩ listed
    have remains : (!index.columns.contains column) = true := remains
    rw [List.contains_iff_mem.mpr listed] at remains
    cases remains
  | modify column definition =>
    obtain ⟨documents, _, made⟩ := Outcome.bind_eq_ok.mp made
    cases made
    exact ⟨stored, nofun⟩

/-- A change that neither rewrites nor drops any of some columns keeps their values. -/
theorem values_altered {columns : List String} (made : c.altered alteration = .ok next)
    (spared : alteration.rewrites columns = false)
    (kept : ∀ dropped, alteration = .drop dropped → dropped ∉ columns) :
    next.documents.map (Row.valuesIn columns) = c.documents.map (Row.valuesIn columns) := by
  cases alteration with
  | add name column =>
    rw [altered] at made
    split at made <;> cases made
    · rfl
    · rename_i v given
      have free : name ∉ columns := by
        simpa [Alteration.rewrites, given] using spared
      rw [List.map_map]
      refine List.map_congr_left fun d _ => ?_
      rw [Function.comp_apply]
      split
      · rfl
      · exact Row.valuesIn_insert free d v
  | drop name =>
    cases made
    rw [List.map_map]
    exact List.map_congr_left fun d _ => Row.valuesIn_erase (kept name rfl) d
  | modify name column =>
    have free : name ∉ columns := by
      simpa [Alteration.rewrites] using spared
    obtain ⟨documents, recoercedAll, made⟩ := Outcome.bind_eq_ok.mp made
    cases made
    refine Outcome.map_of_mapM (fun d e recoerced => ?_) recoercedAll
    rw [Document.recoerced] at recoerced
    split at recoerced
    · obtain ⟨w, _, rfl⟩ := Outcome.map_eq_ok.mp recoerced
      exact Row.valuesIn_insert free d w
    · cases recoerced
      rfl

theorem isSparedBy_iff {alterations : List Alteration} :
    c.isSparedBy alterations = true ↔
      c.indexes.Each fun _ index => index.unique = true →
        ∀ a ∈ alterations, a.rewrites index.columns = false := by
  rw [isSparedBy, TextMap.all, List.all_eq_true, TextMap.each_iff]
  refine forall₂_congr fun b _ => ?_
  cases b.2.unique <;> simp

/-- **Changes of columns that spare the unique indexes keep the documents distinct.** -/
theorem Distinct.altered {alterations : List Alteration} (h : c.Distinct)
    (spared : c.isSparedBy alterations = true)
    (made : alterations.foldlM Collection.altered c = .ok next) : next.Distinct := by
  have start := isSparedBy_iff.mp spared
  -- the indexes of the copy remain indexes of the collection, so all of them are spared
  refine (Outcome.foldlM_invariant (P := fun c : Collection => c.Distinct ∧
    c.indexes.Each fun _ index => index.unique = true →
      ∀ a ∈ alterations, a.rewrites index.columns = false) ?_ ⟨h, start⟩ made).1
  rintro before alteration after mem ⟨distinct, spared⟩ made
  have indexes := indexes_altered made
  refine ⟨fun name index stored unique => ?_, fun name index stored => ?_⟩
  · obtain ⟨was, kept⟩ := indexes name index stored
    have values := values_altered made (spared name index was unique alteration mem) kept
    rw [distinctOver_iff_values, values, ← distinctOver_iff_values]
    exact distinct name index was unique
  · exact spared name index (indexes name index stored).1

end Collection

/-- Whether a command, if it changes columns, spares the unique indexes of its collection. -/
def Command.sparesUnique (s : Store) (command : Command) : Bool :=
  match command.operation with
  | .alter alterations => (s.collectionOf command.collection).isSparedBy alterations
  | _ => true

/-! ## One command -/

variable {config : Config} {freshId : String} {s s' : Store} {name : String}
  {operation : Operation} {r : Result}

/-- All documents of all collections are distinct. -/
def Store.Distinct (s : Store) : Prop := s.Each fun _ c => c.Distinct

theorem Store.Distinct.collectionOf (h : s.Distinct) (name : String) :
    (s.collectionOf name).Distinct :=
  TextMap.Each.getD h name Collection.distinct_empty

theorem unmarked_sublist {c : Collection} {filter : Filter} {documents : List (Row × Bool)}
    (marked : c.marked config filter = .ok documents) :
    (unmarked documents).Sublist c.documents := by
  have all : documents.map (·.1) = c.documents.map id := by
    refine Outcome.map_of_mapM (fun d b h => ?_) marked
    obtain ⟨_, _, rfl⟩ := Outcome.map_eq_ok.mp h
    rfl
  rw [List.map_id] at all
  exact all ▸ List.filter_sublist.map _

/-- Every effect of a command keeps documents distinct, that of a change of columns as far as it
spares the unique indexes. -/
theorem Effect.distinct (h : s.Distinct)
    (spares : Command.sparesUnique s ⟨name, operation⟩ = true)
    (effect : Effect config freshId s name operation r s') : s'.Distinct := by
  have here := h.collectionOf name
  cases effect with
  | opened => exact h.insert here
  | found => exact h
  | inserted _ fits => exact h.insert (Collection.checkUnique_eq_ok.mp fits).added
  | updated _ _ fits => exact h.insert (Collection.checkUnique_eq_ok.mp fits).reindexed
  | deleted there marked =>
    exact h.insert ((h _ _ there).sublist (unmarked_sublist marked)).reindexed
  | altered there made =>
    have spared : (s.collectionOf name).isSparedBy _ = true := spares
    rw [Store.collectionOf, there, Option.getD_some] at spared
    exact h.insert ((h _ _ there).altered spared made).reindexed
  | dropped => exact TextMap.Each.erase h name
  | indexThere => exact h.insert here
  | indexMade _ fits => exact h.insert (Collection.checkUnique_eq_ok.mp fits)
  | @indexDropped index _ there => exact h.insert ((h _ _ there).dropIndex index)
  | noCollection => exact h

end Document

/-! ## Backends over time -/

namespace DocumentBackend

open Document

/-- The backends to which commands lead from one that has just been connected. Which commands may
run is decided in view of the store. -/
inductive Reachable (may : Store → Command → Prop) : DocumentBackend → Prop
  | opened (config : Document.Config) (freshId : Nat → String) :
      Reachable may { new config freshId with connected := true }
  | after {b : DocumentBackend} {command : Command} (before : Reachable may b)
      (runs : may b.store command) : Reachable may (b.execute command).2

variable {may : Store → Command → Prop} {b : DocumentBackend}

/-- The backend behind commands, one after the other. -/
def afterAll (b : DocumentBackend) (commands : List Command) : DocumentBackend :=
  commands.foldl (fun b command => (b.execute command).2) b

theorem Reachable.afterAll {commands : List Command} (h : Reachable may b)
    (run : ∀ command ∈ commands, ∀ s, may s command) : Reachable may (b.afterAll commands) := by
  induction commands generalizing b with
  | nil => exact h
  | cons command rest ih =>
    exact ih (h.after (run command List.mem_cons_self b.store)) fun other ho =>
      run other (List.mem_cons_of_mem command ho)

/-- The store behind a command is the one in front of it, or the command has had its effect. -/
theorem store_execute_cases (b : DocumentBackend) (command : Command) :
    (b.execute command).2.store = b.store ∨
      ∃ r, Effect b.config (b.freshId b.issued) b.store command.collection command.operation r
        (b.execute command).2.store := by
  rw [execute]
  split
  · exact run_store_cases b.store b.config (b.freshId b.issued) command
  · exact .inl rfl

theorem Reachable.distinct (h : Reachable (fun s c => c.sparesUnique s = true) b) :
    b.store.Distinct := by
  induction h with
  | opened => exact TextMap.each_empty _
  | @after b command _ spares ih =>
    rcases store_execute_cases b command with unchanged | ⟨r, effect⟩
    · rw [unchanged]
      exact ih
    · exact effect.distinct ih spares

/-- **No two documents have one key of a unique index**, documents excepted that have nothing but
`null` in its fields, in every backend that is reached without a change of columns rewriting a field
that a unique index is over: by insertions, updates, deletions and all other changes of columns, by
making and dropping indexes and collections, refused or not. The check of a collection passes. -/
theorem indexed_documents_distinct {name : String} {c : Collection}
    (h : Reachable (fun s command => command.sparesUnique s = true) b)
    (found : b.store.get? name = some c) :
    (∀ index i, c.indexes.get? index = some i → i.unique = true →
        DistinctOver i.columns c.documents) ∧
      c.checkUnique name = .ok () := by
  have distinct : c.Distinct := h.distinct name c found
  exact ⟨distinct, Collection.checkUnique_eq_ok.mpr distinct⟩

/-- Guests whose mail addresses shall differ. Two of them have none, and the last one is refused. -/
def guestsEnter : List Command :=
  ([.createIndex "by_mail" ["mail"] true,
    .insertOne (TextMap.ofList [("_id", .int 1), ("mail", .text "ada@x"), ("room", .int 7)]),
    .insertOne (TextMap.ofList [("_id", .int 2), ("room", .text "7")]),
    .insertOne (TextMap.ofList [("_id", .int 3)]),
    .insertOne (TextMap.ofList [("_id", .int 4), ("mail", .text "ada@x")])] :
      List Operation).map (⟨"guests", ·⟩)

/-- A backend with the guests. -/
def guests : DocumentBackend :=
  { new .standard fun n => String.ofList (Text.natDigits n) with connected := true }.afterAll
    guestsEnter

/-- The backend behind a change of the columns of the guests. -/
def guestsAltered (alterations : List Alteration) : DocumentBackend :=
  (guests.execute ⟨"guests", .alter alterations⟩).2

theorem reachable_guests :
    guests.Reachable fun s command => command.sparesUnique s = true := by
  refine (Reachable.opened _ _).afterAll fun command mem s => ?_
  simp only [guestsEnter, List.map_cons, List.map_nil, List.mem_cons, List.not_mem_nil,
    or_false] at mem
  rcases mem with rfl | rfl | rfl | rfl | rfl <;> rfl

/-- Rooms become texts, and meals are filled in. -/
def roomsAndMeals : List Alteration :=
  [.modify "room" (Column.ofType .text),
    .add "meals" ((Column.ofType .integer).withDefault (.int 0))]

/-- The guests behind that. Two of them have one room; addresses are as they were. -/
def lodged : Collection :=
  let documents : List Row :=
    [TextMap.ofList
        [("_id", .int 1), ("mail", .text "ada@x"), ("meals", .int 0), ("room", .text "7")],
      TextMap.ofList [("_id", .int 2), ("meals", .int 0), ("room", .text "7")],
      TextMap.ofList [("_id", .int 3), ("meals", .int 0)]]
  ⟨documents, TextMap.empty.insert "by_mail" (Index.build ["mail"] true documents)⟩

theorem indexed_documents_distinct_guests :
    (guestsAltered roomsAndMeals).Reachable (fun s command => command.sparesUnique s = true) ∧
      (guestsAltered roomsAndMeals).store.get? "guests" = some lodged ∧
      DistinctOver ["mail"] lodged.documents ∧ lodged.checkUnique "guests" = .ok () := by
  have spares : Command.sparesUnique guests.store ⟨"guests", .alter roomsAndMeals⟩ = true := by
    cbv
  have reached : (guestsAltered roomsAndMeals).Reachable
      fun s command => command.sparesUnique s = true := reachable_guests.after spares
  have found : (guestsAltered roomsAndMeals).store.get? "guests" = some lodged := by
    cbv
  obtain ⟨distinct, passes⟩ := indexed_documents_distinct reached found
  have stored : lodged.indexes.get? "by_mail" =
      some (Index.build ["mail"] true lodged.documents) := rfl
  exact ⟨reached, found, distinct "by_mail" _ stored rfl, passes⟩

/-- An address for all guests who have none. -/
def addressForAll : List Alteration :=
  [.add "mail" ((Column.ofType .text).withDefault (.text "none"))]

/-- The guests behind that. -/
def addressed : Collection :=
  let documents : List Row :=
    [TextMap.ofList [("_id", .int 1), ("mail", .text "ada@x"), ("room", .int 7)],
      TextMap.ofList [("_id", .int 2), ("mail", .text "none"), ("room", .text "7")],
      TextMap.ofList [("_id", .int 3), ("mail", .text "none")]]
  ⟨documents, TextMap.empty.insert "by_mail" (Index.build ["mail"] true documents)⟩

/-- **A default can be filled in twice under a unique index.** The two guests without an address get
the same one; the change of columns succeeds, and every guest is refused from then on. -/
theorem default_filled_in_unchecked :
    (guestsAltered addressForAll).Reachable (fun _ _ => True) ∧
      (guestsAltered addressForAll).store.get? "guests" = some addressed ∧
      (addressed.indexes.get? "by_mail").map (fun i => (i.unique, i.columns)) =
        some (true, ["mail"]) ∧
      ¬DistinctOver ["mail"] addressed.documents ∧
      ((guestsAltered addressForAll).execute
          ⟨"guests", .insertOne (TextMap.ofList [("_id", .int 5)])⟩).1 =
        .error (ExecutionError.constraintViolation "guests"
          "duplicate value 'none' for unique index by_mail") := by
  have any : guests.Reachable fun _ _ => True :=
    (Reachable.opened _ _).afterAll fun _ _ _ => trivial
  have reached : (guestsAltered addressForAll).Reachable fun _ _ => True := any.after trivial
  have found : (guestsAltered addressForAll).store.get? "guests" = some addressed := by
    cbv
  have repeated : firstRepeated ["mail"] [] addressed.documents = some "none" := by
    cbv
  refine ⟨reached, found, rfl, fun distinct => ?_, by cbv⟩
  rw [firstRepeated_nil_eq_none.mpr distinct] at repeated
  cases repeated

end DocumentBackend

end Polystore
