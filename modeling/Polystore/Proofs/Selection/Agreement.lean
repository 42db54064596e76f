import Polystore.Proofs.Condition.Agreement
import Polystore.Proofs.Condition.Columns
import Polystore.Proofs.Query.Names
import Polystore.Proofs.Selection.Sorts
import Polystore.Proofs.Steps
import Polystore.Proofs.Value.Order
import Polystore.Relational.Store

/-!
# Both stores answer a selection alike

A selection has an answer of its own: the rows that its condition means, the first of each group,
sorted, cut to a page and cut down to the shown fields. A table compiles the condition to a
predicate, reads columns by name, turns a descending pair of rows round and checks every name. A
collection compiles it to a filter, reads fields by path, turns the descending order round and drops
fields that lead nowhere. On rows that have every column, and with names that are columns and not
read otherwise, both bring that answer.
-/

namespace Polystore

open Outcome Steps

namespace Selection

/-- The operators that the condition of a selection uses. -/
def uses (s : Selection) : List Condition.Use := s.conditions.elim [] Condition.uses

/-- Whether a selection asks for a row; without a condition it asks for every row. -/
def asksFor (s : Selection) (caseSensitive : Bool) (row : Row) : Bool :=
  s.conditions.elim true (Condition.means caseSensitive row)

/-- The rows that a selection sorts: the first of each group among those that it asks for. -/
def found (s : Selection) (caseSensitive : Bool) (rows : List Row) : List Row :=
  Rows.grouped Row.at s.groupings (rows.filter (s.asksFor caseSensitive))

/-- What a selection shows of some rows, sorted by a given sort. -/
def answer (s : Selection) (sort : Rows.Sorting) (caseSensitive : Bool) (rows : List Row) :
    List Row :=
  let shown := Rows.page s.offset s.limit
    (sort (Rows.compareBy Relational.keyOrder s.orderings) (s.found caseSensitive rows))
  if (s.fields.getD []).isEmpty then shown else shown.map (Relational.projected (s.fields.getD []))

/-- A selection is about the columns of a table: all its fields are columns, none of their names is
a path or stands for all columns, and every operand that should be a list is one. -/
structure About (s : Selection) (t : Relational.Table) : Prop where
  known : ∀ name ∈ s.names, ∃ d ∈ t.columns, d.name = name
  dotFree : ∀ name ∈ s.names, '.' ∉ name.toList
  starFree : "*" ∉ s.names
  listed : ∀ u ∈ s.uses, u.isFaulty = false

variable {s : Selection}

/-- The marked rows are those that the selection asks for. -/
theorem hits_eq (p : Row → Bool) (rows : List Row) :
    ((rows.map fun row => (row, p row)).filter (·.2)).map (·.1) = rows.filter p := by
  rw [List.filter_map, List.map_map]
  exact List.map_id _

end Selection

open Selection

/-! ## The table -/

namespace Relational

theorem Table.requireColumns_eq_ok {t : Table} {names : List String}
    (h : ∀ name ∈ names, ∃ d ∈ t.columns, d.name = name) : t.requireColumns names = .ok () := by
  induction names with
  | nil => rfl
  | cons name names ih =>
    obtain ⟨d, hd, hname⟩ := h name List.mem_cons_self
    have found : (t.columns.find? (·.name = name)).isSome = true :=
      List.find?_isSome.mpr ⟨d, hd, by simpa using hname⟩
    obtain ⟨d', hd'⟩ := Option.isSome_iff_exists.mp found
    have column : t.column? name = some d'.column := by
      rw [Table.column?, Schema.column?, hd']
      rfl
    rw [requireColumns, requireColumn, column]
    exact ih fun n hn => h n (List.mem_cons_of_mem _ hn)

/-- The filter of a selection under the values that it binds. -/
theorem exists_filter {s : Selection} (listed : ∀ u ∈ s.uses, u.isFaulty = false) :
    ∃ filter bound, compileFilter 0 s.conditions = .ok (filter, bound) ∧
      (∀ p, filter = some p → p.columns ⊆ s.names) ∧
      ∀ (caseSensitive : Bool) (row : Row),
        meets bound caseSensitive filter row = .ok (s.asksFor caseSensitive row) := by
  unfold Selection.uses at listed
  unfold asksFor
  cases hc : s.conditions with
  | none =>
    refine ⟨none, [], rfl, ?_, fun caseSensitive row => rfl⟩
    intro p hp
    cases hp
  | some c =>
    rw [hc] at listed
    obtain ⟨filter, bound, _, compiled, _⟩ := Condition.exists_compiled listed
    refine ⟨filter, bound, compiled, ?_, fun caseSensitive row =>
      compileCondition_meets caseSensitive row compiled⟩
    rintro p rfl
    exact fun name hn => mem_names_of_condition hc (columns_compileFrom compiled hn)

/-- The statement of a selection with a given filter. -/
def statementOf (s : Selection) (filter : Option Predicate) : SelectStatement :=
  { table := s.table, fields := s.fields.getD [], filter, groupBy := s.groupings
    orderBy := s.orderings, limit := s.limit, offset := s.offset }

theorem showsAll_of_about {s : Selection} {t : Table} (about : s.About t) :
    showsAll (s.fields.getD []) = (s.fields.getD []).isEmpty := by
  have star : (s.fields.getD []).contains "*" = false := by
    rw [Bool.eq_false_iff]
    intro h
    exact about.starFree (mem_names_of_field (List.contains_iff_mem.mp h))
  rw [showsAll, star, Bool.or_false]

theorem selectBy_answer {s : Selection} {t : Table} (sort : Rows.Sorting) (config : Config)
    (about : s.About t)
    {filter : Option Predicate} {bound : List Value}
    (columns : ∀ p, filter = some p → p.columns ⊆ s.names)
    (decides : ∀ row, meets bound config.caseSensitiveLike filter row =
      .ok (s.asksFor config.caseSensitiveLike row)) :
    t.selectBy sort config bound (statementOf s filter) =
      .ok (s.answer sort config.caseSensitiveLike t.rows) := by
  have groups : t.requireColumns s.groupings = .ok () :=
    Table.requireColumns_eq_ok fun name hn => about.known name (mem_names_of_grouping hn)
  have orders : t.requireColumns (s.orderings.map (·.field)) = .ok () := by
    refine Table.requireColumns_eq_ok fun name hn => ?_
    obtain ⟨k, hk, rfl⟩ := List.mem_map.mp hn
    exact about.known k.field (mem_names_of_ordering hk)
  have shown : t.requireColumns (s.fields.getD []) = .ok () :=
    Table.requireColumns_eq_ok fun name hn => about.known name (mem_names_of_field hn)
  have checked : t.checkFilter filter = .ok () := by
    cases filter with
    | none => rfl
    | some p =>
      exact Table.requireColumns_eq_ok fun name hn => about.known name (columns p rfl hn)
  have marked : t.marked config bound filter =
      .ok (t.rows.map fun row => (row, s.asksFor config.caseSensitiveLike row)) := by
    rw [Table.marked, checked]
    refine mapM_eq_ok fun row _ => ?_
    rw [decides row]
    rfl
  rw [Table.selectBy, statementOf, groups, orders, shown, marked, showsAll_of_about about, answer,
    found, ← hits_eq]
  cases (s.fields.getD []).isEmpty <;> rfl

end Relational

/-! ## The collection -/

namespace Document

/-- The filter on documents of a selection. -/
theorem exists_filter {s : Selection} (listed : ∀ u ∈ s.uses, u.isFaulty = false)
    (dotFree : ∀ name ∈ s.names, '.' ∉ name.toList) :
    ∃ f, Filter.ofConditions? s.conditions = .ok f ∧
      ∀ (caseSensitive : Bool) (row : Row),
        f.meets caseSensitive row = .ok (s.asksFor caseSensitive row) := by
  unfold Selection.uses at listed
  unfold asksFor
  cases hc : s.conditions with
  | none => exact ⟨.all, rfl, fun caseSensitive row => rfl⟩
  | some c =>
    rw [hc] at listed
    obtain ⟨_, _, f, _, compiled⟩ := Condition.exists_compiled listed
    have plain : c.DotFree := fun name hn => dotFree name (mem_names_of_condition hc hn)
    exact ⟨f, compiled, fun caseSensitive row =>
      Filter.ofCondition_meets caseSensitive row plain compiled⟩

/-- A document that has all fields shows as the row that it is. -/
theorem projected_eq {paths : List String} {row : Row}
    (dotFree : ∀ p ∈ paths, '.' ∉ p.toList) (full : ∀ p ∈ paths, row.contains p = true) :
    projected paths row = Relational.projected paths row := by
  have looked : paths.map (fun p => (p, lookupPath row p)) = paths.map fun p => (p, row.at p) := by
    refine List.map_congr_left fun p hp => ?_
    rw [lookupPath_of_dotFree (dotFree p hp)]
  have kept : ((paths.map fun p => (p, row.at p)).filter fun b =>
      !b.2.isNull || row.contains b.1) = paths.map fun p => (p, row.at p) := by
    refine List.filter_eq_self.mpr fun b hb => ?_
    obtain ⟨p, hp, rfl⟩ := List.mem_map.mp hb
    show (!(row.at p).isNull || row.contains p) = true
    rw [full p hp, Bool.or_true]
  rw [projected, Relational.projected, looked, kept]

/-- Turning the order of a descending key round comes to taking its rows the other way round. -/
theorem keyOrder_eq {k : SortKey} (dotFree : '.' ∉ k.field.toList) :
    keyOrder k = Relational.keyOrder k := by
  funext a b
  rw [keyOrder, Relational.keyOrder, lookupPath_of_dotFree dotFree, lookupPath_of_dotFree dotFree]
  cases k.direction with
  | ascending => rfl
  | descending => exact Value.sortCompare_swap _ _

theorem findBy_answer {s : Selection} {c : Collection} {sort : Rows.Sorting}
    (stable : sort.IsStable) (config : Config) (dotFree : ∀ name ∈ s.names, '.' ∉ name.toList)
    (full : ∀ row ∈ c.documents, ∀ name ∈ s.names, row.contains name = true) {f : Filter}
    (decides : ∀ row, f.meets config.caseSensitiveLike row =
      .ok (s.asksFor config.caseSensitiveLike row)) :
    c.findBy sort config
        { filter := f, projection := s.fields.getD [], sort := s.orderings, groupBy := s.groupings
          skip := s.offset, limit := s.limit } =
      .ok (s.answer sort config.caseSensitiveLike c.documents) := by
  have marked : c.marked config f =
      .ok (c.documents.map fun row => (row, s.asksFor config.caseSensitiveLike row)) := by
    refine mapM_eq_ok fun row _ => ?_
    rw [decides row]
    rfl
  have presented : ∀ rows, Rows.presented sort lookupPath keyOrder s.groupings s.orderings s.offset
      s.limit rows = Rows.presented sort Row.at Relational.keyOrder s.groupings s.orderings s.offset
      s.limit rows := by
    refine Rows.presented_congr ?_ ?_ s.offset s.limit
    · exact fun name hn row => lookupPath_of_dotFree (dotFree name (mem_names_of_grouping hn)) row
    · exact fun k hk => keyOrder_eq (dotFree k.field (mem_names_of_ordering hk))
  rw [Collection.findBy, marked, answer, found]
  show Except.ok _ = Except.ok _
  rw [hits_eq, presented, Rows.presented]
  congr 1
  split
  · rfl
  · refine List.map_congr_left fun row hrow => ?_
    have stored := (List.mem_filter.mp (Rows.mem_of_mem_presented (stable.rearranges _) hrow)).1
    exact projected_eq (fun p hp => dotFree p (mem_names_of_field hp))
      fun p hp => full row stored p (mem_names_of_field hp)

end Document

/-! ## The stores -/

namespace Relational

theorem Step.run_table {store : Store} {name : String} {t : Table}
    (h : store.tables.get? name = some t) :
    (Step.table name).run.run store = (.ok t, store) := by
  rw [Step.table, run_get_bind, h]
  rfl

theorem run_select {store : Store} {t : Table} {config : Config} {statement : SelectStatement}
    {params : List Value} {rows : List Row} (hasTable : store.tables.get? statement.table = some t)
    (brings : t.select config params statement = .ok rows) :
    store.run config (.select statement) params = (.ok (Result.ofRows rows), store) := by
  show (select config params statement).run.run store = _
  rw [select, run_bind_ok (Step.run_table hasTable), brings]
  rfl

end Relational

namespace Document

theorem Step.run_collection {store : Store} {name : String} {c : Collection}
    (h : store.get? name = some c) : (Step.collection name).run.run store = (.ok c, store) := by
  rw [Step.collection, run_get_bind, h]
  rfl

theorem run_find {store : Store} {c : Collection} {config : Config} {freshId name : String}
    {f : Finding} {rows : List Row} (hasCollection : store.get? name = some c)
    (brings : c.find config f = .ok rows) :
    store.run config freshId ⟨name, .find f⟩ = (.ok (Result.ofRows rows), store) := by
  show (do
    let c ← Step.collection name
    let rows ← Step.lift (c.find config f)
    pure (Result.ofRows rows) : Step Result).run.run store = _
  rw [run_bind_ok (Step.run_collection hasCollection), brings]
  rfl

end Document

namespace Selection

/-- Where the sort keys put the rows in order that a selection sorts, all stable sorts make one
answer of them. -/
theorem answer_eq {s : Selection} {sort : Rows.Sorting} (stable : sort.IsStable)
    {caseSensitive : Bool} {rows : List Row}
    (ordered : Rows.Orders Relational.keyOrder s.orderings (s.found caseSensitive rows)) :
    s.answer sort caseSensitive rows = s.answer Rows.inserted caseSensitive rows := by
  rw [answer, stable.eq Rows.isStable_inserted ordered]
  rfl

/-- **A table and a collection that hold the same rows answer a selection alike** where its sort
keys put the rows in order that it sorts. Both stores make something of the selection, what they
make runs, and both bring the answer that the selection has on these rows, whichever stable sort the
one and the other use. -/
theorem stores_agree {s : Selection} {tables : Relational.Store} {collections : Document.Store}
    {t : Relational.Table} {c : Document.Collection} (tableConfig : Relational.Config)
    (documentConfig : Document.Config) (freshId : String)
    (hasTable : tables.tables.get? s.table = some t)
    (hasCollection : collections.get? s.table = some c) (same : c.documents = t.rows)
    (full : ∀ row ∈ t.rows, ∀ d ∈ t.columns, row.contains d.name = true) (about : s.About t)
    (like : documentConfig.caseSensitiveLike = tableConfig.caseSensitiveLike)
    (ordered : Rows.Orders Relational.keyOrder s.orderings
      (s.found tableConfig.caseSensitiveLike t.rows)) :
    ∃ statement params finding,
      Relational.compile (.select s) = .ok ⟨.select statement, params⟩ ∧
        Document.compile (.select s) = .ok ⟨⟨s.table, .find finding⟩, []⟩ ∧
        let rows := s.answer Rows.inserted tableConfig.caseSensitiveLike t.rows
        (∀ sort sort' : Rows.Sorting, sort.IsStable → sort'.IsStable →
          t.selectBy sort tableConfig params statement = .ok rows ∧
            c.findBy sort' documentConfig finding = .ok rows) ∧
        tables.run tableConfig (.select statement) params = (.ok (Result.ofRows rows), tables) ∧
        collections.run documentConfig freshId ⟨s.table, .find finding⟩ =
          (.ok (Result.ofRows rows), collections) := by
  obtain ⟨filter, bound, compiled, columns, decides⟩ := Relational.exists_filter about.listed
  obtain ⟨f, made, meets⟩ := Document.exists_filter about.listed about.dotFree
  have complete : ∀ row ∈ c.documents, ∀ name ∈ s.names, row.contains name = true := by
    intro row hrow name hn
    obtain ⟨d, hd, rfl⟩ := about.known name hn
    exact full row (same ▸ hrow) d hd
  have selected (sort : Rows.Sorting) :=
    Relational.selectBy_answer sort tableConfig about columns (decides _)
  have found {sort : Rows.Sorting} (stable : sort.IsStable) :=
    Document.findBy_answer stable documentConfig about.dotFree complete (meets _)
  rw [like, same] at found
  refine ⟨Relational.statementOf s filter, bound, _, ?_, ?_, fun sort sort' stable stable' => ?_,
    Relational.run_select hasTable (selected _),
    Document.run_find hasCollection (found Rows.isStable_inserted)⟩
  · rw [Relational.compile, compiled]
    rfl
  · rw [Document.compile, Document.operationOf, made]
    rfl
  · rw [selected, found stable', answer_eq stable ordered, answer_eq stable' ordered]
    exact ⟨rfl, rfl⟩

/-- People, one of them without an age and one with an age in words. -/
def people : Relational.Table :=
  { name := "people"
    columns := [⟨"age", Column.ofType .integer⟩, ⟨"name", Column.ofType .text⟩]
    rows :=
      [TextMap.ofList [("age", .int 36), ("name", .text "Ada")],
        TextMap.ofList [("age", .null), ("name", .text "Bob")],
        TextMap.ofList [("age", .text "36"), ("name", .text "Cy")]]
    indexes := TextMap.empty }

/-- A selection that uses every clause, the oldest and the ageless last. -/
def oldest : Selection :=
  { table := "people"
    conditions := some [.or [[.field "age" (.equals (.int 36))], [.field "age" (.equals .null)]]]
    fields := some ["name", "age"]
    orderings := [⟨"age", .descending⟩]
    groupings := ["age", "name"]
    limit := some 5
    offset := some 0 }

theorem about_people : oldest.About people where
  known := by decide
  dotFree := by decide
  starFree := by decide
  listed := by decide

theorem stores_agree_people :
    oldest.About people ∧
      (∀ row ∈ people.rows, ∀ d ∈ people.columns, row.contains d.name = true) ∧
      Rows.Orders Relational.keyOrder oldest.orderings (oldest.found false people.rows) ∧
      let tables : Relational.Store := ⟨TextMap.empty.insert "people" people, TextMap.empty⟩
      let collection : Document.Collection := ⟨people.rows, TextMap.empty⟩
      let collections : Document.Store := TextMap.empty.insert "people" collection
      let rows := oldest.answer Rows.inserted false people.rows
      ∃ statement params finding,
        Relational.compile (.select oldest) = .ok ⟨.select statement, params⟩ ∧
          Document.compile (.select oldest) = .ok ⟨⟨"people", .find finding⟩, []⟩ ∧
          people.selectBy Rows.merged .standard params statement = .ok rows ∧
          collection.findBy Rows.inserted .standard finding = .ok rows ∧
          tables.run .standard (.select statement) params = (.ok (Result.ofRows rows), tables) ∧
          collections.run .standard "1" ⟨"people", .find finding⟩ =
            (.ok (Result.ofRows rows), collections) := by
  have ordered : Rows.Orders Relational.keyOrder oldest.orderings
      (oldest.found false people.rows) := by decide +kernel
  refine ⟨about_people, by decide, ordered, ?_⟩
  intro tables collection collections rows
  have hasTable : tables.tables.get? "people" = some people := TextMap.get?_insert_self _ _ _
  have hasCollection : collections.get? "people" = some collection :=
    TextMap.get?_insert_self _ _ _
  obtain ⟨statement, params, finding, selects, finds, alike, selected, found⟩ :=
    stores_agree .standard .standard "1" hasTable hasCollection rfl (by decide) about_people rfl
      ordered
  obtain ⟨merging, placing⟩ := alike _ _ Rows.isStable_merged Rows.isStable_inserted
  exact ⟨statement, params, finding, selects, finds, merging, placing, selected, found⟩

/-- A note in a column that takes all documents: a number, or in place of zero a word. -/
def note (n : Nat) : Row :=
  TextMap.ofList [("doc", if n = 0 then .text "abc" else .int (Int64.ofNat n))]

/-- Notes in order but for one number, which belongs in front of the word and comes behind it. -/
def notes : Relational.Table :=
  { name := "notes"
    columns := [⟨"doc", Column.ofType .json⟩]
    rows := ([1, 3, 0, 4, 2] ++ List.range' 5 16).map note
    indexes := TextMap.empty }

/-- All notes in their order. -/
def byNote : Selection := (everything "notes").orderedBy "doc" .ascending

/-- What the notes read. -/
def texts (rows : List Row) : List String := rows.map fun row => (row.at "doc").keyText

/-- **Where the sort keys do not put the rows in order, the stores may disagree.** The word ties
with every number. A sort that merges halves brings all numbers in their order, and one that places
the rows one after the other leaves a number behind the word that belongs in front of it. -/
theorem stores_disagree_on_mixed_notes :
    byNote.About notes ∧
      (∀ row ∈ notes.rows, ∀ d ∈ notes.columns, row.contains d.name = true) ∧
      Rows.Sorting.IsStable Rows.merged ∧ Rows.Sorting.IsStable Rows.inserted ∧
      ∃ statement finding rows rows',
        Relational.compile (.select byNote) = .ok ⟨.select statement, []⟩ ∧
          Document.compile (.select byNote) = .ok ⟨⟨"notes", .find finding⟩, []⟩ ∧
          notes.selectBy Rows.merged .standard [] statement = .ok rows ∧
          Document.Collection.findBy ⟨notes.rows, TextMap.empty⟩ Rows.inserted .standard finding =
            .ok rows' ∧
          texts rows = ["1", "2", "3", "abc", "4"] ++ (List.range' 5 16).map Nat.repr ∧
          texts rows' = ["1", "3", "abc", "2", "4"] ++ (List.range' 5 16).map Nat.repr ∧
          rows ≠ rows' := by
  have about : byNote.About notes := ⟨by decide, by decide, by decide, by decide⟩
  -- merging is carried out on the numbers, which compare as the notes do
  have compared : ∀ a ∈ [1, 3, 0, 4, 2] ++ List.range' 5 16,
      ∀ b ∈ [1, 3, 0, 4, 2] ++ List.range' 5 16, (a == 0 || b == 0 || decide (a ≤ b)) =
        (Rows.compareBy Relational.keyOrder byNote.orderings (note a) (note b)).isLE := by
    decide +kernel
  have merged : Rows.merged (Rows.compareBy Relational.keyOrder byNote.orderings) notes.rows =
      ([1, 2, 3, 0, 4] ++ List.range' 5 16).map note := by
    rw [Rows.merged, notes, ← List.map_mergeSort compared]
    exact congrArg (List.map note) (by cbv)
  have ascending : texts (([1, 2, 3, 0, 4] ++ List.range' 5 16).map note) =
      ["1", "2", "3", "abc", "4"] ++ (List.range' 5 16).map Nat.repr := by decide +kernel
  have misplaced :
      texts (Rows.inserted (Rows.compareBy Document.keyOrder byNote.orderings) notes.rows) =
        ["1", "3", "abc", "2", "4"] ++ (List.range' 5 16).map Nat.repr := by decide +kernel
  refine ⟨about, by decide, Rows.isStable_merged, Rows.isStable_inserted, _, _, _, _, rfl, rfl,
    congrArg Except.ok merged, rfl, ascending, misplaced, fun same => ?_⟩
  exact absurd (ascending.symm.trans ((congrArg texts same).trans misplaced)) (by decide)

end Selection

end Polystore
