import Polystore.Proofs.Relational.Rows

/-!
# Tables without an index

Nothing that is done to a table looks anything up in an index. Of the indexes it sees which names
are taken, and over which columns the unique ones are; whatever changes the table carries all of
them along. An index that is not unique can therefore be taken out before a change or after it: the
change succeeds or fails alike, and makes the same table. For each part of a statement one lemma
says so.
-/

namespace Polystore.Relational

open Outcome

namespace Table

/-! ## What does not look at the indexes -/

section

variable (t : Table) (indexes : TextMap Index) (table : String) (config : Config)
  (params : List Value)

theorem requireColumns_indexes (names : List String) :
    requireColumns { t with indexes } names = t.requireColumns names := by
  induction names with
  | nil => rfl
  | cons name rest ih =>
    rw [requireColumns, requireColumns, ih]
    rfl

theorem marked_indexes (filter : Option Predicate) :
    marked { t with indexes } config params filter = t.marked config params filter := by
  have checked : checkFilter { t with indexes } filter = t.checkFilter filter := by
    cases filter with
    | none => rfl
    | some p => exact requireColumns_indexes t indexes p.columns
  rw [marked, marked, checked]

theorem select_indexes (q : SelectStatement) :
    select { t with indexes } config params q = t.select config params q := by
  simp only [select, selectBy, requireColumns_indexes, marked_indexes]

theorem changes_indexes (assignments : List (String × Operand)) :
    changes { t with indexes } table params assignments = t.changes table params assignments := by
  induction assignments with
  | nil => rfl
  | cons assignment rest ih =>
    rw [changes, changes, ih]
    rfl

theorem candidate_indexes (last : Int64) (values : List (String × Operand)) :
    candidate { t with indexes } table last params values =
      t.candidate table last params values := by
  rw [candidate, candidate, givenRow_withRows t t.rows indexes]
  rfl

theorem checkRowAgainst_indexes (row : Row) (sets : List (String × List String)) :
    checkRowAgainst { t with indexes } row sets = t.checkRowAgainst row sets := by
  induction sets with
  | nil => rfl
  | cons set rest ih =>
    rw [checkRowAgainst, checkRowAgainst, ih]
    rfl

theorem checkSets_indexes (sets : List (String × List String)) :
    checkSets { t with indexes } sets = t.checkSets sets := by
  induction sets with
  | nil => rfl
  | cons set rest ih =>
    rw [checkSets, checkSets, ih]
    rfl

end

/-! ## Tables without an index -/

variable {t : Table} {index : String}

/-- The table without an index. -/
def withoutIndex (t : Table) (index : String) : Table :=
  { t with indexes := t.indexes.erase index }

theorem rows_withoutIndex (t : Table) (index : String) : (t.withoutIndex index).rows = t.rows := rfl

theorem contains_withoutIndex {other : String} (ne : other ≠ index) (t : Table) :
    (t.withoutIndex index).indexes.contains other = t.indexes.contains other :=
  TextMap.contains_erase_of_ne ne.symm t.indexes

theorem select_withoutIndex (t : Table) (index : String) (config : Config) (params : List Value)
    (q : SelectStatement) :
    (t.withoutIndex index).select config params q = t.select config params q :=
  select_indexes ..

theorem marked_withoutIndex (t : Table) (index : String) (config : Config) (params : List Value)
    (filter : Option Predicate) :
    (t.withoutIndex index).marked config params filter = t.marked config params filter :=
  marked_indexes ..

theorem changes_withoutIndex (t : Table) (index table : String) (params : List Value)
    (assignments : List (String × Operand)) :
    (t.withoutIndex index).changes table params assignments =
      t.changes table params assignments :=
  changes_indexes ..

/-- There is no unique index of a name. -/
def Plain (index : String) (t : Table) : Prop :=
  ∀ b ∈ t.indexes.entries, b.1 = index → b.2.unique = false

/-- An index that is not unique does not count among what must be distinct. -/
theorem uniqueSets_withoutIndex (plain : t.Plain index) :
    (t.withoutIndex index).uniqueSets = t.uniqueSets := by
  have kept : (t.indexes.erase index).entries.filter (·.2.unique) =
      t.indexes.entries.filter (·.2.unique) := by
    show (t.indexes.entries.filter (·.1 ≠ index)).filter (·.2.unique) = _
    rw [List.filter_filter]
    refine List.filter_congr fun b hb => ?_
    -- what the name takes out, the filter for unique indexes has taken out already
    by_cases named : b.1 = index
    · rw [plain b hb named, Bool.false_and]
    · rw [decide_eq_true named, Bool.and_true]
  rw [uniqueSets, uniqueSets, withoutIndex, kept]

theorem checkUniqueAll_withoutIndex (plain : t.Plain index) :
    (t.withoutIndex index).checkUniqueAll = t.checkUniqueAll := by
  rw [checkUniqueAll, checkUniqueAll, uniqueSets_withoutIndex plain]
  exact checkSets_indexes t _ _

theorem newRow_withoutIndex (plain : t.Plain index) (config : Config) (table : String)
    (last : Int64) (params : List Value) (values : List (String × Operand)) :
    (t.withoutIndex index).newRow config table last params values =
      t.newRow config table last params values := by
  have checked : ∀ row, (t.withoutIndex index).checkUniqueRow row = t.checkUniqueRow row := by
    intro row
    rw [checkUniqueRow, checkUniqueRow, uniqueSets_withoutIndex plain]
    exact checkRowAgainst_indexes t _ row _
  have same : (t.withoutIndex index).candidate table last params values =
      t.candidate table last params values := candidate_indexes ..
  rw [newRow_eq, newRow_eq, same]
  simp only [checked]

theorem push_withoutIndex (t : Table) (index : String) (row : Row) :
    (t.withoutIndex index).push row = (t.push row).withoutIndex index := by
  rw [push, push, withoutIndex, withoutIndex, TextMap.erase_map]

theorem reindexed_withoutIndex (t : Table) (index : String) :
    (t.withoutIndex index).reindexed = t.reindexed.withoutIndex index := by
  rw [reindexed, reindexed, withoutIndex, withoutIndex, TextMap.erase_map]

theorem checked_withoutIndex (plain : t.Plain index) (config : Config) :
    (t.withoutIndex index).checked config = (t.checked config).map (·.withoutIndex index) := by
  rw [checked, checked, checkUniqueAll_withoutIndex plain, reindexed_withoutIndex]
  cases config.enforceUnique with
  | false => rfl
  | true => cases t.checkUniqueAll <;> rfl

theorem withChanges_withoutIndex (plain : t.Plain index) (config : Config)
    (rows : List (Row × Bool)) (changes : List (String × Value)) :
    (t.withoutIndex index).withChanges config rows changes =
      (t.withChanges config rows changes).map (·.withoutIndex index) :=
  checked_withoutIndex (t := t.changed rows changes) plain config

theorem without_withoutIndex (t : Table) (index : String) (rows : List (Row × Bool)) :
    (t.withoutIndex index).without rows = (t.without rows).withoutIndex index :=
  reindexed_withoutIndex { t with rows := (rows.filter (!·.2)).map (·.1) } index

theorem withIndex_withoutIndex {other : String} (ne : other ≠ index) (t : Table) (config : Config)
    (table : String) (columns : List String) (unique : Bool) :
    (t.withoutIndex index).withIndex config table other columns unique =
      (t.withIndex config table other columns unique).map (·.withoutIndex index) := by
  have known : (t.withoutIndex index).requireColumns columns = t.requireColumns columns :=
    requireColumns_indexes ..
  have put := TextMap.erase_insert_of_ne ne t.indexes (Index.build columns unique t.rows)
  have made : (.ok { t.withoutIndex index with
        indexes := (t.withoutIndex index).indexes.insert other
          (Index.build columns unique t.rows) } : Outcome Table) =
      .ok (withoutIndex { t with
        indexes := t.indexes.insert other (Index.build columns unique t.rows) } index) := by
    rw [withoutIndex, withoutIndex, put]
  unfold withIndex
  dsimp only
  rw [known]
  cases columns.isEmpty with
  | true => rfl
  | false =>
    cases t.requireColumns columns with
    | error e => rfl
    | ok _ =>
      cases unique && config.enforceUnique with
      | false => exact made
      | true =>
        rw [rows_withoutIndex, if_pos rfl, if_pos rfl]
        cases firstRepeated columns [] t.rows with
        | some k => rfl
        | none => exact made

theorem dropIndex_withoutIndex (t : Table) (index other : String) :
    { t.withoutIndex index with indexes := (t.withoutIndex index).indexes.erase other } =
      withoutIndex { t with indexes := t.indexes.erase other } index := by
  rw [withoutIndex, withoutIndex, TextMap.erase_erase_comm]

end Table

/-! ## Changes of columns -/

namespace Altered

variable {a b : Altered} {table : String} {index : String}

/-- The table in the middle of a change, without an index. -/
def withoutIndex (a : Altered) (index : String) : Altered :=
  { a with table := a.table.withoutIndex index }

theorem addColumn_withoutIndex (a : Altered) (index table name : String) (c : Column) :
    (a.withoutIndex index).addColumn table name c =
      (a.addColumn table name c).map (·.withoutIndex index) := by
  have known : (a.withoutIndex index).table.column? name = a.table.column? name := rfl
  have rows : (a.withoutIndex index).table.rows = a.table.rows := rfl
  unfold addColumn
  dsimp only
  rw [known, rows]
  cases (a.table.column? name).isSome with
  | true => rfl
  | false =>
    cases storedDefault name c with
    | error e => rfl
    | ok default =>
      simp only [Bool.false_eq_true, if_false, ok_bind]
      split
      · rfl
      · split <;> rfl

theorem dropColumn_withoutIndex (a : Altered) (index name : String) :
    (a.withoutIndex index).dropColumn name = (a.dropColumn name).map (·.withoutIndex index) := by
  have known : (a.withoutIndex index).table.requireColumn name = a.table.requireColumn name := rfl
  have kept := TextMap.erase_filter a.table.indexes
    (fun _ i => !i.columns.contains name) index
  unfold dropColumn
  dsimp only
  rw [known]
  cases a.table.requireColumn name with
  | error e => rfl
  | ok c =>
    simp only [ok_bind, Except.map, withoutIndex, Table.withoutIndex, kept]

theorem modifyColumn_withoutIndex (a : Altered) (index table name : String) (c : Column) :
    (a.withoutIndex index).modifyColumn table name c =
      (a.modifyColumn table name c).map (·.withoutIndex index) := by
  have known : (a.withoutIndex index).table.requireColumn name = a.table.requireColumn name := rfl
  have rows : (a.withoutIndex index).table.rows = a.table.rows := rfl
  unfold modifyColumn
  dsimp only
  rw [known, rows]
  cases a.table.requireColumn name with
  | error e => rfl
  | ok _ =>
    rw [ok_bind, ok_bind]
    cases a.table.rows.mapM fun row =>
      (storedValue table name c (row.at name)).map (row.insert name) <;> rfl

theorem apply_withoutIndex (table index : String) (a : Altered) (alteration : Alteration) :
    Altered.apply table (a.withoutIndex index) alteration =
      (Altered.apply table a alteration).map (·.withoutIndex index) := by
  cases alteration with
  | add name c => exact addColumn_withoutIndex a index table name c
  | drop name => exact dropColumn_withoutIndex a index name
  | modify name c => exact modifyColumn_withoutIndex a index table name c

/-- A change of the columns makes no index. -/
theorem mem_indexes_apply {alteration : Alteration}
    (made : Altered.apply table a alteration = .ok b) :
    ∀ i ∈ b.table.indexes.entries, i ∈ a.table.indexes.entries := by
  cases alteration with
  | add name c =>
    obtain ⟨_, _, _, ⟨_, rfl⟩ | ⟨_, _, rfl⟩⟩ := addColumn_eq_ok made
    · exact fun i hi => hi
    · exact fun i hi => hi
  | drop name =>
    obtain ⟨_, rfl⟩ := dropColumn_eq_ok made
    exact fun i hi => (List.mem_filter.mp hi).1
  | modify name c =>
    obtain ⟨_, rows, _, rfl⟩ := modifyColumn_eq_ok made
    exact fun i hi => hi

end Altered

namespace Table

variable {t : Table} {index : String}

theorem Plain.map {f : Index → Index} (plain : t.Plain index) (rows : List Row)
    (unique : ∀ i, (f i).unique = i.unique) :
    Plain index { t with rows, indexes := t.indexes.map f } := by
  intro b hb named
  obtain ⟨old, ho, rfl⟩ := List.mem_map.mp hb
  rw [unique]
  exact plain old ho named

theorem Plain.reindexed (plain : t.Plain index) : t.reindexed.Plain index :=
  plain.map t.rows fun i => Index.unique_rebuilt i t.rows

theorem Plain.push (plain : t.Plain index) (row : Row) : (t.push row).Plain index :=
  plain.map (f := (·.add t.rows.length row)) _ fun _ => rfl

/-- An index that is not unique may come in under a free name. -/
theorem plain_insert {i : Index} (free : t.indexes.contains index = false)
    (plain : i.unique = false) :
    Plain index { t with indexes := t.indexes.insert index i } := by
  intro b hb named
  rcases TextMap.mem_put hb with rfl | stored
  · exact plain
  · -- no index of the table has the free name
    have taken : index ∈ t.indexes.keys := named ▸ List.mem_map_of_mem stored
    rw [TextMap.mem_keys_iff, free] at taken
    cases taken

theorem Plain.withIndex {config : Config} {table other : String} {columns : List String}
    {unique : Bool} {next : Table} (plain : t.Plain index) (ne : other ≠ index)
    (made : t.withIndex config table other columns unique = .ok next) : next.Plain index := by
  obtain ⟨_, _, _, rfl⟩ := withIndex_eq_ok made
  intro b hb named
  rcases TextMap.mem_put hb with rfl | stored
  · exact absurd named ne
  · exact plain b stored named

theorem Plain.dropIndex (plain : t.Plain index) (other : String) :
    Plain index { t with indexes := t.indexes.erase other } :=
  fun b hb => plain b (List.mem_filter.mp hb).1

theorem Plain.withChanges {config : Config} {rows : List (Row × Bool)}
    {changes : List (String × Value)} {next : Table} (plain : t.Plain index)
    (made : t.withChanges config rows changes = .ok next) : next.Plain index := by
  obtain ⟨_, rfl⟩ := withChanges_eq_ok made
  exact Plain.reindexed (t := t.changed rows changes) plain

theorem Plain.without (plain : t.Plain index) (rows : List (Row × Bool)) :
    (t.without rows).Plain index :=
  plain.map _ fun i => Index.unique_rebuilt i _

/-- The table in the middle of a list of changes has no unique index of the name either. -/
theorem Plain.foldlM {table : String} {alterations : List Alteration} {a b : Altered}
    (plain : a.table.Plain index)
    (made : alterations.foldlM (Altered.apply table) a = .ok b) : b.table.Plain index :=
  foldlM_invariant (P := fun a => a.table.Plain index)
    (fun _ _ _ _ h step i hi => h i (Altered.mem_indexes_apply step i hi)) plain made

theorem Plain.altered {config : Config} {table : String} {last : Int64}
    {alterations : List Alteration} {a : Altered} (plain : t.Plain index)
    (made : t.altered config table last alterations = .ok a) : a.table.Plain index := by
  obtain ⟨b, applied, _, _, rfl⟩ := altered_eq_ok made
  have kept : b.table.Plain index := Plain.foldlM plain applied
  exact kept.reindexed

theorem altered_withoutIndex (plain : t.Plain index) (config : Config) (table : String)
    (last : Int64) (alterations : List Alteration) :
    (t.withoutIndex index).altered config table last alterations =
      (t.altered config table last alterations).map (·.withoutIndex index) := by
  have applied : alterations.foldlM (Altered.apply table) ((t.withoutIndex index).start last) =
      (alterations.foldlM (Altered.apply table) (t.start last)).map (·.withoutIndex index) :=
    foldlM_map (Altered.apply_withoutIndex table index) alterations (t.start last)
  rw [altered_eq, altered_eq, applied]
  cases made : alterations.foldlM (Altered.apply table) (t.start last) with
  | error e => rfl
  | ok b =>
    have checked := checked_withoutIndex (Plain.foldlM plain made) config
    show (do
        checkColumns t.name b.table.columns
        ((b.table.withoutIndex index).checked config).map fun next => { b with table := next }) =
      Except.map (·.withoutIndex index) (do
        checkColumns t.name b.table.columns
        (b.table.checked config).map fun next => { b with table := next })
    rw [checked]
    cases checkColumns t.name b.table.columns with
    | error e => rfl
    | ok _ => cases b.table.checked config <;> rfl

end Table

end Polystore.Relational
