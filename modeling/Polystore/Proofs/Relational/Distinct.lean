import Polystore.Proofs.Relational.Parts
import Polystore.Proofs.Relational.Reachable

/-!
# Distinct values stay distinct

Where duplicates are refused, each way to change a table has a check of its own: an added row is
compared with the rows that are there, a new index with its rows, and changed rows and columns with
one another. All of them come to one property, that no two rows have one key over the columns of a
unique set, rows excepted that hold nothing but `null` there; and no way to change a table avoids
its check.
-/

namespace Polystore

/-! ## Rows that have no key in common -/

/-- No two of the rows have one key over columns; rows that are blank there are exempt. -/
def DistinctOver (columns : List String) (rows : List Row) : Prop :=
  rows.Pairwise fun a b =>
    a.isBlankIn columns = false → b.isBlankIn columns = false → a.key columns ≠ b.key columns

theorem DistinctOver.sublist {columns : List String} {rows fewer : List Row}
    (h : DistinctOver columns rows) (part : fewer.Sublist rows) : DistinctOver columns fewer :=
  List.Pairwise.sublist part h

theorem DistinctOver.append {columns : List String} {rows : List Row} {row : Row}
    (h : DistinctOver columns rows)
    (fresh : row.isBlankIn columns = false →
      ∀ other ∈ rows, other.key columns ≠ row.key columns) :
    DistinctOver columns (rows ++ [row]) := by
  refine List.pairwise_append.mpr ⟨h, List.pairwise_singleton _ _, ?_⟩
  intro other ho row' hr _ filled
  obtain rfl := List.mem_singleton.mp hr
  exact fresh filled other ho

/-- Rows whose values keys do not tell apart have one key. -/
theorem Row.key_congr {columns : List String} {a b : Row}
    (same : ∀ c ∈ columns, (a.at c).keyText = (b.at c).keyText) : a.key columns = b.key columns := by
  have texts : (columns.map a.at).map Value.keyText = (columns.map b.at).map Value.keyText := by
    rw [List.map_map, List.map_map]
    exact List.map_congr_left same
  rw [key, key, Rows.key, Rows.key, Rows.keyOf, Rows.keyOf, texts]

theorem Row.isBlankIn_congr {columns : List String} {a b : Row}
    (same : ∀ c ∈ columns, (a.at c).isNull = (b.at c).isNull) :
    a.isBlankIn columns = b.isBlankIn columns := by
  rw [isBlankIn, isBlankIn, Bool.eq_iff_iff, List.all_eq_true, List.all_eq_true]
  exact forall₂_congr fun c hc => by rw [same c hc]

/-- Rows with the keys of distinct rows are distinct. -/
theorem DistinctOver.map {columns : List String} {rows : List Row} {f : Row → Row}
    (h : DistinctOver columns rows)
    (key : ∀ row ∈ rows, (f row).key columns = row.key columns)
    (blank : ∀ row ∈ rows, (f row).isBlankIn columns = row.isBlankIn columns) :
    DistinctOver columns (rows.map f) := by
  refine List.pairwise_map.mpr (h.imp_of_mem fun {a b} ha hb apart => ?_)
  rw [key a ha, key b hb, blank a ha, blank b hb]
  exact apart

/-- The search for a repeated key finds none just when the rows are distinct and have no key among
those that were seen before. -/
theorem firstRepeated_eq_none {columns : List String} {seen : List String} {rows : List Row} :
    firstRepeated columns seen rows = none ↔
      DistinctOver columns rows ∧
        ∀ row ∈ rows, row.isBlankIn columns = false → row.key columns ∉ seen := by
  induction rows generalizing seen with
  | nil => simp [firstRepeated, DistinctOver]
  | cons row rest ih =>
    rw [firstRepeated, DistinctOver, List.pairwise_cons]
    cases blank : row.isBlankIn columns with
    | true =>
      rw [if_pos rfl, ih]
      simp [DistinctOver, blank]
    | false =>
      rw [if_neg Bool.false_ne_true]
      dsimp only
      split
      · rename_i repeated
        simp [blank, List.contains_iff_mem.mp repeated]
      · rename_i fresh
        have fresh : row.key columns ∉ seen := fun h => fresh (List.contains_iff_mem.mpr h)
        rw [ih]
        constructor
        · rintro ⟨distinct, unseen⟩
          refine ⟨⟨fun other ho _ filled eq => ?_, distinct⟩, fun other ho filled => ?_⟩
          · exact unseen other ho filled (eq ▸ List.mem_cons_self)
          · rcases List.mem_cons.mp ho with rfl | ho
            · exact fresh
            · exact fun h => unseen other ho filled (List.mem_cons_of_mem _ h)
        · rintro ⟨⟨apart, distinct⟩, unseen⟩
          refine ⟨distinct, fun other ho filled h => ?_⟩
          rcases List.mem_cons.mp h with eq | h
          · exact apart other ho rfl filled eq.symm
          · exact unseen other (List.mem_cons_of_mem row ho) filled h

theorem firstRepeated_nil_eq_none {columns : List String} {rows : List Row} :
    firstRepeated columns [] rows = none ↔ DistinctOver columns rows := by
  rw [firstRepeated_eq_none]
  simp

namespace Relational.Table

/-! ## The checks -/

/-- A row to be added has, over columns, the key of a row of the table. -/
def Repeats (t : Table) (columns : List String) (row : Row) : Prop :=
  row.isBlankIn columns = false ∧ ∃ other ∈ t.rows, other.key columns = row.key columns

theorem checkSets_eq_ok {t : Table} {sets : List (String × List String)} :
    t.checkSets sets = .ok () ↔ ∀ set ∈ sets, DistinctOver set.2 t.rows := by
  induction sets with
  | nil => simp [checkSets]
  | cons set rest ih =>
    obtain ⟨label, columns⟩ := set
    rw [checkSets, List.forall_mem_cons, ← ih, ← firstRepeated_nil_eq_none]
    cases firstRepeated columns [] t.rows <;> simp

/-- A row that repeats nothing passes. -/
theorem checkRowAgainst_eq_ok {t : Table} {row : Row} {sets : List (String × List String)} :
    t.checkRowAgainst row sets = .ok () ↔ ∀ set ∈ sets, ¬t.Repeats set.2 row := by
  induction sets with
  | nil => simp [checkRowAgainst]
  | cons set rest ih =>
    obtain ⟨label, columns⟩ := set
    rw [checkRowAgainst, List.forall_mem_cons, ← ih, Repeats]
    cases row.isBlankIn columns with
    | true => simp
    | false =>
      rw [if_neg Bool.false_ne_true]
      dsimp only
      split
      · rename_i clash
        obtain ⟨other, ho, eq⟩ := List.any_eq_true.mp clash
        exact iff_of_false (by simp) fun h => h.1 ⟨rfl, other, ho, eq_of_beq eq⟩
      · rename_i fresh
        refine ⟨fun h => ⟨?_, h⟩, fun h => h.2⟩
        rintro ⟨_, other, ho, eq⟩
        exact fresh (List.any_eq_true.mpr ⟨other, ho, beq_of_eq eq⟩)

/-- A row that is refused repeats the set that the error names. -/
theorem checkRowAgainst_eq_error {t : Table} {row : Row} {sets : List (String × List String)}
    {e : Error} (h : t.checkRowAgainst row sets = .error e) :
    ∃ set ∈ sets, t.Repeats set.2 row ∧ e = t.duplicate set.1 (row.key set.2) := by
  induction sets with
  | nil => cases h
  | cons set rest ih =>
    obtain ⟨label, columns⟩ := set
    rw [checkRowAgainst] at h
    cases blank : row.isBlankIn columns with
    | true =>
      rw [blank, if_pos rfl] at h
      obtain ⟨set, hset, found⟩ := ih h
      exact ⟨set, List.mem_cons_of_mem _ hset, found⟩
    | false =>
      rw [blank, if_neg Bool.false_ne_true] at h
      dsimp only at h
      split at h
      · rename_i clash
        obtain ⟨other, ho, eq⟩ := List.any_eq_true.mp clash
        exact ⟨(label, columns), List.mem_cons_self, ⟨blank, other, ho, eq_of_beq eq⟩,
          (Except.error.inj h).symm⟩
      · obtain ⟨set, hset, found⟩ := ih h
        exact ⟨set, List.mem_cons_of_mem _ hset, found⟩

/-! ## Unique sets -/

theorem mem_uniqueSets_of_column {t : Table} {d : ColumnDef} (h : d ∈ t.columns)
    (unique : d.column.primary = true ∨ d.column.unique = true) :
    (d.name, [d.name]) ∈ t.uniqueSets := by
  refine List.mem_append_left _ (List.mem_map.mpr ⟨d, List.mem_filter.mpr ⟨h, ?_⟩, rfl⟩)
  rw [Bool.or_eq_true]
  exact unique

theorem mem_uniqueSets_of_index {t : Table} {b : String × Index} (h : b ∈ t.indexes.entries)
    (unique : b.2.unique = true) : (b.1, b.2.columns) ∈ t.uniqueSets :=
  List.mem_append_right _ (List.mem_map.mpr ⟨b, List.mem_filter.mpr ⟨h, unique⟩, rfl⟩)

/-- What has to be distinct does not depend on the rows, nor on where the indexes find them. -/
theorem uniqueSets_map (t : Table) (rows : List Row) (f : Index → Index)
    (columns : ∀ i, (f i).columns = i.columns) (unique : ∀ i, (f i).unique = i.unique) :
    uniqueSets { t with rows, indexes := t.indexes.map f } = t.uniqueSets := by
  rw [uniqueSets, uniqueSets, TextMap.map]
  congr 1
  rw [List.filter_map, List.map_map]
  congr 1
  · funext b
    exact congrArg _ (columns b.2)
  · exact List.filter_congr fun b _ => unique b.2

@[simp] theorem rows_push (t : Table) (row : Row) : (t.push row).rows = t.rows ++ [row] := rfl

@[simp] theorem uniqueSets_push (t : Table) (row : Row) :
    (t.push row).uniqueSets = t.uniqueSets :=
  uniqueSets_map t (t.rows ++ [row]) (·.add t.rows.length row) (fun _ => rfl) fun _ => rfl

/-! ## Tables without duplicates -/

/-- The rows of the table repeat nothing that must be distinct. -/
def Distinct (t : Table) : Prop := ∀ set ∈ t.uniqueSets, DistinctOver set.2 t.rows

theorem distinct_iff {t : Table} : t.Distinct ↔ t.checkUniqueAll = .ok () := checkSets_eq_ok.symm

theorem Distinct.reindexed {t : Table} (h : t.Distinct) : t.reindexed.Distinct := by
  intro set hset
  have same := uniqueSets_map t t.rows (·.rebuilt t.rows) (fun i => Index.columns_rebuilt i _)
    fun i => Index.unique_rebuilt i _
  exact h set (same ▸ hset)

theorem Distinct.push {t : Table} {row : Row} (h : t.Distinct)
    (checked : t.checkUniqueRow row = .ok ()) : (t.push row).Distinct := by
  intro set hset
  rw [uniqueSets_push] at hset
  refine (h set hset).append fun filled other ho eq => ?_
  exact checkRowAgainst_eq_ok.mp checked set hset ⟨filled, other, ho, eq⟩

/-- No statement brings in a duplicate where duplicates are refused. -/
theorem distinct_kept {config : Config} (enforced : config.enforceUnique = true) :
    Kept config Distinct where
  made := by
    intro name columns t made
    obtain ⟨_, _, _, rfl⟩ := newTable_eq_ok made
    intro set _
    exact List.Pairwise.nil
  indexMade := by
    intro t table index columns unique next h made
    obtain ⟨_, _, checked, rfl⟩ := withIndex_eq_ok made
    intro set hset
    rcases List.mem_append.mp hset with hset | hset
    · exact h set (List.mem_append_left _ hset)
    · obtain ⟨b, hb, rfl⟩ := List.mem_map.mp hset
      obtain ⟨hb, isUnique⟩ := List.mem_filter.mp hb
      rcases TextMap.mem_put hb with rfl | stored
      · have unique : unique = true := (Index.unique_build _ _ t.rows).symm.trans isUnique
        show DistinctOver (Index.build columns _ t.rows).columns t.rows
        rw [Index.columns_build]
        exact firstRepeated_nil_eq_none.mp (checked unique enforced)
      · exact h _ (mem_uniqueSets_of_index stored isUnique)
  indexDropped := by
    intro t index h set hset
    rcases List.mem_append.mp hset with hset | hset
    · exact h set (List.mem_append_left _ hset)
    · obtain ⟨b, hb, rfl⟩ := List.mem_map.mp hset
      obtain ⟨hb, isUnique⟩ := List.mem_filter.mp hb
      exact h _ (mem_uniqueSets_of_index (List.mem_filter.mp hb).1 isUnique)
  inserted := by
    intro t table last params values row counter h made
    exact h.push ((newRow_eq_ok made).2 enforced)
  updated := by
    intro t table params assignments changes rows next _ _ _ made
    obtain ⟨checked, rfl⟩ := withChanges_eq_ok made
    exact (distinct_iff.mpr (checked enforced)).reindexed
  deleted := by
    intro t rows h stored
    have fewer : ((rows.filter (!·.2)).map (·.1)).Sublist t.rows :=
      stored ▸ List.filter_sublist.map _
    refine Distinct.reindexed fun set hset => (h set hset).sublist fewer
  altered := by
    intro t table last alterations a _ made
    obtain ⟨b, _, _, checked, rfl⟩ := altered_eq_ok made
    exact (distinct_iff.mpr (checked enforced)).reindexed

end Relational.Table

namespace Relational

/-- **Where duplicates are refused there are none**: in every reachable store no two rows of a table
have one value in a primary or a unique column, nor one key over the columns of a unique index,
rows excepted that hold nothing but `null` there; the search for a repeated key finds none. -/
theorem unique_values_distinct {s : Store} {table : String} {t : Table}
    (h : Reachable Command.Enforcing s) (found : s.tables.get? table = some t) :
    (∀ d ∈ t.columns, d.column.primary = true ∨ d.column.unique = true →
        DistinctOver [d.name] t.rows) ∧
      (∀ index i, t.indexes.get? index = some i → i.unique = true →
        DistinctOver i.columns t.rows) ∧
      ∀ set ∈ t.uniqueSets, firstRepeated set.2 [] t.rows = none := by
  have distinct : t.Distinct :=
    h.allTables (fun _ _ enforced => Table.distinct_kept enforced) table t found
  refine ⟨fun d hd unique => ?_, fun index i stored unique => ?_, fun set hset => ?_⟩
  · exact distinct _ (Table.mem_uniqueSets_of_column hd unique)
  · exact distinct _ (Table.mem_uniqueSets_of_index (TextMap.mem_of_get? stored) unique)
  · exact firstRepeated_nil_eq_none.mpr (distinct set hset)

theorem unique_values_distinct_stock :
    Reachable Command.Enforcing (Store.empty.afterAll stockTaking) ∧
      (Store.empty.afterAll stockTaking).tables.get? "items" = some stock ∧
      (∀ d ∈ stock.columns, d.column.primary = true ∨ d.column.unique = true →
        DistinctOver [d.name] stock.rows) ∧
      (∀ index i, stock.indexes.get? index = some i → i.unique = true →
        DistinctOver i.columns stock.rows) ∧
      ∀ set ∈ stock.uniqueSets, firstRepeated set.2 [] stock.rows = none :=
  ⟨reachable_stockTaking, stockTaking_leaves,
    unique_values_distinct reachable_stockTaking stockTaking_leaves⟩

end Relational

end Polystore
