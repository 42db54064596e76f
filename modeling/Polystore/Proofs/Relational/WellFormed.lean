import Polystore.Proofs.Relational.Reachable
import Polystore.Proofs.Relational.Rows

/-!
# Tables stay well formed

Columns have names of their own and at most one of them counts up; a row holds a value for every
column and for nothing else, and no `null` where none may be; an index is over columns that are
there. A change of columns goes through tables that count up twice, since that is checked only at
its end. What holds in between as well is that the table is *coherent*: all of the above but the
counting.
-/

namespace Polystore

/-! ## Rows of a schema -/

/-- A row fits columns: it holds a value for each of them and for nothing else, and no `null` in a
column that is primary or refuses it. -/
structure Row.Fits (schema : Schema) (row : Row) : Prop where
  keys : ∀ name, name ∈ row.keys ↔ name ∈ schema.map (·.name)
  values : ∀ d ∈ schema, d.column.primary = true ∨ d.column.nullable = false →
    row.at d.name ≠ .null

/-- A column takes a value, unless it is `null` and the column is primary or refuses it. -/
def Column.Takes (c : Column) (v : Value) : Prop :=
  c.primary = true ∨ c.nullable = false → v ≠ .null

namespace Row.Fits

variable {schema : Schema} {row : Row} {name : String} {c : Column} {w : Value}

theorem each (h : row.Fits schema) : row.Each Column.Takes schema := h.values

theorem get?_eq (h : row.Fits schema) {d : ColumnDef} (there : d ∈ schema) :
    row.get? d.name = some (row.at d.name) := by
  have has := TextMap.mem_keys_iff.mp ((h.keys d.name).mpr (List.mem_map_of_mem there))
  obtain ⟨w, holds⟩ := Option.isSome_iff_exists.mp has
  rw [Row.at, holds]
  rfl

theorem add (h : row.Fits schema) (free : name ∉ schema.map (·.name))
    (fits : c.primary = true ∨ c.nullable = false → w ≠ .null) :
    Row.Fits (schema ++ [⟨name, c⟩]) (row.insert name w) where
  keys := by
    intro other
    rw [TextMap.mem_keys_iff, TextMap.contains_insert, ← TextMap.mem_keys_iff, h.keys,
      List.map_append, List.mem_append, List.map_singleton, List.mem_singleton, eq_comm, or_comm]
  values := h.each.add free fits

theorem drop (h : row.Fits schema) :
    Row.Fits (schema.filter (·.name ≠ name)) (row.erase name) where
  keys := by
    intro other
    rw [TextMap.mem_keys_iff, TextMap.contains_erase, ← TextMap.mem_keys_iff, h.keys]
    simp only [List.mem_map, List.mem_filter, decide_eq_true_eq]
    constructor
    · rintro ⟨ne, d, hd, rfl⟩
      exact ⟨d, ⟨hd, ne.symm⟩, rfl⟩
    · rintro ⟨d, ⟨hd, ne⟩, rfl⟩
      exact ⟨ne.symm, d, hd, rfl⟩
  values := h.each.drop

theorem modify (h : row.Fits schema) (distinct : (schema.map (·.name)).Nodup)
    (known : name ∈ schema.map (·.name))
    (fits : c.primary = true ∨ c.nullable = false → w ≠ .null) :
    Row.Fits (schema.withColumn name c) (row.insert name w) where
  keys := by
    intro other
    rw [TextMap.mem_keys_iff, TextMap.contains_insert, ← TextMap.mem_keys_iff, h.keys,
      Schema.names_withColumn known]
    exact ⟨fun h => h.elim (fun e => e ▸ known) id, .inr⟩
  values := h.each.modify distinct known fits

end Row.Fits

namespace Relational

open Outcome

namespace Table

/-! ## Coherent tables -/

/-- Column names differ, the rows fit the columns, and every index is over some of the columns. -/
structure Coherent (t : Table) : Prop where
  distinct : t.names.Nodup
  fits : ∀ row ∈ t.rows, row.Fits t.columns
  indexed : ∀ b ∈ t.indexes.entries, b.2.columns ≠ [] ∧ ∀ c ∈ b.2.columns, c ∈ t.names

/-- The table is coherent, and at most one of its columns counts up. -/
structure WellFormed (t : Table) : Prop extends Coherent t where
  counting : (t.columns.filter (·.column.autoIncrement)).length ≤ 1

variable {t : Table} {table : String} {params : List Value}

theorem Coherent.withRows {rows : List Row} (h : t.Coherent)
    (fits : ∀ row ∈ rows, row.Fits t.columns) : Coherent { t with rows } :=
  { h with fits }

theorem Coherent.reindexed (h : t.Coherent) : t.reindexed.Coherent where
  distinct := h.distinct
  fits := h.fits
  indexed := by
    intro b hb
    obtain ⟨old, stored, rfl⟩ := List.mem_map.mp hb
    rw [Index.columns_rebuilt]
    exact h.indexed old stored

/-- At most one column counts up, so a column that is an identity is the one that is numbered. -/
theorem WellFormed.identity?_eq {d : ColumnDef} (h : t.WellFormed) (there : d ∈ t.columns)
    (identity : d.column.isIdentity = true) : t.identity? = some d := by
  have counts : ∀ e : ColumnDef, e.column.isIdentity = true → e.column.autoIncrement = true :=
    fun e he => (Bool.and_eq_true_iff.mp he).1
  cases first : t.identity? with
  | none =>
    rw [identity?, List.find?_eq_none] at first
    exact absurd identity (first d there)
  | some e =>
    have one : d ∈ t.columns.filter (·.column.autoIncrement) :=
      List.mem_filter.mpr ⟨there, counts d identity⟩
    have other : e ∈ t.columns.filter (·.column.autoIncrement) :=
      List.mem_filter.mpr ⟨mem_of_identity? first, counts e (isIdentity_of_identity? first)⟩
    have few := h.counting
    rcases counted : t.columns.filter (·.column.autoIncrement) with _ | ⟨x, _ | ⟨y, rest⟩⟩
    · rw [counted] at one
      cases one
    · rw [counted] at one other
      rw [List.mem_singleton.mp one, List.mem_singleton.mp other]
    · rw [counted, List.length_cons, List.length_cons] at few
      omega

/-! ## Rows that statements make -/

theorem fits_of_candidate {last : Int64} {values : List (String × Operand)} {row : Row}
    {counter : Option (String × Int64)}
    (h : t.candidate table last params values = .ok (row, counter)) : row.Fits t.columns := by
  obtain ⟨given, numbered, hgiven, hnumbered, hrow⟩ := candidate_eq_ok h
  have filled := completedRow_filled hrow
  constructor
  · intro name
    rw [TextMap.mem_keys_iff]
    constructor
    · intro has
      rcases completedRow_get? hrow name with kept | ⟨_, d, hd, rfl, _⟩
      · have has : numbered.contains name = true := by rw [TextMap.contains, ← kept]; exact has
        exact (withIdentity_contains hnumbered has).elim (mem_names_of_givenRow hgiven) id
      · exact List.mem_map_of_mem hd
    · intro known
      obtain ⟨d, hd, rfl⟩ := List.mem_map.mp known
      exact (filled d hd).1
  · intro d hd required
    exact isNull_eq_false.mp ((filled d hd).2 (requiresValue_iff.mpr required))

theorem fits_changedRow {assignments : List (String × Operand)}
    {changes : List (String × Value)} {row : Row} (h : t.Coherent) (fits : row.Fits t.columns)
    (made : t.changes table params assignments = .ok changes) :
    (changedRow changes row).Fits t.columns := by
  obtain ⟨_, assigned⟩ := changes_eq_ok made
  constructor
  · intro name
    rw [← fits.keys, TextMap.mem_keys_iff, TextMap.mem_keys_iff, TextMap.contains]
    rcases changedRow_get? changes row name with kept | ⟨b, hb, rfl, set⟩
    · rw [kept]
      rfl
    · obtain ⟨c, _, known, _⟩ := assigned b hb
      have known : b.1 ∈ t.names := mem_names_of_column? known
      rw [set]
      exact iff_of_true rfl (TextMap.mem_keys_iff.mp ((fits.keys b.1).mpr known))
  · intro d hd required
    rcases changedRow_get? changes row d.name with kept | ⟨b, hb, named, set⟩
    · rw [Row.at, kept]
      exact fits.values d hd required
    · obtain ⟨c, v, known, stored⟩ := assigned b hb
      rw [named, column?, Schema.column?_of_mem h.distinct hd] at known
      cases known
      rw [Row.at, set]
      exact isNull_eq_false.mp ((storedValue_eq_ok stored).2 (requiresValue_iff.mpr required))

end Table

/-! ## Changes of columns -/

namespace Altered

variable {a b : Altered} {table name : String} {c : Column}

theorem coherent_addColumn (h : a.table.Coherent) (made : a.addColumn table name c = .ok b) :
    b.table.Coherent := by
  obtain ⟨absent, default, _, made⟩ := addColumn_eq_ok made
  have free : name ∉ a.table.names := Table.not_mem_names_of_column? absent
  have distinct : ((a.table.columns ++ [(⟨name, c⟩ : ColumnDef)]).map (·.name)).Nodup := by
    rw [List.map_append, List.nodup_append]
    refine ⟨h.distinct, List.nodup_cons.mpr ⟨List.not_mem_nil, List.nodup_nil⟩, ?_⟩
    intro other ho new hn same
    have new : new = name := List.mem_singleton.mp hn
    exact free (new ▸ same ▸ ho)
  have indexed : ∀ i ∈ a.table.indexes.entries, i.2.columns ≠ [] ∧
      ∀ column ∈ i.2.columns,
        column ∈ (a.table.columns ++ [(⟨name, c⟩ : ColumnDef)]).map (·.name) := by
    intro i hi
    refine ⟨(h.indexed i hi).1, fun column hc => ?_⟩
    rw [List.map_append]
    exact List.mem_append_left _ ((h.indexed i hi).2 column hc)
  rcases made with ⟨_, rfl⟩ | ⟨_, fits, rfl⟩
  · refine ⟨distinct, fun row hr => ?_, indexed⟩
    obtain ⟨old, ho, k, _, rfl⟩ := mem_numbered hr
    exact (h.fits old ho).add free fun _ => by simp
  · refine ⟨distinct, fun row hr => ?_, indexed⟩
    obtain ⟨old, ho, rfl⟩ := List.mem_map.mp hr
    refine (h.fits old ho).add free fun required null => ?_
    -- a required column without a default is added only while there are no rows
    rw [fits (requiresValue_iff.mpr required) (by rw [null]; rfl)] at ho
    cases ho

theorem coherent_dropColumn (h : a.table.Coherent) (made : a.dropColumn name = .ok b) :
    b.table.Coherent := by
  obtain ⟨_, rfl⟩ := dropColumn_eq_ok made
  refine ⟨?_, fun row hr => ?_, fun i hi => ?_⟩
  · exact h.distinct.sublist (List.filter_sublist.map _)
  · obtain ⟨old, ho, rfl⟩ := List.mem_map.mp hr
    exact (h.fits old ho).drop
  · obtain ⟨hi, kept⟩ := List.mem_filter.mp hi
    obtain ⟨some, named⟩ := h.indexed i hi
    refine ⟨some, fun column hc => ?_⟩
    obtain ⟨d, hd, rfl⟩ := List.mem_map.mp (named column hc)
    refine List.mem_map_of_mem (List.mem_filter.mpr ⟨hd, ?_⟩)
    rw [decide_eq_true_eq]
    rintro rfl
    have kept : (!i.2.columns.contains d.name) = true := kept
    rw [List.contains_iff_mem.mpr hc] at kept
    cases kept

theorem coherent_modifyColumn (h : a.table.Coherent)
    (made : a.modifyColumn table name c = .ok b) : b.table.Coherent := by
  obtain ⟨known, rows, stored, rfl⟩ := modifyColumn_eq_ok made
  have names : (Schema.withColumn a.table.columns name c).map (·.name) = a.table.names :=
    Schema.names_withColumn known
  refine ⟨?_, fun row hr => ?_, fun i hi => ?_⟩
  · show ((Schema.withColumn a.table.columns name c).map (·.name)).Nodup
    rw [names]
    exact h.distinct
  · obtain ⟨old, ho, made⟩ := mem_of_mapM stored row hr
    obtain ⟨w, storable, rfl⟩ := map_eq_ok.mp made
    refine (h.fits old ho).modify h.distinct known fun required => ?_
    exact isNull_eq_false.mp ((storedValue_eq_ok storable).2 (requiresValue_iff.mpr required))
  · refine ⟨(h.indexed i hi).1, fun column hc => ?_⟩
    show column ∈ (Schema.withColumn a.table.columns name c).map (·.name)
    rw [names]
    exact (h.indexed i hi).2 column hc

theorem coherent_apply {alteration : Alteration} (h : a.table.Coherent)
    (made : Altered.apply table a alteration = .ok b) : b.table.Coherent := by
  cases alteration with
  | add name c => exact coherent_addColumn h made
  | drop name => exact coherent_dropColumn h made
  | modify name c => exact coherent_modifyColumn h made

end Altered

/-! ## All statements -/

namespace Table

/-- No statement makes a table ill formed. -/
theorem wellFormed_kept (config : Config) : Kept config WellFormed where
  made := by
    intro name columns t made
    obtain ⟨_, _, checked, rfl⟩ := newTable_eq_ok made
    obtain ⟨counting, distinct⟩ := checkColumns_eq_ok checked
    exact ⟨⟨distinct, nofun, nofun⟩, counting⟩
  indexMade := by
    intro t table index columns unique next h made
    obtain ⟨some, known, _, rfl⟩ := withIndex_eq_ok made
    refine ⟨⟨h.distinct, h.fits, fun b hb => ?_⟩, h.counting⟩
    rcases TextMap.mem_put hb with rfl | stored
    · rw [Index.columns_build]
      exact ⟨some, mem_names_of_requireColumns (t := t) known⟩
    · exact h.indexed b stored
  indexDropped := by
    intro t index h
    exact ⟨⟨h.distinct, h.fits, fun b hb => h.indexed b (List.mem_filter.mp hb).1⟩, h.counting⟩
  inserted := by
    intro t table last params values row counter h made
    refine ⟨⟨h.distinct, fun other ho => ?_, fun b hb => ?_⟩, h.counting⟩
    · rcases List.mem_append.mp ho with ho | ho
      · exact h.fits other ho
      · obtain rfl := List.mem_singleton.mp ho
        exact fits_of_candidate (t := t) (newRow_eq_ok made).1
    · obtain ⟨old, stored, rfl⟩ := List.mem_map.mp hb
      exact h.indexed old stored
  updated := by
    intro t table params assignments changes rows next h assigned stored made
    obtain ⟨_, rfl⟩ := withChanges_eq_ok made
    refine ⟨Coherent.reindexed (h.withRows fun row hr => ?_), h.counting⟩
    rcases mem_changed stored hr with hr | ⟨old, ho, rfl⟩
    · exact h.fits row hr
    · exact fits_changedRow h.toCoherent (h.fits old ho) assigned
  deleted := by
    intro t rows h stored
    refine ⟨Coherent.reindexed (h.withRows fun row hr => ?_), h.counting⟩
    exact h.fits row (mem_without stored hr)
  altered := by
    intro t table last alterations a h made
    obtain ⟨b, applied, checked, _, rfl⟩ := altered_eq_ok made
    have start : (t.start last).table.Coherent := h.toCoherent
    have coherent : b.table.Coherent :=
      foldlM_invariant (P := fun a => a.table.Coherent)
        (fun _ _ _ _ h made => Altered.coherent_apply h made) start applied
    exact ⟨coherent.reindexed, (checkColumns_eq_ok checked).1⟩

end Table

/-- **In every reachable store every table is well formed**: its columns have names of their own, at
most one of them counts up, every row holds a value for exactly the columns and no `null` in a
column that is primary or refuses it, and every index is over at least one column and only over
columns of the table. -/
theorem tables_well_formed {s : Store} {table : String} {t : Table}
    (h : Reachable Command.Any s) (found : s.tables.get? table = some t) :
    (t.columns.map (·.name)).Nodup ∧
      (t.columns.filter (·.column.autoIncrement)).length ≤ 1 ∧
      (∀ row ∈ t.rows, ∀ name, name ∈ row.keys ↔ name ∈ t.columns.map (·.name)) ∧
      (∀ row ∈ t.rows, ∀ d ∈ t.columns, d.column.primary = true ∨ d.column.nullable = false →
        row.at d.name ≠ .null) ∧
      ∀ index i, t.indexes.get? index = some i →
        i.columns ≠ [] ∧ ∀ c ∈ i.columns, c ∈ t.columns.map (·.name) := by
  have wellFormed : t.WellFormed :=
    h.allTables (fun _ c _ => Table.wellFormed_kept c.config) table t found
  exact ⟨wellFormed.distinct, wellFormed.counting, fun row hr => (wellFormed.fits row hr).keys,
    fun row hr => (wellFormed.fits row hr).values,
    fun index i stored => wellFormed.indexed _ (TextMap.mem_of_get? stored)⟩

theorem tables_well_formed_stock :
    Reachable Command.Any (Store.empty.afterAll stockTaking) ∧
      (Store.empty.afterAll stockTaking).tables.get? "items" = some stock ∧
      (stock.columns.map (·.name)).Nodup ∧
      (stock.columns.filter (·.column.autoIncrement)).length ≤ 1 ∧
      (∀ row ∈ stock.rows, ∀ name, name ∈ row.keys ↔ name ∈ stock.columns.map (·.name)) ∧
      (∀ row ∈ stock.rows, ∀ d ∈ stock.columns,
        d.column.primary = true ∨ d.column.nullable = false → row.at d.name ≠ .null) ∧
      ∀ index i, stock.indexes.get? index = some i →
        i.columns ≠ [] ∧ ∀ c ∈ i.columns, c ∈ stock.columns.map (·.name) :=
  ⟨reachable_stockTaking.any, stockTaking_leaves,
    tables_well_formed reachable_stockTaking.any stockTaking_leaves⟩

end Relational

end Polystore
