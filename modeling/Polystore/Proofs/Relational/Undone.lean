import Mathlib
import Polystore.Proofs.Relational.Distinct
import Polystore.Proofs.Relational.Indexed
import Polystore.Proofs.Relational.Numbers
import Polystore.Proofs.Relational.WellFormed

/-!
# A column added and dropped

Dropping a column undoes its addition. What was filled into the rows is taken out of them, no index
is over a column that has just come, and the table passes once more the checks that it passed with
the column. The counter is the one thing that an addition replaces, and it replaces none that
counts: a table with an identity takes no second one.
-/

namespace Polystore

/-! ## Rows without a column -/

namespace Row

variable {columns : List String} {name : String}

theorem key_erase (out : name ∉ columns) (row : Row) :
    Row.key columns (row.erase name) = row.key columns :=
  key_congr fun _ hc => by rw [at_erase_of_ne (ne_of_mem_of_not_mem hc out).symm row]

theorem isBlankIn_erase (out : name ∉ columns) (row : Row) :
    Row.isBlankIn columns (row.erase name) = row.isBlankIn columns :=
  isBlankIn_congr fun _ hc => by rw [at_erase_of_ne (ne_of_mem_of_not_mem hc out).symm row]

end Row

theorem DistinctOver.of_erase {columns : List String} {rows : List Row} {name : String}
    (h : DistinctOver columns rows) (out : name ∉ columns) :
    DistinctOver columns (rows.map (·.erase name)) :=
  h.map (fun row _ => Row.key_erase out row) fun row _ => Row.isBlankIn_erase out row

namespace Relational

open Outcome

/-- Numbering the rows touches the numbered column only. -/
theorem map_erase_numbered (name : String) (n : Nat) (rows : List Row) :
    (numbered name n rows).map (·.erase name) = rows.map (·.erase name) := by
  induction rows generalizing n with
  | nil => rfl
  | cons row rest ih =>
    rw [numbered, List.map_cons, List.map_cons, ih, TextMap.erase_insert]

/-- One alteration is carried out alone. -/
theorem foldlM_apply_single (table : String) (alteration : Alteration) (a : Altered) :
    [alteration].foldlM (Altered.apply table) a = a.apply table alteration :=
  bind_pure _

/-- A change of columns that is accepted is carried out. -/
theorem run_alterTable {s : Store} {config : Config} {table : String}
    {alterations : List Alteration} {t : Table} {a : Altered}
    (found : s.tables.get? table = some t)
    (made : t.altered config table (s.lastIdentity table t) alterations = .ok a)
    (params : List Value) :
    s.run config (.alterTable table alterations) params =
      (.ok Result.done,
        ((s.withoutCounters table).withCounter? table a.counter).withTable table a.table) := by
  show (alterTable config table alterations).run.run s = _
  rw [alterTable, Step.run_table_bind, found]
  dsimp only
  rw [Steps.run_get_bind, made]
  rfl

namespace Table

variable {t u : Table} {config : Config} {table name : String} {c : Column}

/-! ## Tables with one column more -/

/-- A table is another one with a column more; where its indexes find the rows is left open. -/
structure Extends (u t : Table) (name : String) (c : Column) : Prop where
  named : u.name = t.name
  columns : u.columns = t.columns ++ [⟨name, c⟩]
  rows : u.rows.map (·.erase name) = t.rows
  indexes : u.indexes.map (·.rebuilt t.rows) = t.indexes

theorem Indexed.reindexed_eq (h : t.Indexed) : t.indexes.map (·.rebuilt t.rows) = t.indexes := by
  refine TextMap.eq_of_entries ?_
  refine (List.map_congr_left fun b hb => ?_).trans (List.map_id t.indexes.entries)
  exact Prod.ext rfl (h b hb)

/-- Indexes that are made anew twice find what they find when they are made anew once. -/
theorem map_rebuilt_rebuilt (indexes : TextMap Index) (first second : List Row) :
    (indexes.map (·.rebuilt first)).map (·.rebuilt second) = indexes.map (·.rebuilt second) := by
  refine TextMap.eq_of_entries ?_
  show (indexes.entries.map _).map _ = indexes.entries.map _
  rw [List.map_map]
  exact List.map_congr_left fun b _ => Prod.ext rfl (b.2.rebuilt_rebuilt first second)

/-- The table behind an addition. -/
theorem extends_of_addColumn {last : Int64} {b : Altered} (h : t.Coherent) (indexed : t.Indexed)
    (made : (t.start last).addColumn table name c = .ok b) : b.table.Extends t name c := by
  obtain ⟨free, default, _, made⟩ := Altered.addColumn_eq_ok made
  have out : name ∉ t.names := not_mem_names_of_column? free
  have erased : t.rows.map (·.erase name) = t.rows := by
    refine (List.map_congr_left fun row hr => ?_).trans (List.map_id t.rows)
    refine TextMap.erase_of_not_contains (Bool.eq_false_iff.mpr fun has => out ?_)
    exact ((h.fits row hr).keys name).mp (TextMap.mem_keys_iff.mpr has)
  rcases made with ⟨_, rfl⟩ | ⟨_, _, rfl⟩
  · exact ⟨rfl, rfl, (map_erase_numbered name 0 t.rows).trans erased, indexed.reindexed_eq⟩
  · refine ⟨rfl, rfl, ?_, indexed.reindexed_eq⟩
    show (t.rows.map (·.insert name default)).map (·.erase name) = t.rows
    rw [List.map_map]
    exact (List.map_congr_left fun row _ => TextMap.erase_insert row name default).trans erased

theorem WellFormed.checkColumns (h : t.WellFormed) (table : String) :
    checkColumns table t.columns = .ok () := by
  rw [Table.checkColumns, if_neg (Nat.not_lt.mpr h.counting),
    repeatedColumn_eq_none.mpr ⟨h.distinct, fun _ _ => List.not_mem_nil⟩]

/-- The table without the column, before its indexes are made anew. -/
def reverted (u t : Table) : Table := { t with indexes := u.indexes }

namespace Extends

theorem reindexed (h : u.Extends t name c) : u.reindexed.Extends t name c where
  named := h.named
  columns := h.columns
  rows := h.rows
  indexes := (map_rebuilt_rebuilt u.indexes u.rows t.rows).trans h.indexes

theorem not_mem_columns (h : u.Extends t name c) (coherent : t.Coherent) (out : name ∉ t.names) :
    ∀ b ∈ u.indexes.entries, name ∉ b.2.columns := by
  intro b hb indexed
  have stored : (b.1, b.2.rebuilt t.rows) ∈ t.indexes.entries := by
    rw [← h.indexes]
    exact List.mem_map.mpr ⟨b, hb, rfl⟩
  refine out ((coherent.indexed _ stored).2 name ?_)
  rw [Index.columns_rebuilt]
  exact indexed

/-- What must be distinct without the column must be so with it, and has nothing to do with it. -/
theorem mem_uniqueSets (h : u.Extends t name c) (coherent : t.Coherent) (out : name ∉ t.names)
    {set : String × List String} (hset : set ∈ (u.reverted t).uniqueSets) :
    set ∈ u.uniqueSets ∧ name ∉ set.2 := by
  rcases List.mem_append.mp hset with hset | hset
  · obtain ⟨d, hd, rfl⟩ := List.mem_map.mp hset
    obtain ⟨there, unique⟩ := List.mem_filter.mp hd
    have kept : d ∈ u.columns := h.columns ▸ List.mem_append_left _ there
    refine ⟨mem_uniqueSets_of_column kept (Bool.or_eq_true_iff.mp unique), fun same => out ?_⟩
    rw [List.mem_singleton.mp same]
    exact List.mem_map_of_mem there
  · obtain ⟨b, hb, rfl⟩ := List.mem_map.mp hset
    obtain ⟨stored, unique⟩ := List.mem_filter.mp hb
    exact ⟨mem_uniqueSets_of_index stored unique, h.not_mem_columns coherent out b stored⟩

/-- What passes the checks with the column passes them without it. -/
theorem checked_reverted (h : u.Extends t name c) (coherent : t.Coherent) (out : name ∉ t.names)
    (distinct : config.enforceUnique = true → u.checkUniqueAll = .ok ()) :
    (u.reverted t).checked config = .ok t := by
  have anew : (u.reverted t).reindexed = t := by
    show ({ t with indexes := u.indexes.map (·.rebuilt t.rows) } : Table) = t
    rw [h.indexes]
  have passes : config.enforceUnique = true → (u.reverted t).checkUniqueAll = .ok () := by
    intro enforced
    refine distinct_iff.mp fun set hset => ?_
    obtain ⟨kept, apart⟩ := h.mem_uniqueSets coherent out hset
    have distinct := distinct_iff.mpr (distinct enforced) set kept
    exact h.rows ▸ distinct.of_erase apart
  rw [checked_eq passes, anew]

/-- Dropping the column leaves the other table. -/
theorem dropColumn_eq {a : Altered} (h : a.table.Extends t name c) (coherent : t.Coherent)
    (out : name ∉ t.names) :
    a.dropColumn name = .ok ⟨a.table.reverted t, a.counter.filter (·.1 ≠ name)⟩ := by
  have known : ∃ e, a.table.column? name = some e := by
    refine Option.isSome_iff_exists.mp (Schema.isSome_column?_iff.mpr ?_)
    simp [h.columns]
  obtain ⟨e, known⟩ := known
  have columns : a.table.columns.filter (·.name ≠ name) = t.columns := by
    rw [h.columns, List.filter_append, List.filter_cons_of_neg (by simp), List.filter_nil,
      List.append_nil]
    refine List.filter_eq_self.mpr fun d hd => decide_eq_true fun same => out ?_
    exact same ▸ List.mem_map_of_mem hd
  have indexes : (a.table.indexes.filter fun _ index => !index.columns.contains name) =
      a.table.indexes := by
    refine TextMap.eq_of_entries (List.filter_eq_self.mpr fun b hb => ?_)
    rw [Bool.not_eq_true', ← Bool.not_eq_true, List.contains_iff_mem]
    exact h.not_mem_columns coherent out b hb
  rw [Altered.dropColumn, requireColumn_eq_ok.mpr known, ok_bind]
  rw [columns, indexes, h.rows, h.named]
  rfl

/-- **A change of columns that ends in dropping the new column leaves the other table.** -/
theorem altered_eq {a : Altered} (h : a.table.Extends t name c) (wellFormed : t.WellFormed)
    (out : name ∉ t.names)
    (distinct : config.enforceUnique = true → a.table.checkUniqueAll = .ok ()) {source : Table}
    {last : Int64} {alterations : List Alteration}
    (changed : alterations.foldlM (Altered.apply table) (source.start last) = a.dropColumn name) :
    source.altered config table last alterations = .ok ⟨t, a.counter.filter (·.1 ≠ name)⟩ := by
  have coherent := wellFormed.toCoherent
  have columns : checkColumns source.name (a.table.reverted t).columns = .ok () :=
    wellFormed.checkColumns source.name
  rw [Table.altered_eq, changed, h.dropColumn_eq coherent out, ok_bind]
  dsimp only
  rw [columns, ok_bind, h.checked_reverted coherent out distinct]
  rfl

end Extends

end Table

/-! ## The counter -/

theorem Altered.counter_addColumn {a b : Altered} {table name : String} {c : Column}
    (plain : c.isIdentity = false) (made : a.addColumn table name c = .ok b) :
    b.counter = a.counter := by
  obtain ⟨_, _, _, ⟨identity, _⟩ | ⟨_, _, rfl⟩⟩ := addColumn_eq_ok made
  · rw [plain] at identity
    cases identity
  · rfl

namespace Table.Extends

variable {t u : Table} {name : String} {c : Column} {d : ColumnDef}

theorem identity?_eq (h : u.Extends t name c) (wellFormed : u.WellFormed) (there : d ∈ t.columns)
    (identity : d.column.isIdentity = true) : u.identity? = some d :=
  wellFormed.identity?_eq (h.columns ▸ List.mem_append_left _ there) identity

/-- A table with an identity takes no second one. -/
theorem plain (h : u.Extends t name c) (wellFormed : u.WellFormed) (out : name ∉ t.names)
    (there : d ∈ t.columns) (identity : d.column.isIdentity = true) : c.isIdentity = false := by
  refine Bool.eq_false_iff.mpr fun second => out ?_
  have added : ⟨name, c⟩ ∈ u.columns := by simp [h.columns]
  have one : some d = some ⟨name, c⟩ :=
    (h.identity?_eq wellFormed there identity).symm.trans (wellFormed.identity?_eq added second)
  rw [Option.some.inj one] at there
  exact List.mem_map_of_mem there

end Table.Extends

/-- Dropping a column keeps the counter of another one. -/
theorem filter_counter_of_ne {column name : String} (ne : column ≠ name) (n : Int64) :
    (some (column, n)).filter (fun b => b.1 ≠ name) = some (column, n) := by
  rw [Option.filter_some, if_pos (decide_eq_true ne)]

/-! ## Adding and dropping -/

/-- A store holds what another one holds: the same tables, for one of them the same last number of
its identity, and for the others the same numbers. -/
structure Restored (s s' : Store) (table : String) (t : Table) : Prop where
  tables : s'.tables = s.tables
  counter : ∀ d ∈ t.columns, d.column.isIdentity = true →
    s'.counter table d.name = s.counter table d.name
  others : ∀ other column, table ≠ other → s'.counter other column = s.counter other column

section

variable {s s₁ : Store} {config : Config} {params : List Value} {table name : String} {c : Column}
  {t : Table} {r : Result} {counter : Option (String × Int64)}

theorem Table.counter_start {d : ColumnDef} (identity : t.identity? = some d) :
    (t.start (s.lastIdentity table t)).counter = some (d.name, s.counter table d.name) := by
  rw [start, identity, Store.lastIdentity_eq identity]
  rfl

/-- The counters of other tables stay when the columns of one are changed. -/
theorem Store.counter_altered_of_ne {other column : String} (ne : table ≠ other) (s : Store)
    (t : Table) (counter : Option (String × Int64)) :
    (((s.withoutCounters table).withCounter? table counter).withTable table t).counter other
      column = s.counter other column := by
  rw [counter_withTable, counter_withCounter?_of_ne ne, counter_withoutCounters_of_ne ne]

/-- Behind a change of columns the counter is the one that came out of it. -/
theorem Store.counter_altered {last : Int64} (s : Store) (t : Table) :
    (((s.withoutCounters table).withCounter? table (some (name, last))).withTable table t).counter
      table name = last := by
  rw [counter_withTable, counter_withCounter?_self (by rintro _ ⟨⟩; rfl)]
  rfl

/-- A change of columns that comes out at a table of the store, with the counter that it has there,
restores the store. -/
theorem restored_of_altered {alterations : List Alteration} {source : Table}
    (found : s₁.tables.get? table = some source)
    (made : source.altered config table (s₁.lastIdentity table source) alterations =
      .ok ⟨t, counter⟩)
    (tables : s₁.tables.insert table t = s.tables)
    (others : ∀ other column, table ≠ other → s₁.counter other column = s.counter other column)
    (kept : ∀ d ∈ t.columns, d.column.isIdentity = true →
      counter = some (d.name, s.counter table d.name)) (params : List Value) :
    ∃ s₂, s₁.run config (.alterTable table alterations) params = (.ok Result.done, s₂) ∧
      Restored s s₂ table t := by
  refine ⟨_, run_alterTable found made params, ?_, fun d there identity => ?_,
    fun other column ne => ?_⟩
  · rw [Store.withTable, Store.tables_withCounter?, Store.tables_withoutCounters, tables]
  · rw [kept d there identity, Store.counter_altered]
  · rw [Store.counter_altered_of_ne ne, others other column ne]

/-- **Dropping a column undoes its addition.** Where a column was added to a table, the statement
that drops it and the statement that adds it and drops it at once succeed, and both leave the table
as it was in front of the addition, columns, rows and indexes with all that they hold, and with the
same last number of its identity. -/
theorem addition_undone_by_drop (reachable : Reachable Command.Any s)
    (added : s.run config (.alterTable table [.add name c]) params = (.ok r, s₁)) :
    ∃ t, s.tables.get? table = some t ∧ ∀ later : List Value,
      (∃ s₂, s₁.run config (.alterTable table [.drop name]) later = (.ok Result.done, s₂) ∧
        Restored s s₂ table t) ∧
      ∃ s₂, s.run config (.alterTable table [.add name c, .drop name]) later =
          (.ok Result.done, s₂) ∧
        Restored s s₂ table t := by
  cases run_effect added with
  | @altered _ _ t a found made =>
    have wellFormed : t.WellFormed :=
      reachable.allTables (fun _ c _ => Table.wellFormed_kept c.config) table t found
    have indexed : t.Indexed :=
      reachable.allTables (fun _ c _ => Table.indexed_kept c.config) table t found
    have extended : a.table.WellFormed := (Table.wellFormed_kept config).altered wellFormed made
    obtain ⟨b, filled, _, distinct, rfl⟩ := Table.altered_eq_ok made
    rw [foldlM_apply_single] at filled
    have out : name ∉ t.names := Table.not_mem_names_of_column? (Altered.addColumn_eq_ok filled).1
    have more := Table.extends_of_addColumn wellFormed.toCoherent indexed filled
    -- an identity is that of the table, whose counter the addition leaves alone
    have counted : ∀ d ∈ t.columns, d.column.isIdentity = true →
        b.counter = some (d.name, s.counter table d.name) := fun d there identity => by
      rw [Altered.counter_addColumn (more.reindexed.plain extended out there identity) filled]
      exact Table.counter_start (wellFormed.identity?_eq there identity)
    have kept : ∀ d ∈ t.columns, ∀ n : Int64,
        (some (d.name, n)).filter (fun b => b.1 ≠ name) = some (d.name, n) := fun d there =>
      filter_counter_of_ne fun same => out (same ▸ List.mem_map_of_mem there)
    have again : config.enforceUnique = true → b.table.reindexed.checkUniqueAll = .ok () :=
      fun enforced => Table.distinct_iff.mp (Table.distinct_iff.mpr (distinct enforced)).reindexed
    have both : [.add name c, .drop name].foldlM (Altered.apply table)
        (t.start (s.lastIdentity table t)) = b.dropColumn name := by
      rw [List.foldlM_cons, filled, ok_bind, foldlM_apply_single]
      rfl
    refine ⟨t, found, fun later => ⟨?next, ?atOnce⟩⟩
    case next =>
      refine restored_of_altered (TextMap.get?_insert_self ..)
        (more.reindexed.altered_eq wellFormed out again (foldlM_apply_single ..)) ?_ ?_ ?_
          later
      · rw [Store.withTable, Store.tables_withCounter?, Store.tables_withoutCounters,
          TextMap.insert_insert, TextMap.insert_of_get? found]
      · exact fun other column ne => Store.counter_altered_of_ne ne ..
      · intro d there identity
        have first := more.reindexed.identity?_eq extended there identity
        rw [Table.counter_start first, kept d there, counted d there identity,
          Store.counter_altered]
    case atOnce =>
      refine restored_of_altered found (more.altered_eq wellFormed out distinct both)
        (TextMap.insert_of_get? found) (fun _ _ _ => rfl) (fun d there identity => ?_) later
      rw [counted d there identity, kept d there]

end

/-- The stock with its last item. -/
def finishedStock : Store := Store.empty.afterAll stockTaking

/-- Every item is marked as seen. -/
def seenAdded : Alteration := .add "seen" ((Column.ofType .boolean).notNull.withDefault (.int 1))

theorem addition_undone_by_drop_seen :
    let s₁ := (finishedStock.run .standard (.alterTable "items" [seenAdded]) []).2
    Reachable Command.Any finishedStock ∧
      finishedStock.run .standard (.alterTable "items" [seenAdded]) [] = (.ok Result.done, s₁) ∧
      finishedStock.tables.get? "items" = some stock ∧
      (∃ s₂, s₁.run .standard (.alterTable "items" [.drop "seen"]) [] = (.ok Result.done, s₂) ∧
        Restored finishedStock s₂ "items" stock) ∧
      ∃ s₂, finishedStock.run .standard (.alterTable "items" [seenAdded, .drop "seen"]) [] =
          (.ok Result.done, s₂) ∧
        Restored finishedStock s₂ "items" stock := by
  have answer : (finishedStock.run .standard (.alterTable "items" [seenAdded]) []).1 =
      .ok Result.done := by cbv
  intro s₁
  have added : finishedStock.run .standard (.alterTable "items" [seenAdded]) [] =
      (.ok Result.done, s₁) := by rw [← answer]
  have reachable : Reachable Command.Any finishedStock := reachable_stockTaking.any
  have holds : finishedStock.tables.get? "items" = some stock := stockTaking_leaves
  obtain ⟨t, found, undone⟩ := addition_undone_by_drop reachable added
  obtain rfl : t = stock := Option.some.inj (found.symm.trans holds)
  exact ⟨reachable, added, found, undone []⟩

/-- A second identity is refused, unless it goes at once: then the number of the first one is
forgotten. -/
example :
    let s := Store.empty.afterAll (stockTaking.take 3)
    let second : Column := (Column.ofType .integer).asPrimary.counting
    let s' := (s.run .standard (.alterTable "items" [.add "no" second, .drop "no"]) []).2
    s.counter "items" "id" = 1 ∧ s'.counter "items" "id" = 0 := by cbv

end Relational

end Polystore
