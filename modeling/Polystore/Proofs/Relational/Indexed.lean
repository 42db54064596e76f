import Polystore.Proofs.Relational.Parts
import Polystore.Proofs.Relational.Reachable
import Polystore.Proofs.Selection.Presented

/-!
# Indexes follow the rows

An index holds positions, and positions shift when rows go and point to other keys when rows
change. A new row is added to every index at the position that it takes; whatever else touches rows
or columns makes the indexes anew. Both leave every index as the one that the rows of its table
make, and a look-up in that one brings the rows that have the key, in their order.
-/

namespace Polystore

namespace Index

/-! ## What an index of rows holds -/

/-- The positions, counted from `n`, of the rows that have a key. -/
def positions (columns : List String) (key : String) (n : Nat) (rows : List Row) : List Nat :=
  ((rows.zipIdx n).filter fun r => r.1.key columns = key).map (·.2)

theorem positions_cons (columns : List String) (key : String) (n : Nat) (row : Row)
    (rows : List Row) :
    positions columns key n (row :: rows) =
      (if row.key columns = key then [n] else []) ++ positions columns key (n + 1) rows := by
  rw [positions, List.zipIdx_cons]
  by_cases has : row.key columns = key
  · rw [List.filter_cons_of_pos (by simpa using has), if_pos has]
    rfl
  · rw [List.filter_cons_of_neg (by simpa using has), if_neg has]
    rfl

theorem positions_eq (columns : List String) (key : String) (n : Nat) (rows : List Row) :
    positions columns key n rows =
      (Rows.withPlaces (fun row => row.key columns = key) n rows).map (·.2) :=
  rfl

/-- Positions ascend. -/
theorem pairwise_positions (columns : List String) (key : String) (n : Nat) (rows : List Row) :
    (positions columns key n rows).Pairwise (· < ·) := by
  rw [positions_eq]
  exact List.pairwise_map.mpr (Rows.pairwise_withPlaces _ n rows)

theorem mem_positions {columns : List String} {key : String} {rows : List Row} {p : Nat} :
    p ∈ positions columns key 0 rows ↔ ∃ row, rows[p]? = some row ∧ row.key columns = key := by
  simp only [positions, List.mem_map, List.mem_filter, decide_eq_true_eq, Prod.exists,
    List.mk_mem_zipIdx_iff_getElem?, exists_eq_right]

/-- The rows at the positions of a key are the rows that have it. -/
theorem filterMap_positions (columns : List String) (key : String) (rows : List Row) :
    (positions columns key 0 rows).filterMap (fun p => rows[p]?) =
      rows.filter fun row => row.key columns = key := by
  rw [positions_eq, Rows.filterMap_places fun _ h => h, Rows.map_withPlaces]

theorem lookup_add (index : Index) (n : Nat) (row : Row) (key : String) :
    (index.add n row).lookup key =
      index.lookup key ++ if row.key index.columns = key then [n] else [] := by
  rw [lookup, add, TextMap.get?_insert]
  by_cases has : row.key index.columns = key
  · rw [if_pos has, if_pos has, Option.getD_some, has]
  · rw [if_neg has, if_neg has, List.append_nil, lookup]

theorem lookup_addFrom (index : Index) (n : Nat) (rows : List Row) (key : String) :
    (index.addFrom n rows).lookup key =
      index.lookup key ++ positions index.columns key n rows := by
  induction rows generalizing index n with
  | nil => exact (List.append_nil _).symm
  | cons row rest ih =>
    rw [addFrom, ih, lookup_add, positions_cons, List.append_assoc]
    rfl

theorem lookup_build (columns : List String) (unique : Bool) (rows : List Row) (key : String) :
    (build columns unique rows).lookup key = positions columns key 0 rows :=
  lookup_addFrom _ 0 rows key

/-! ## Making an index anew -/

theorem addFrom_append (index : Index) (n : Nat) (rows more : List Row) :
    index.addFrom n (rows ++ more) = (index.addFrom n rows).addFrom (n + rows.length) more := by
  induction rows generalizing index n with
  | nil => rfl
  | cons row rest ih =>
    rw [List.cons_append, addFrom, addFrom, ih, List.length_cons, Nat.add_right_comm, Nat.add_assoc]

/-- Made anew twice, an index is that of the later rows. -/
theorem rebuilt_rebuilt (index : Index) (rows later : List Row) :
    (index.rebuilt rows).rebuilt later = index.rebuilt later := by
  rw [rebuilt, columns_rebuilt, unique_rebuilt, rebuilt]

theorem rebuilt_append (index : Index) (rows : List Row) (row : Row) :
    index.rebuilt (rows ++ [row]) = (index.rebuilt rows).add rows.length row := by
  rw [rebuilt, build, addFrom_append, Nat.zero_add]
  rfl

end Index

namespace Relational

namespace Table

/-! ## Tables with indexes of their rows -/

/-- Every index of the table is the one that its rows make. -/
def Indexed (t : Table) : Prop := ∀ b ∈ t.indexes.entries, b.2.rebuilt t.rows = b.2

theorem indexed_reindexed (t : Table) : t.reindexed.Indexed := by
  intro b hb
  obtain ⟨old, _, rfl⟩ := List.mem_map.mp hb
  exact old.2.rebuilt_rebuilt t.rows t.rows

theorem Indexed.push {t : Table} (h : t.Indexed) (row : Row) : (t.push row).Indexed := by
  intro b hb
  obtain ⟨old, stored, rfl⟩ := List.mem_map.mp hb
  show (old.2.add t.rows.length row).rebuilt (t.rows ++ [row]) = old.2.add t.rows.length row
  calc (old.2.add t.rows.length row).rebuilt (t.rows ++ [row])
      = old.2.rebuilt (t.rows ++ [row]) := rfl
    _ = (old.2.rebuilt t.rows).add t.rows.length row := old.2.rebuilt_append t.rows row
    _ = old.2.add t.rows.length row := by rw [h old stored]

/-- No statement lets an index fall behind. -/
theorem indexed_kept (config : Config) : Kept config Indexed where
  made := by
    intro name columns t made
    obtain ⟨_, _, _, rfl⟩ := newTable_eq_ok made
    intro b hb
    cases hb
  indexMade := by
    intro t table index columns unique next h made
    obtain ⟨_, _, _, rfl⟩ := withIndex_eq_ok made
    intro b hb
    rcases TextMap.mem_put hb with rfl | stored
    · exact Index.rebuilt_rebuilt ⟨columns, unique, TextMap.empty⟩ t.rows t.rows
    · exact h b stored
  indexDropped := by
    intro t index h b hb
    exact h b (List.mem_filter.mp hb).1
  inserted := by
    intro t table last params values row counter h _
    exact h.push row
  updated := by
    intro t table params assignments changes rows next _ _ _ made
    obtain ⟨_, rfl⟩ := withChanges_eq_ok made
    exact indexed_reindexed _
  deleted := by
    intro t rows _ _
    exact indexed_reindexed _
  altered := by
    intro t table last alterations a _ made
    obtain ⟨b, _, _, _, rfl⟩ := altered_eq_ok made
    exact indexed_reindexed _

end Table

/-! ## Looking up -/

/-- The values that a look-up in an index asks for: each column of the index takes the value at its
first place among the columns, and `null` where the key is too short. -/
def sought (index : Index) (key : List Value) : List Value :=
  index.columns.map fun c => (key[index.columns.idxOf c]?).getD .null

theorem indexLookup_eq {s : Store} {table index : String} {t : Table} {i : Index}
    (found : s.tables.get? table = some t) (indexed : t.indexes.get? index = some i)
    (key : List Value) :
    s.indexLookup table index key =
      .ok ((i.lookup (Rows.keyOf (sought i key))).filterMap fun p => t.rows[p]?) := by
  rw [Store.indexLookup, Store.requireTable, found, Outcome.ok_bind, indexed]
  rfl

/-- **In every reachable store an index is the one that the rows of its table make.** It holds under
each key the positions of the rows that have the key, in ascending order, and a look-up brings just
the rows that have the key that is sought, in their order. -/
theorem index_follows_rows {s : Store} {table index : String} {t : Table} {i : Index}
    (h : Reachable Command.Any s) (found : s.tables.get? table = some t)
    (indexed : t.indexes.get? index = some i) :
    i = Index.build i.columns i.unique t.rows ∧
      (∀ key, (i.lookup key).Pairwise (· < ·) ∧
        ∀ p, p ∈ i.lookup key ↔ ∃ row, t.rows[p]? = some row ∧ row.key i.columns = key) ∧
      ∀ key, s.indexLookup table index key =
        .ok (t.rows.filter fun row => row.key i.columns = Rows.keyOf (sought i key)) := by
  have kept := h.allTables (P := Table.Indexed) fun _ c _ => Table.indexed_kept c.config
  have anew : Index.build i.columns i.unique t.rows = i :=
    kept table t found _ (TextMap.mem_of_get? indexed)
  have held : ∀ key, i.lookup key = Index.positions i.columns key 0 t.rows := by
    intro key
    rw [← Index.lookup_build i.columns i.unique, anew]
  refine ⟨anew.symm, fun key => ?_, fun key => ?_⟩
  · rw [held]
    exact ⟨Index.pairwise_positions _ _ _ _, fun p => Index.mem_positions⟩
  · rw [indexLookup_eq found indexed, held, Index.filterMap_positions]

/-- The shelves of the stock. -/
def shelves : Index := Index.build ["shelf"] false stock.rows

theorem index_follows_rows_stock :
    Reachable Command.Any (Store.empty.afterAll stockTaking) ∧
      (Store.empty.afterAll stockTaking).tables.get? "items" = some stock ∧
      stock.indexes.get? "by_shelf" = some shelves ∧
      shelves = Index.build shelves.columns shelves.unique stock.rows ∧
      (∀ key, (shelves.lookup key).Pairwise (· < ·) ∧
        ∀ p, p ∈ shelves.lookup key ↔
          ∃ row, stock.rows[p]? = some row ∧ row.key shelves.columns = key) ∧
      ∀ key, (Store.empty.afterAll stockTaking).indexLookup "items" "by_shelf" key =
        .ok (stock.rows.filter fun row =>
          row.key shelves.columns = Rows.keyOf (sought shelves key)) :=
  ⟨reachable_stockTaking.any, stockTaking_leaves, rfl,
    index_follows_rows reachable_stockTaking.any stockTaking_leaves rfl⟩

example : shelves.lookup "A" = [0, 2] := by cbv

end Relational

end Polystore
