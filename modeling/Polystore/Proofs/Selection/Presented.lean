import Mathlib.Data.List.Basic
import Polystore.Rows

/-!
# Presenting rows under two readings

Grouping, sorting and paging look at a row only through a reader and through an order of two rows by
one key. Readers that agree on the fields in use, and orders that agree on the keys in use, present
the same rows; and what is presented is always some of the rows that were given, each from its place
among them.
-/

namespace Polystore.Rows

variable {read read' : Reader} {order order' : KeyOrder} {sort : Sorting}

theorem key_congr {fields : List String} (h : ∀ f ∈ fields, ∀ row, read row f = read' row f) :
    key read fields = key read' fields := by
  funext row
  have values : fields.map (read row) = fields.map (read' row) :=
    List.map_congr_left fun f hf => h f hf row
  rw [key, key, values]

theorem grouped_congr {fields : List String} (h : ∀ f ∈ fields, ∀ row, read row f = read' row f) :
    grouped read fields = grouped read' fields := by
  funext rows
  rw [grouped, grouped, key_congr h]

theorem compareBy_congr {keys : List SortKey} (h : ∀ k ∈ keys, order k = order' k) :
    compareBy order keys = compareBy order' keys := by
  funext a b
  induction keys with
  | nil => rfl
  | cons k keys ih =>
    rw [compareBy, compareBy, h k List.mem_cons_self,
      ih fun k hk => h k (List.mem_cons_of_mem _ hk)]

/-- The same rows are presented when readers and orders agree where they are used. -/
theorem presented_congr {groupBy : List String} {orderBy : List SortKey}
    (hread : ∀ f ∈ groupBy, ∀ row, read row f = read' row f)
    (horder : ∀ k ∈ orderBy, order k = order' k) (offset limit : Option UInt64)
    (rows : List Row) :
    presented sort read order groupBy orderBy offset limit rows =
      presented sort read' order' groupBy orderBy offset limit rows := by
  rw [presented, presented, grouped_congr hread, compareBy_congr horder]

/-- Without keys to sort by the rows stay in their order. -/
theorem sorted_nil (order : KeyOrder) (rows : List Row) : sorted order [] rows = rows := by
  -- all rows tie, so that each goes behind those that are placed
  have behind (done : List Row) :
      rows.foldl (fun done row => placed (fun a b => compareBy order [] a b == .lt) row done) done =
        rows.reverse ++ done := by
    induction rows generalizing done with
    | nil => rfl
    | cons row rows ih =>
      have first : placed (fun a b => compareBy order [] a b == .lt) row done = row :: done := by
        cases done <;> rfl
      rw [List.foldl_cons, first, ih, List.reverse_cons, List.append_assoc]
      rfl
  rw [sorted, inserted, behind, List.append_nil, List.reverse_reverse]

/-! ## Rows with their places -/

/-- The rows that pass a test, each with its place, counted from `n`. -/
def withPlaces (hit : Row → Bool) (n : Nat) (rows : List Row) : List (Row × Nat) :=
  (rows.zipIdx n).filter fun x => hit x.1

theorem mem_withPlaces {hit : Row → Bool} {rows : List Row} {x : Row × Nat} :
    x ∈ withPlaces hit 0 rows ↔ rows[x.2]? = some x.1 ∧ hit x.1 = true := by
  rw [withPlaces, List.mem_filter, List.mem_zipIdx_iff_getElem?]

/-- Places ascend. -/
theorem pairwise_zipIdx (n : Nat) (rows : List Row) : (rows.zipIdx n).Pairwise (·.2 < ·.2) := by
  have places : ((rows.zipIdx n).map (·.2)).Pairwise (· < ·) := by
    rw [List.zipIdx_map_snd]
    exact List.pairwise_lt_range'
  exact List.pairwise_map.mp places

theorem pairwise_withPlaces (hit : Row → Bool) (n : Nat) (rows : List Row) :
    (withPlaces hit n rows).Pairwise (·.2 < ·.2) :=
  (pairwise_zipIdx n rows).filter _

theorem map_withPlaces (hit : Row → Bool) (n : Nat) (rows : List Row) :
    (withPlaces hit n rows).map (·.1) = rows.filter hit := by
  show ((rows.zipIdx n).filter (hit ∘ Prod.fst)).map Prod.fst = _
  rw [← List.filter_map, List.zipIdx_map_fst]

/-- At their places stand the rows. -/
theorem filterMap_places {hit : Row → Bool} {rows : List Row} {xs : List (Row × Nat)}
    (part : ∀ x ∈ xs, x ∈ withPlaces hit 0 rows) :
    (xs.map (·.2)).filterMap (fun p => rows[p]?) = xs.map (·.1) := by
  rw [List.filterMap_map]
  exact List.filterMap_eq_map_iff_forall_eq_some.mpr fun x hx => (mem_withPlaces.mp (part x hx)).1

/-! ## No row is made up -/

theorem firstOfEach_sublist (keyOfRow : Row → String) (seen : List String) (rows : List Row) :
    (firstOfEach keyOfRow seen rows).Sublist rows := by
  induction rows generalizing seen with
  | nil => exact List.Sublist.refl _
  | cons row rest ih =>
    rw [firstOfEach]
    split
    · exact (ih seen).cons row
    · exact (ih _).cons_cons row

theorem grouped_sublist (read : Reader) (fields : List String) (rows : List Row) :
    (grouped read fields rows).Sublist rows := by
  unfold grouped
  split
  · exact List.Sublist.refl _
  · exact firstOfEach_sublist _ _ rows

theorem page_sublist (offset limit : Option UInt64) (rows : List Row) :
    (page offset limit rows).Sublist rows := by
  have behind : (page offset none rows).Sublist rows := by
    cases offset with
    | none => exact List.Sublist.refl _
    | some n => exact List.drop_sublist _ rows
  cases limit with
  | none => exact behind
  | some n => exact (List.take_sublist _ _).trans behind

theorem mem_of_mem_presented {groupBy : List String} {orderBy : List SortKey}
    {offset limit : Option UInt64} {rows : List Row} {row : Row}
    (rearranges : ∀ rows, (sort (compareBy order orderBy) rows).Perm rows)
    (h : row ∈ presented sort read order groupBy orderBy offset limit rows) : row ∈ rows := by
  have sorted := (page_sublist offset limit _).subset h
  have grouped := (rearranges _).mem_iff.mp sorted
  exact (grouped_sublist read groupBy rows).subset grouped

end Polystore.Rows
