import Mathlib
import Polystore.Proofs.Relational.Touched
import Polystore.Proofs.Selection.Arranged
import Polystore.Proofs.Value.Kinds

/-!
# What a read brings

A read filters the rows, takes the first of each group, sorts them, cuts out a page and shows some
columns. Its rows are therefore those at certain places of the table, in order by the sort keys
wherever each of these columns holds values of one kind that has an order; and its pages are pieces
of what it brings without paging.
-/

namespace Polystore

/-- A read with another page. -/
def SelectStatement.paged (q : SelectStatement) (offset limit : Option UInt64) : SelectStatement :=
  { q with offset, limit }

namespace Relational

open Outcome

/-- A column of a table holds values of one kind whose values are in order, and `null`. -/
def Table.SortableBy (t : Table) (column : String) : Prop :=
  ∃ type ∈ ColumnType.ordered, ∀ row ∈ t.rows,
    row.at column = .null ∨ type.represents (row.at column) = true

/-- What a read of some fields shows of a row. -/
def shownOf (fields : List String) (row : Row) : Row :=
  if showsAll fields then row else projected fields row

/-! ## Sort keys of a table -/

section

variable {t : Table} {keys : List SortKey}

/-- What is read from the elements of a type is compared as consistently as before. -/
theorem transCmp_read {α β : Type} {cmp : β → β → Ordering} (h : Std.TransCmp cmp) (f : α → β) :
    Std.TransCmp fun a b => cmp (f a) (f b) where
  eq_swap := h.eq_swap
  isLE_trans := h.isLE_trans

/-- One sort key puts the rows in order, in either direction. -/
theorem Table.SortableBy.transCmp {k : SortKey} (h : t.SortableBy k.field) :
    Std.TransCmp fun a b : { row // row ∈ t.rows } => keyOrder k a.1 b.1 := by
  obtain ⟨type, ordered, held⟩ := h
  have values := transCmp_read (Value.transCmp_sortCompare ordered)
    fun row : { row // row ∈ t.rows } => ⟨row.1.at k.field, held row.1 row.2⟩
  unfold keyOrder
  cases k.direction with
  | ascending => exact values
  | descending => exact Std.TransCmp.opposite

/-- Sort keys put the rows in order, the first one that tells two rows apart deciding. -/
theorem Table.orders_of_sortable (h : ∀ k ∈ keys, t.SortableBy k.field) :
    Rows.Orders keyOrder keys t.rows := by
  unfold Rows.Orders Rows.Ranks
  induction keys with
  | nil => exact { eq_swap := rfl, isLE_trans := fun _ _ => rfl }
  | cons k rest ih =>
    rw [List.forall_mem_cons] at h
    have first := h.1.transCmp
    have others := ih h.2
    have same : (fun a b : { row // row ∈ t.rows } =>
        Rows.compareBy keyOrder (k :: rest) a.1 b.1) =
      compareLex (fun a b => keyOrder k a.1 b.1) fun a b => Rows.compareBy keyOrder rest a.1 b.1 := by
      funext a b
      rw [Rows.compareBy, compareLex]
      cases keyOrder k a.1 b.1 <;> rfl
    rw [same]
    infer_instance

end

/-! ## Reads -/

section

variable {s s' : Store} {t : Table} {config : Config} {params : List Value} {q : SelectStatement}
  {rows : List Row} {r : Result}

/-- The columns that a read names must be there. -/
def Table.checkNames (t : Table) (q : SelectStatement) : Outcome Unit := do
  t.requireColumns q.groupBy
  t.requireColumns (q.orderBy.map (·.field))
  if !showsAll q.fields then t.requireColumns q.fields

/-- The page of a read is cut out at its end, when all that can fail is settled. -/
theorem Table.selectBy_eq (t : Table) (sort : Rows.Sorting) (config : Config) (params : List Value)
    (q : SelectStatement) :
    t.selectBy sort config params q = (do
      t.checkNames q
      let marks ← t.marked config params q.filter
      .ok ((Rows.presented sort Row.at keyOrder q.groupBy q.orderBy q.offset q.limit
        ((marks.filter (·.2)).map (·.1))).map (shownOf q.fields))) := by
  have shown : ∀ rows : List Row, (if showsAll q.fields = true then rows
      else rows.map (projected q.fields)) = rows.map (shownOf q.fields) := by
    intro rows
    unfold shownOf
    split
    · exact (List.map_id rows).symm
    · rfl
  unfold selectBy checkNames
  simp only [shown]
  cases t.requireColumns q.groupBy with
  | error e => rfl
  | ok _ =>
    cases t.requireColumns (q.orderBy.map (·.field)) with
    | error e => rfl
    | ok _ => cases showsAll q.fields <;> rfl

/-- A read that succeeds shows a page of the sorted first rows of each group among those that meet
the filter, and so does the read of any other page. -/
theorem Table.select_eq_ok (h : t.select config params q = .ok rows) :
    ∃ hit : Row → Bool,
      (∀ row ∈ t.rows, meets params config.caseSensitiveLike q.filter row = .ok (hit row)) ∧
        ∀ offset limit, t.select config params (q.paged offset limit) =
          .ok ((Rows.presented Rows.inserted Row.at keyOrder q.groupBy q.orderBy offset limit
            (t.rows.filter hit)).map (shownOf q.fields)) := by
  rw [select, selectBy_eq] at h
  obtain ⟨_, checked, h⟩ := bind_eq_ok.mp h
  obtain ⟨marks, marked, -⟩ := bind_eq_ok.mp h
  obtain ⟨hit, decides, rfl⟩ := marked_eq_ok marked
  refine ⟨hit, decides, fun offset limit => ?_⟩
  have checked : t.checkNames (q.paged offset limit) = .ok () := checked
  have marked : t.marked config params (q.paged offset limit).filter = _ := marked
  rw [select, selectBy_eq, checked, marked, ← Selection.hits_eq hit t.rows]
  rfl

/-- So many pages of one size hold all rows of a list, and every page begins at an offset that a read
can be given. -/
structure PagesHold (size count length : Nat) : Prop where
  covers : length ≤ count * size
  offsets : ∀ i < count, i * size < 2 ^ 64

theorem pagesHold {size length : Nat} (some : 0 < size) (small : length < 2 ^ 64) :
    PagesHold size (length / size + 1) length where
  covers := by
    rw [Nat.mul_comm]
    exact (Nat.lt_mul_div_succ length some).le
  offsets := by
    intro i hi
    have within : i * size ≤ length / size * size := Nat.mul_le_mul_right size (by omega)
    exact Nat.lt_of_le_of_lt (within.trans (Nat.div_mul_le_self length size)) small

/-- **A read brings the rows at arranged places**: those that meet the filter, each group by its
first row, in order by the sort keys, and in their old order where they tie. An offset and a limit
cut a piece out of these, so that pages of one size, each behind the last, bring all of them. -/
theorem read_brings_arranged_rows (found : s.tables.get? q.table = some t)
    (sortable : ∀ k ∈ q.orderBy, t.SortableBy k.field)
    (ran : s.run config (.select q) params = (.ok r, s')) :
    ∃ (hit : Row → Bool) (places : List Nat),
      (∀ row ∈ t.rows, meets params config.caseSensitiveLike q.filter row = .ok (hit row)) ∧
      Rows.Arranged Row.at keyOrder hit q.groupBy q.orderBy t.rows places ∧
      let shown := (places.filterMap fun p => t.rows[p]?).map (shownOf q.fields)
      (∀ offset limit : Option UInt64,
        s.run config (.select (q.paged offset limit)) params =
          (.ok (Result.ofRows ((shown.drop (offset.elim 0 UInt64.toNat)).take
            (limit.elim shown.length UInt64.toNat))), s)) ∧
      ∀ n : UInt64, 0 < n →
        (shown.length < 2 ^ 64 → ∃ count, PagesHold n.toNat count shown.length) ∧
        ∀ count, PagesHold n.toNat count shown.length → ∃ pages,
          ((List.range count).mapM fun i => (s.run config (.select
            (q.paged (some (UInt64.ofNat (i * n.toNat))) (some n))) params).1) = .ok pages ∧
          pages.flatMap (·.rows) = shown := by
  cases run_effect ran with
  | @selected _ t' _ found' read =>
    obtain rfl : t' = t := Option.some.inj (found'.symm.trans found)
    obtain ⟨hit, decides, reads⟩ := Table.select_eq_ok read
    obtain ⟨places, brought, arranged⟩ :=
      Rows.exists_arranged (Table.orders_of_sortable sortable) Row.at hit q.groupBy
    refine ⟨hit, places, decides, arranged, ?_⟩
    intro shown
    have paged (offset limit : Option UInt64) :
        s.run config (.select (q.paged offset limit)) params =
          (.ok (Result.ofRows ((shown.drop (offset.elim 0 UInt64.toNat)).take
            (limit.elim shown.length UInt64.toNat))), s) := by
      have brings := reads offset limit
      rw [Rows.presented, ← Rows.sorted, ← brought, Rows.page_eq, List.map_take, List.map_drop] at brings
      rw [List.length_map]
      exact run_select found brings
    refine ⟨paged, fun n filled => ⟨fun small => ⟨_, pagesHold filled small⟩,
      fun count hold => ?_⟩⟩
    refine ⟨(List.range count).map fun i =>
      Result.ofRows ((shown.drop (i * n.toNat)).take n.toNat), mapM_eq_ok fun i hi => ?_, ?_⟩
    · have offset : (UInt64.ofNat (i * n.toNat)).toNat = i * n.toNat :=
        UInt64.toNat_ofNat_of_lt' (hold.offsets i (List.mem_range.mp hi))
      rw [paged, Option.elim_some, Option.elim_some, offset]
    · rw [List.flatMap_map]
      exact Rows.flatMap_pages hold.covers

end

/-- A crew. Of one member there are two entries, and when that one joined is not known. -/
def crew : Table :=
  let member (name : String) (joined : Value) (team : String) : Row :=
    TextMap.ofList [("name", .text name), ("joined", joined), ("team", .text team)]
  let spring : Value := .date (.ofDate ⟨2021, 3, 1⟩)
  { name := "crew"
    columns :=
      [⟨"name", Column.ofType .text⟩, ⟨"joined", Column.ofType .date⟩,
        ⟨"team", Column.ofType .text⟩]
    rows :=
      [member "cy" spring "B", member "bob" .null "A", member "di" spring "A",
        member "ada" spring "A", member "bob" .null "B", member "ed" spring "A"]
    indexes := TextMap.empty }

/-- The names of all but one, those who joined last in front and by teams where they joined on one
day. -/
def roll : SelectStatement :=
  { table := "crew"
    fields := ["name"]
    filter := some (.compare "name" .notEq (.param 0))
    groupBy := ["name"]
    orderBy := [⟨"joined", .descending⟩, ⟨"team", .ascending⟩]
    limit := some 2
    offset := some 1 }

/-- What is shown of somebody. -/
def named (name : String) : Row := TextMap.ofList [("name", .text name)]

/-- Everybody on the roll. -/
def everybody : List Row := [named "ada", named "ed", named "cy", named "bob"]

theorem read_brings_arranged_rows_roll :
    let s := Store.empty.withTable "crew" crew
    let params : List Value := [.text "di"]
    s.run .standard (.select roll) params = (.ok (Result.ofRows [named "ed", named "cy"]), s) ∧
      ∃ hit places,
        Rows.Arranged Row.at keyOrder hit ["name"] roll.orderBy crew.rows places ∧
        (places.filterMap fun p => crew.rows[p]?).map (shownOf ["name"]) = everybody ∧
        ∃ pages, ((List.range 2).mapM fun i => (s.run .standard (.select
            (roll.paged (some (UInt64.ofNat (i * 3))) (some 3))) params).1) = .ok pages ∧
          pages.flatMap (·.rows) = everybody := by
  intro s params
  have found : s.tables.get? "crew" = some crew := TextMap.get?_insert_self ..
  have sortable : ∀ k ∈ roll.orderBy, crew.SortableBy k.field := by
    refine List.forall_mem_cons.mpr ⟨⟨.date, by decide, ?_⟩, List.forall_mem_cons.mpr
      ⟨⟨.text, by decide, ?_⟩, fun k none => absurd none List.not_mem_nil⟩⟩
    all_goals
      simp only [crew, List.forall_mem_cons, List.not_mem_nil, false_imp_iff, implies_true, and_true]
    · exact ⟨.inr rfl, .inl rfl, .inr rfl, .inr rfl, .inl rfl, .inr rfl⟩
    · exact ⟨.inr rfl, .inr rfl, .inr rfl, .inr rfl, .inr rfl, .inr rfl⟩
  have answer : (s.run .standard (.select roll) params).1 =
      .ok (Result.ofRows [named "ed", named "cy"]) := by cbv
  have whole : (s.run .standard (.select (roll.paged none none)) params).1 =
      .ok (Result.ofRows everybody) := by cbv
  have ran : s.run .standard (.select roll) params =
      (.ok (Result.ofRows [named "ed", named "cy"]), s) := Prod.ext answer rfl
  obtain ⟨hit, places, _, arranged, paged, pages⟩ := read_brings_arranged_rows found sortable ran
  have all : (places.filterMap fun p => crew.rows[p]?).map (shownOf ["name"]) = everybody := by
    have brought := congrArg Prod.fst (paged none none)
    rw [whole, Option.elim_none, Option.elim_none, List.drop_zero, List.take_length] at brought
    exact (congrArg Result.rows (Except.ok.inj brought)).symm
  refine ⟨ran, hit, places, arranged, all, ?_⟩
  rw [← all]
  refine (pages 3 (by decide)).2 2 ⟨?_, by decide⟩
  rw [show (places.filterMap fun p => crew.rows[p]?).map (shownOf roll.fields) = everybody from all]
  decide

end Relational

end Polystore
