import Mathlib
import Polystore.Proofs.Relational.Recall

/-!
# Changed and removed rows are those that a read brings

A read, an update and a deletion each walk over the rows with a filter. They agree on the rows that
meet it: an update changes these and no others, a deletion takes these out and leaves the others in
their order, and both report how many rows the read would have brought. Of several assignments to
one column the last one counts.
-/

namespace Polystore.Relational

open Outcome

/-- A read of the rows of a table that meet a filter. -/
def reading (table : String) (fields : List String) (filter : Option Predicate) :
    SelectStatement :=
  { table, fields, filter, groupBy := [], orderBy := [], limit := none, offset := none }

/-- Every row of the table that is kept under the name meets the filter or does not, and a read of
all columns succeeds and brings the rows that do. -/
structure Told (s : Store) (config : Config) (params : List Value) (table : String)
    (filter : Option Predicate) (t : Table) (hit : Row → Bool) : Prop where
  found : s.tables.get? table = some t
  decides : ∀ row ∈ t.rows, meets params config.caseSensitiveLike filter row = .ok (hit row)
  read : ∀ fields, showsAll fields = true →
    s.run config (.select (reading table fields filter)) params =
      (.ok (Result.ofRows (t.rows.filter hit)), s)

/-- What an update makes of a row. Under every assigned name the last assignment counts. -/
inductive Table.Updated (t : Table) (params : List Value) (assignments : List (String × Operand))
    (hit : Row → Bool) (row : Row) : Row → Prop
  | unmatched (misses : hit row = false) : Updated t params assignments hit row row
  | matched {next : Row} (hits : hit row = true)
      (kept : ∀ name, name ∉ assignments.map (·.1) → next.get? name = row.get? name)
      (set : ∀ name ∈ assignments.map (·.1), ∃ c v w, t.column? name = some c ∧
        Gives params assignments name v ∧ c.type.coerce name v = .ok w ∧
        next.get? name = some w) :
      Updated t params assignments hit row next

variable {s s' : Store} {t : Table} {config : Config} {params : List Value} {table : String}
  {filter : Option Predicate} {rows : List (Row × Bool)}

/-! ## The rows that meet a filter -/

/-- Marking settles for every row whether it meets the filter. -/
theorem Table.marked_eq_ok (h : t.marked config params filter = .ok rows) :
    ∃ hit : Row → Bool,
      (∀ row ∈ t.rows, meets params config.caseSensitiveLike filter row = .ok (hit row)) ∧
        rows = t.rows.map fun row => (row, hit row) := by
  obtain ⟨_, _, marks⟩ := bind_eq_ok.mp h
  exact exists_marks marks

/-- A read of all columns brings the marked rows, in their order. -/
theorem Table.select_of_marked (table : String)
    (h : t.marked config params filter = .ok rows) {fields : List String}
    (all : showsAll fields = true) :
    t.select config params (reading table fields filter) =
      .ok ((rows.filter (·.2)).map (·.1)) := by
  have shown (found : List Row) :
      Rows.presented Rows.inserted Row.at keyOrder [] [] none none found = found :=
    Rows.sorted_nil keyOrder found
  have required : t.requireColumns [] = .ok () := rfl
  simp only [Table.select, Table.selectBy, reading, List.map_nil, required, all, h, ok_bind, shown]
  rfl

theorem told_of_marked (found : s.tables.get? table = some t)
    (h : t.marked config params filter = .ok rows) :
    ∃ hit, Told s config params table filter t hit ∧
      rows = t.rows.map fun row => (row, hit row) := by
  obtain ⟨hit, decides, rfl⟩ := Table.marked_eq_ok h
  refine ⟨hit, ⟨found, decides, fun fields all => ?_⟩, rfl⟩
  have brings := Table.select_of_marked table h all
  rw [Selection.hits_eq] at brings
  exact run_select found brings

theorem markedCount_map (hit : Row → Bool) (rows : List Row) :
    markedCount (rows.map fun row => (row, hit row)) = (rows.filter hit).length := by
  rw [← Selection.hits_eq, List.length_map]
  rfl

/-! ## The values that an update sets -/

/-- Under an assigned name a changed row holds what the last assignment to it says. -/
theorem Table.changes_set {assignments : List (String × Operand)}
    {changes : List (String × Value)} (h : t.changes table params assignments = .ok changes)
    {name : String} (assigned : name ∈ assignments.map (·.1)) :
    ∃ c v w, t.column? name = some c ∧ Gives params assignments name v ∧
      c.type.coerce name v = .ok w ∧ ∀ row, (changedRow changes row).get? name = some w := by
  induction assignments generalizing changes with
  | nil => cases assigned
  | cons assignment rest ih =>
    obtain ⟨first, operand⟩ := assignment
    obtain ⟨c, known, h⟩ := bind_eq_ok.mp h
    obtain ⟨v, resolved, h⟩ := bind_eq_ok.mp h
    obtain ⟨w, stored, h⟩ := bind_eq_ok.mp h
    obtain ⟨ws, others, h⟩ := bind_eq_ok.mp h
    cases h
    by_cases later : name ∈ rest.map (·.1)
    · obtain ⟨c', v', w', known', gives, coerced, set⟩ := ih others later
      exact ⟨c', v', w', known', gives.cons _, coerced, fun row => set (row.insert first w)⟩
    · obtain rfl : name = first := (List.mem_cons.mp assigned).resolve_right later
      refine ⟨c, v, w, requireColumn_eq_ok.mp known, gives_cons_self later resolved,
        (storedValue_eq_ok stored).1, fun row => ?_⟩
      rcases changedRow_get? ws (row.insert name w) name with kept | ⟨b, hb, named, _⟩
      · exact kept.trans (TextMap.get?_insert_self ..)
      · -- no later assignment has the name
        rw [← (changes_eq_ok others).1] at later
        exact absurd (named ▸ List.mem_map_of_mem hb) later

theorem Table.changes_kept {assignments : List (String × Operand)}
    {changes : List (String × Value)} (h : t.changes table params assignments = .ok changes)
    (row : Row) {name : String} (free : name ∉ assignments.map (·.1)) :
    (changedRow changes row).get? name = row.get? name := by
  rcases changedRow_get? changes row name with kept | ⟨b, hb, named, _⟩
  · exact kept
  · rw [← (changes_eq_ok h).1] at free
    exact absurd (named ▸ List.mem_map_of_mem hb) free

/-! ## Updates and deletions -/

/-- Every row is updated in its place. -/
theorem Table.updated_of_changes {assignments : List (String × Operand)}
    {changes : List (String × Value)} (h : t.changes table params assignments = .ok changes)
    (hit : Row → Bool) :
    List.Forall₂ (t.Updated params assignments hit) t.rows
      (t.changed (t.rows.map fun row => (row, hit row)) changes).rows := by
  rw [changed, List.map_map, List.forall₂_map_right_iff, List.forall₂_same]
  intro row _
  rw [Function.comp_apply]
  cases met : hit row with
  | false => exact .unmatched met
  | true =>
    refine .matched met (fun name free => changes_kept h row free) fun name assigned => ?_
    obtain ⟨c, v, w, known, gives, coerced, set⟩ := changes_set h assigned
    exact ⟨c, v, w, known, gives, coerced, set row⟩

theorem misses_of_none {hit : Row → Bool} {rows : List Row} (none : (rows.filter hit).length = 0) :
    ∀ row ∈ rows, hit row = false := by
  intro row there
  exact Bool.eq_false_iff.mpr
    (List.filter_eq_nil_iff.mp (List.eq_nil_of_length_eq_zero none) row there)

/-- Where no row meets the filter, leaving the rows alone is what an update makes of them. -/
theorem Table.updated_of_none {assignments : List (String × Operand)} {hit : Row → Bool}
    (none : (t.rows.filter hit).length = 0) :
    List.Forall₂ (t.Updated params assignments hit) t.rows t.rows := by
  rw [List.forall₂_same]
  exact fun row there => .unmatched (misses_of_none none row there)

theorem filter_not_of_none {hit : Row → Bool} {rows : List Row}
    (none : (rows.filter hit).length = 0) : rows.filter (!hit ·) = rows := by
  refine List.filter_eq_self.mpr fun row there => ?_
  rw [misses_of_none none row there]
  rfl

theorem rows_without (hit : Row → Bool) (t : Table) :
    (t.without (t.rows.map fun row => (row, hit row))).rows = t.rows.filter (!hit ·) := by
  show ((t.rows.map fun row => (row, hit row)).filter (!·.2)).map (·.1) = _
  rw [List.filter_map, List.map_map]
  exact List.map_id _

theorem Effect.updated_rows {assignments : List (String × Operand)} {r : Result}
    (effect : Effect config params s (.update table assignments filter) r s') :
    ∃ t t' hit, Told s config params table filter t hit ∧
      r.affected = (t.rows.filter hit).length ∧ s'.tables.get? table = some t' ∧
      List.Forall₂ (t.Updated params assignments hit) t.rows t'.rows := by
  cases effect with
  | updatedNothing found assigned marked none =>
    obtain ⟨hit, told, rfl⟩ := told_of_marked found marked
    rw [markedCount_map] at none
    exact ⟨_, _, hit, told, none.symm, found, Table.updated_of_none none⟩
  | updated found assigned marked _ made =>
    obtain ⟨hit, told, rfl⟩ := told_of_marked found marked
    obtain ⟨_, rfl⟩ := Table.withChanges_eq_ok made
    exact ⟨_, _, hit, told, markedCount_map hit _, TextMap.get?_insert_self ..,
      Table.updated_of_changes assigned hit⟩

theorem Effect.deleted_rows {r : Result}
    (effect : Effect config params s (.delete table filter) r s') :
    ∃ t t' hit, Told s config params table filter t hit ∧
      r.affected = (t.rows.filter hit).length ∧ s'.tables.get? table = some t' ∧
      t'.rows = t.rows.filter (!hit ·) := by
  cases effect with
  | deletedNothing found marked none =>
    obtain ⟨hit, told, rfl⟩ := told_of_marked found marked
    rw [markedCount_map] at none
    exact ⟨_, _, hit, told, none.symm, found, (filter_not_of_none none).symm⟩
  | deleted found marked =>
    obtain ⟨hit, told, rfl⟩ := told_of_marked found marked
    exact ⟨_, _, hit, told, markedCount_map hit _, TextMap.get?_insert_self .., rows_without hit _⟩

/-- **An update and a deletion touch the rows that a read with their filter brings, and no others.**
Both report the number of these rows. An update leaves all rows in their places and the rows that do
not meet the filter as they are, and sets the assigned columns of the others to the coerced value of
the last assignment. A deletion leaves the rows that do not meet the filter, in their order. -/
theorem changes_touch_read_rows (s : Store) (config : Config) (params : List Value)
    (table : String) (filter : Option Predicate) :
    (∀ assignments r s', s.run config (.update table assignments filter) params = (.ok r, s') →
      ∃ t t' hit, Told s config params table filter t hit ∧
        r.affected = (t.rows.filter hit).length ∧ s'.tables.get? table = some t' ∧
        List.Forall₂ (t.Updated params assignments hit) t.rows t'.rows) ∧
    (∀ r s', s.run config (.delete table filter) params = (.ok r, s') →
      ∃ t t' hit, Told s config params table filter t hit ∧
        r.affected = (t.rows.filter hit).length ∧ s'.tables.get? table = some t' ∧
        t'.rows = t.rows.filter (!hit ·)) :=
  ⟨fun _ _ _ ran => (run_effect ran).updated_rows, fun _ _ ran => (run_effect ran).deleted_rows⟩

/-- What stands on a shelf is moved and counted anew. Of the two shelves the second one counts,
which is given as a number. -/
def recount : List (String × Operand) :=
  [("shelf", .literal (.text "D")), ("count", .literal (.int 12)), ("shelf", .param 1)]

/-- What stands on the shelf that the first parameter names. -/
def onShelf : Option Predicate := some (.compare "shelf" .eq (.param 0))

theorem changes_touch_read_rows_shelf :
    let s := Store.empty.withTable "items" stock
    let params : List Value := [.text "A", .int 5]
    (∃ s' t t' hit,
      s.run .standard (.update "items" recount onShelf) params = (.ok ⟨[], 2, none⟩, s') ∧
        Told s .standard params "items" onShelf t hit ∧ 2 = (t.rows.filter hit).length ∧
        s'.tables.get? "items" = some t' ∧
        List.Forall₂ (t.Updated params recount hit) t.rows t'.rows) ∧
    (∃ s' t t' hit,
      s.run .standard (.delete "items" onShelf) params = (.ok ⟨[], 2, none⟩, s') ∧
        Told s .standard params "items" onShelf t hit ∧ 2 = (t.rows.filter hit).length ∧
        s'.tables.get? "items" = some t' ∧ t'.rows = t.rows.filter (!hit ·)) := by
  intro s params
  have updated : (s.run .standard (.update "items" recount onShelf) params).1 =
      .ok ⟨[], 2, none⟩ := by cbv
  have deleted : (s.run .standard (.delete "items" onShelf) params).1 = .ok ⟨[], 2, none⟩ := by cbv
  obtain ⟨updates, deletes⟩ := changes_touch_read_rows s .standard params "items" onShelf
  obtain ⟨t, t', hit, touched⟩ := updates recount _ _ (Prod.ext updated rfl)
  obtain ⟨u, u', gone, removed⟩ := deletes _ _ (Prod.ext deleted rfl)
  exact ⟨⟨_, t, t', hit, Prod.ext updated rfl, touched⟩,
    ⟨_, u, u', gone, Prod.ext deleted rfl, removed⟩⟩

end Polystore.Relational
