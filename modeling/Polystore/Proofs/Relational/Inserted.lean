import Mathlib
import Polystore.Proofs.Relational.Numbers
import Polystore.Proofs.Relational.Recall

/-!
# The row that an insertion adds

A new row is put together from three sources. The values that are given come first, the last one for
a column counting; then an identity without a value receives the next number; defaults fill the rest.
Each step must leave alone what the one before has set, and only in a well-formed table do the three
together make a row of exactly its columns, with one column at most that is numbered.
-/

namespace Polystore.Relational

open Outcome

/-- What a new row holds in a column, when the values are given for columns and the last number of
the identity is known. -/
inductive Fills (last : Int64) (params : List Value) (values : List (String × Operand))
    (d : ColumnDef) : Value → Prop
  /-- What the last value that is given for the column is stored as; for an identity, unless that is
  `null`. -/
  | given {v w : Value} (gives : Gives params values d.name v)
      (stored : d.column.type.coerce d.name v = .ok w)
      (counts : d.column.isIdentity = true → w ≠ .null) : Fills last params values d w
  /-- The number after the last one, in an identity that is left out or given `null`. -/
  | numbered {n : Int64} (identity : d.column.isIdentity = true)
      (unnumbered : d.name ∉ values.map (·.1) ∨
        ∃ v, Gives params values d.name v ∧ d.column.type.coerce d.name v = .ok .null)
      (next : n.toInt = last.toInt + 1) : Fills last params values d (.int n)
  /-- The stored default, or `null` without one, in any other column that is left out. -/
  | default {w : Value} (plain : d.column.isIdentity = false) (unnamed : d.name ∉ values.map (·.1))
      (default : storedDefault d.name d.column = .ok w) : Fills last params values d w

/-- Values given for columns were inserted into a table as a row behind all others, and nothing else
of the store was touched but the counter of the identity. -/
structure Inserted (s s' : Store) (params : List Value) (table : String)
    (values : List (String × Operand)) (t t' : Table) (row : Row) (r : Result) : Prop where
  found : s.tables.get? table = some t
  left : s'.tables.get? table = some t'
  columns : t'.columns = t.columns
  rows : t'.rows = t.rows ++ [row]
  keys : ∀ name, name ∈ row.keys ↔ name ∈ t.columns.map (·.name)
  fills : ∀ d ∈ t.columns, Fills (s.counter table d.name) params values d (row.at d.name)
  affected : r.affected = 1
  /-- The value in the identity is reported, else that in the first primary column. -/
  reported : r.insertId =
    ((t.columns.find? (·.column.isIdentity)).or (t.columns.find? (·.column.primary))).map
      fun d => row.at d.name
  /-- The larger one of the counter and the number of the row, if the row has one. -/
  counted : ∀ d ∈ t.columns, d.column.isIdentity = true →
    s'.counter table d.name =
      max (s.counter table d.name) ((row.at d.name).asInt.getD (s.counter table d.name))
  otherTables : ∀ other, table ≠ other → s'.tables.get? other = s.tables.get? other
  otherCounters : ∀ other name,
    (table = other → ∀ d ∈ t.columns, d.column.isIdentity = true → d.name ≠ name) →
      s'.counter other name = s.counter other name

namespace Table

variable {t : Table} {params : List Value} {values : List (String × Operand)} {row given : Row}
  {table name : String} {last : Int64} {counter : Option (String × Int64)} {d : ColumnDef}

/-! ## One column of the new row -/

/-- Under a name that values are given for, the given row holds what the last of them is stored
as. -/
theorem exists_gives_of_givenRow (h : t.givenRow params row values = .ok given)
    (named : name ∈ values.map (·.1)) :
    ∃ c v w, t.column? name = some c ∧ Gives params values name v ∧
      c.type.coerce name v = .ok w ∧ given.get? name = some w := by
  induction values generalizing row with
  | nil => cases named
  | cons value rest ih =>
    obtain ⟨first, operand⟩ := value
    obtain ⟨c, known, h⟩ := bind_eq_ok.mp h
    obtain ⟨v, resolved, h⟩ := bind_eq_ok.mp h
    obtain ⟨w, coerced, h⟩ := bind_eq_ok.mp h
    by_cases later : name ∈ rest.map (·.1)
    · obtain ⟨c', v', w', known', gives, stored⟩ := ih h later
      exact ⟨c', v', w', known', gives.cons _, stored⟩
    · obtain rfl : name = first := (List.mem_cons.mp named).resolve_right later
      refine ⟨c, v, w, requireColumn_eq_ok.mp known, gives_cons_self later resolved, coerced, ?_⟩
      rw [givenRow_get?_of_not_mem h later, TextMap.get?_insert_self]

/-- **Every column of the new row is filled from its source.** -/
theorem fills_of_candidate (h : t.WellFormed)
    (made : t.candidate table last params values = .ok (row, counter)) (there : d ∈ t.columns) :
    Fills last params values d (row.at d.name) := by
  obtain ⟨given, numbered, hgiven, hnumbered, hrow⟩ := candidate_eq_ok made
  have known : t.column? d.name = some d.column := Schema.column?_of_mem h.distinct there
  rcases get?_withIdentity hnumbered d.name with ⟨kept, filled⟩ | ⟨null, ⟨e, found, same⟩, more, next⟩
  · by_cases named : d.name ∈ values.map (·.1)
    · obtain ⟨c, v, w, known', gives, stored, set⟩ := exists_gives_of_givenRow hgiven named
      obtain rfl := Option.some.inj (known'.symm.trans known)
      rw [completedRow_at hrow (kept.trans set)]
      refine .given gives stored fun identity null => ?_
      have given := filled d (h.identity?_eq there identity) rfl
      rw [Row.at, set, null] at given
      exact given rfl
    · have unset : given.get? d.name = none := givenRow_get?_of_not_mem hgiven named
      have plain : d.column.isIdentity = false := by
        refine Bool.eq_false_iff.mpr fun identity => ?_
        have given := filled d (h.identity?_eq there identity) rfl
        rw [Row.at, unset] at given
        exact given rfl
      rcases completedRow_get? hrow d.name with same | ⟨_, e, he, same, w, default, set⟩
      · -- a completed row has every column
        have has := (completedRow_filled hrow d there).1
        rw [TextMap.contains, same, kept, unset] at has
        cases has
      · obtain rfl := Schema.eq_of_name h.distinct he there same
        rw [Row.at, set]
        exact .default plain named default
  · obtain rfl := Schema.eq_of_name h.distinct (mem_of_identity? found) there same
    rw [completedRow_at hrow next]
    refine .numbered (isIdentity_of_identity? found) ?_ (Int64.toInt_add_one more)
    by_cases named : e.name ∈ values.map (·.1)
    · obtain ⟨c, v, w, known', gives, stored, set⟩ := exists_gives_of_givenRow hgiven named
      obtain rfl := Option.some.inj (known'.symm.trans known)
      rw [Row.at, set, Option.getD_some] at null
      exact .inr ⟨v, gives, null ▸ stored⟩
    · exact .inl named

/-- Only the counter of the identity is moved. -/
theorem identity_of_candidate {b : String × Int64}
    (made : t.candidate table last params values = .ok (row, counter)) (set : counter = some b) :
    ∃ d, t.identity? = some d ∧ b.1 = d.name := by
  cases identity : t.identity? with
  | none =>
    obtain ⟨given, numbered, _, hnumbered, _⟩ := candidate_eq_ok made
    rcases withIdentity_eq_ok hnumbered with ⟨_, _, rfl⟩ | ⟨d, found, _⟩
    · cases set
    · rw [identity] at found
      cases found
  | some d => exact ⟨d, rfl, (counter_of_candidate identity made b set).1⟩

/-- The counter of the identity is moved to the number of the new row, if that is larger. -/
theorem moved_of_candidate (identity : t.identity? = some d)
    (made : t.candidate table last params values = .ok (row, counter)) :
    moved last counter = max last ((row.at d.name).asInt.getD last) := by
  obtain ⟨given, numbered, _, hnumbered, hrow⟩ := candidate_eq_ok made
  have larger (n : Int64) : max last n = if last ≤ n then n else last := rfl
  rcases withIdentity_eq_ok_of_some identity hnumbered with
    ⟨_, more, rfl, rfl⟩ | ⟨n, number, rfl, rfl⟩ | ⟨notNull, notInt, rfl, rfl⟩
  · rw [completedRow_at hrow (TextMap.get?_insert_self ..), Value.asInt, Option.getD_some, larger,
      if_pos (Int64.le_of_lt (Int64.lt_add_one more))]
    rfl
  · rw [completedRow_at hrow (Row.get?_of_at number (by simp)), Value.asInt, Option.getD_some, larger]
    split
    · rename_i beyond
      rw [if_pos (Int64.le_of_lt beyond)]
      rfl
    · rename_i within
      split
      · rename_i le
        exact Int64.le_antisymm le (Int64.not_lt.mp within)
      · rfl
  · have kept : row.at d.name = numbered.at d.name :=
      completedRow_at hrow (Row.get?_of_at rfl notNull)
    have noNumber : (row.at d.name).asInt = none := by
      rw [kept]
      cases held : numbered.at d.name with
      | int n => exact absurd held (notInt n)
      | _ => rfl
    rw [noNumber, Option.getD_none, larger, if_pos (Int64.le_refl last)]
    rfl

end Table

/-! ## The insertion -/

variable {s s' : Store} {config : Config} {params : List Value} {table : String}
  {columns : List String} {values : List Operand} {r : Result}

/-- Where nothing is numbered, the last number does not matter. -/
theorem Fills.of_plain {values : List (String × Operand)} {last : Int64} {d : ColumnDef} {w : Value}
    (h : Fills last params values d w) (plain : d.column.isIdentity = false) (other : Int64) :
    Fills other params values d w := by
  cases h with
  | given gives stored counts => exact .given gives stored counts
  | numbered identity => exact absurd identity (Bool.eq_false_iff.mp plain)
  | default plain unnamed default => exact .default plain unnamed default

theorem Effect.inserted_row (wellFormed : s.AllTables Table.WellFormed)
    (effect : Effect config params s (.insert table columns values) r s') :
    columns.length = values.length ∧
      ∃ t t' row, Inserted s s' params table (columns.zip values) t t' row r := by
  cases effect with
  | @inserted _ _ _ t row counter fits found made =>
    have h : t.WellFormed := wellFormed table t found
    have made := (Table.newRow_eq_ok made).1
    have whole : row.Fits t.columns := Table.fits_of_candidate made
    have last : ∀ d ∈ t.columns, d.column.isIdentity = true →
        s.lastIdentity table t = s.counter table d.name := fun d there identity =>
      Store.lastIdentity_eq (h.identity?_eq there identity)
    refine ⟨fits, t, _, row,
      { found
        left := TextMap.get?_insert_self ..
        columns := rfl
        rows := rfl
        keys := whole.keys
        fills := fun d there => ?_
        affected := rfl
        reported := ?_
        counted := fun d there identity => ?_
        otherTables := fun other ne => ?_
        otherCounters := fun other name apart => ?_ }⟩
    · have filled := Table.fills_of_candidate h made there
      by_cases identity : d.column.isIdentity = true
      · rw [← last d there identity]
        exact filled
      · exact filled.of_plain (Bool.eq_false_iff.mpr identity) _
    · have there : ∀ d, t.reportedColumn = some d → d ∈ t.columns := fun d reported =>
        (Option.or_eq_some_iff.mp reported).elim Table.mem_of_identity? fun primary =>
          List.mem_of_find?_eq_some primary.2
      show t.reportedColumn.bind (fun d => row.get? d.name) =
        t.reportedColumn.map fun d => row.at d.name
      cases reported : t.reportedColumn with
      | none => rfl
      | some d => exact whole.get?_eq (there d reported)
    · have identity := h.identity?_eq there identity
      have named : ∀ b, counter = some b → b.1 = d.name := fun b set =>
        (Table.counter_of_candidate identity made b set).1
      rw [Store.counter_withTable, Store.counter_withCounter?_self named,
        ← Store.lastIdentity_eq identity, Table.moved_of_candidate identity made]
    · rw [Store.withTable, TextMap.get?_insert_of_ne ne, Store.tables_withCounter?]
    · rw [Store.counter_withTable]
      by_cases same : table = other
      · subst same
        refine Store.counter_withCounter?_of_unnamed fun b set => ?_
        obtain ⟨d, identity, named⟩ := Table.identity_of_candidate made set
        rw [named]
        exact apart rfl d (Table.mem_of_identity? identity) (Table.isIdentity_of_identity? identity)
      · exact Store.counter_withCounter?_of_ne same

/-- **An insertion adds one row, and every column of it is filled from its source.** The rows that
are there stay as they are, and the new one behind them has the columns of the table and no others:
what is given last for a column is stored there, an identity that is left out or comes to `null`
receives the number after the last one, and the default fills any other column. The counter moves up
to the number of the row, and the value in the identity, or in the first primary column, is
reported. -/
theorem insertion_adds_filled_row (reachable : Reachable Command.Any s)
    (ran : s.run config (.insert table columns values) params = (.ok r, s')) :
    columns.length = values.length ∧
      ∃ t t' row, Inserted s s' params table (columns.zip values) t t' row r :=
  (run_effect ran).inserted_row
    (reachable.allTables fun _ c _ => Table.wellFormed_kept c.config)

/-- The stock in front of its last item. -/
def unfinishedStock : Store := Store.empty.afterAll stockTaking.dropLast

/-- A pin that is given two shelves, no number and no count. -/
def pin : List (String × Operand) :=
  [("shelf", .literal (.text "A")), ("label", .param 0), ("id", .literal .null),
    ("shelf", .param 1)]

theorem insertion_adds_filled_row_pin :
    let added : Statement := .insert "items" (pin.map (·.1)) (pin.map (·.2))
    let params : List Value := [.text "pin", .int 7]
    let s' := (unfinishedStock.run .standard added params).2
    Reachable Command.Any unfinishedStock ∧
      unfinishedStock.run .standard added params = (.ok ⟨[], 1, some (.int 4)⟩, s') ∧
      ∃ t t' row,
        Inserted unfinishedStock s' params "items" pin t t' row ⟨[], 1, some (.int 4)⟩ := by
  have answer : (unfinishedStock.run .standard (.insert "items" (pin.map (·.1)) (pin.map (·.2)))
      [.text "pin", .int 7]).1 = .ok ⟨[], 1, some (.int 4)⟩ := by cbv
  intro added params s'
  have reachable : Reachable Command.Any unfinishedStock :=
    Reachable.empty.afterAll fun _ _ _ => trivial
  have ran : unfinishedStock.run .standard added params = (.ok ⟨[], 1, some (.int 4)⟩, s') :=
    Prod.ext answer rfl
  exact ⟨reachable, ran, (insertion_adds_filled_row reachable ran).2⟩

end Polystore.Relational
