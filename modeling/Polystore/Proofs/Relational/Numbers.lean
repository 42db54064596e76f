import Polystore.Proofs.Relational.Distinct
import Polystore.Proofs.Relational.WellFormed
import Polystore.Proofs.Text.Digits

/-!
# Numbers and their counter

The counter of an integer identity stands apart from the rows. An insertion takes the next number
from it or moves it up to a number that the row brings, an update moves it up to the number that it
assigns first, and a change of columns carries it along with the column. For each of these, when it
is that the numbers of the rows it makes are counted.
-/

namespace Polystore

/-! ## Numbers -/

/-- Below the greatest integer the next one is one more. -/
theorem Int64.toInt_add_one {n : Int64} (more : n ≠ Int64.maxValue) :
    (n + 1).toInt = n.toInt + 1 := by
  have ne : n.toInt ≠ 2 ^ 63 - 1 := by
    intro e
    exact more (Int64.toInt_inj.mp (e.trans Int64.toInt_maxValue.symm))
  have low := n.le_toInt
  have high := n.toInt_lt
  rw [Int64.toInt_add, Int64.toInt_one, Int.bmod_def]
  omega

theorem Int64.lt_add_one {n : Int64} (more : n ≠ Int64.maxValue) : n < n + 1 := by
  rw [Int64.lt_iff_toInt_lt, toInt_add_one more]
  omega

theorem Int64.ofNat_le_ofNat {k n : Nat} (le : k ≤ n) (small : n < 2 ^ 63) :
    Int64.ofNat k ≤ Int64.ofNat n := by
  rw [Int64.le_iff_toInt_le, Int64.toInt_ofNat_of_lt (by omega), Int64.toInt_ofNat_of_lt small]
  omega

/-- Different integers have different key texts. -/
theorem Value.intText_injective {m n : Int64} (h : Value.intText m = Value.intText n) : m = n := by
  have same := Text.readInt64_intDigits m
  rw [String.ofList_injective h, Text.readInt64_intDigits] at same
  exact (Option.some.inj same).symm

/-- A column of integers stores an integer for everything that is not `null`. -/
theorem ColumnType.coerce_integer {name : String} {v w : Value}
    (h : ColumnType.integer.coerce name v = .ok w) : w = .null ∨ ∃ n, w = .int n := by
  refine (represents_of_coerce h).imp_right fun stored => ?_
  cases w with
  | int n => exact ⟨n, rfl⟩
  | _ => cases stored

/-- A row holds an integer in a column, and not beyond a counter. -/
def Row.CountedBy (name : String) (last : Int64) (row : Row) : Prop :=
  ∃ n, row.at name = .int n ∧ n ≤ last

theorem Row.CountedBy.mono {name : String} {last later : Int64} {row : Row}
    (h : row.CountedBy name last) (le : last ≤ later) : row.CountedBy name later := by
  obtain ⟨n, number, bound⟩ := h
  exact ⟨n, number, Int64.le_trans bound le⟩

namespace Relational

open Outcome

/-! ## Counters of a store -/

/-- Where a counter stands after it was moved, if it was. -/
def moved (last : Int64) (counter : Option (String × Int64)) : Int64 :=
  (counter.map (·.2)).getD last

theorem le_moved {last : Int64} {counter : Option (String × Int64)}
    (beyond : ∀ b, counter = some b → last < b.2) : last ≤ moved last counter := by
  cases counter with
  | none => exact Int64.le_refl last
  | some b => exact Int64.le_of_lt (beyond b rfl)

namespace Store

variable {s : Store} {table name : String} {counter : Option (String × Int64)}

theorem counter_withTable (s : Store) (other table name : String) (t : Table) :
    (s.withTable other t).counter table name = s.counter table name := rfl

theorem counter_withoutCounters_of_ne {other : String} (ne : table ≠ other) :
    (s.withoutCounters table).counter other name = s.counter other name := by
  rw [Store.counter, withoutCounters, TextMap.get?_erase, if_neg ne, Store.counter]

theorem counter_withCounter?_of_ne {other : String} (ne : table ≠ other) :
    (s.withCounter? table counter).counter other name = s.counter other name := by
  cases counter with
  | none => rfl
  | some b =>
    rw [Store.counter, withCounter?, withCounter, TextMap.get?_insert_of_ne ne, Store.counter]

theorem counter_withCounter?_of_unnamed (unnamed : ∀ b, counter = some b → b.1 ≠ name) :
    (s.withCounter? table counter).counter table name = s.counter table name := by
  cases counter with
  | none => rfl
  | some b =>
    rw [Store.counter, withCounter?, withCounter, TextMap.get?_insert_self, Option.bind_some,
      TextMap.get?_insert_of_ne (unnamed b rfl), Store.counter]
    cases s.counters.get? table <;> rfl

theorem counter_withCounter?_self (named : ∀ b, counter = some b → b.1 = name) :
    (s.withCounter? table counter).counter table name = moved (s.counter table name) counter := by
  cases counter with
  | none => rfl
  | some b =>
    rw [← named b rfl, Store.counter, withCounter?, withCounter, TextMap.get?_insert_self,
      Option.bind_some, TextMap.get?_insert_self]
    rfl

theorem lastIdentity_eq {t : Table} {d : ColumnDef} (identity : t.identity? = some d) :
    s.lastIdentity table t = s.counter table d.name := by
  rw [lastIdentity, identity]

end Store

/-! ## Numbers of a table -/

namespace Table

variable {t : Table} {table : String} {params : List Value} {last : Int64} {d : ColumnDef}

/-- The identity of the table, if it is a column of integers. -/
def integerIdentity? (t : Table) : Option String :=
  (t.identity?.filter fun d => d.column.type = .integer).map (·.name)

theorem integerIdentity?_eq_some {name : String} :
    t.integerIdentity? = some name ↔
      ∃ d, t.identity? = some d ∧ d.column.type = .integer ∧ d.name = name := by
  simp only [integerIdentity?, Option.map_eq_some_iff, Option.filter_eq_some_iff,
    decide_eq_true_eq, and_assoc]

/-- Numbering moves the counter of the identity, and never back. -/
theorem counter_of_candidate {values : List (String × Operand)} {row : Row}
    {counter : Option (String × Int64)} (identity : t.identity? = some d)
    (h : t.candidate table last params values = .ok (row, counter)) :
    ∀ b, counter = some b → b.1 = d.name ∧ last < b.2 := by
  obtain ⟨given, numbered, _, hnumbered, _⟩ := candidate_eq_ok h
  rcases withIdentity_eq_ok_of_some identity hnumbered with
    ⟨_, more, _, rfl⟩ | ⟨n, _, _, rfl⟩ | ⟨_, _, _, rfl⟩
  · rintro _ ⟨⟩
    exact ⟨rfl, Int64.lt_add_one more⟩
  · intro b hb
    split at hb
    · rename_i beyond
      cases hb
      exact ⟨rfl, beyond⟩
    · cases hb
  · simp

/-- The number of a row to be added is counted: it is the next one, which moves the counter, or a
number that the row brings, which moves the counter if it is beyond. -/
theorem countedBy_of_candidate {values : List (String × Operand)} {row : Row}
    {counter : Option (String × Int64)} (distinct : t.names.Nodup)
    (identity : t.identity? = some d) (integer : d.column.type = .integer)
    (h : t.candidate table last params values = .ok (row, counter)) :
    row.CountedBy d.name (moved last counter) ∧ last ≤ moved last counter ∧
      ∀ b, counter = some b → b.1 = d.name := by
  have moves := counter_of_candidate identity h
  refine ⟨?_, le_moved fun b hb => (moves b hb).2, fun b hb => (moves b hb).1⟩
  obtain ⟨given, numbered, hgiven, hnumbered, hrow⟩ := candidate_eq_ok h
  rcases withIdentity_eq_ok_of_some identity hnumbered with
    ⟨_, _, rfl, rfl⟩ | ⟨n, number, rfl, rfl⟩ | ⟨notNull, notInt, _⟩
  · exact ⟨last + 1, completedRow_at hrow (TextMap.get?_insert_self ..), Int64.le_refl _⟩
  · have number := completedRow_at hrow (Row.get?_of_at number (by simp))
    split
    · exact ⟨n, number, Int64.le_refl n⟩
    · rename_i within
      exact ⟨n, number, Int64.not_lt.mp within⟩
  · -- what is given to a column of integers is stored as an integer
    exfalso
    rcases givenRow_get? hgiven d.name with unset | ⟨c, v, w, known, coerced, set⟩
    · exact notNull (by rw [Row.at, unset]; rfl)
    · rw [column?_of_identity? distinct identity] at known
      cases known
      rw [integer] at coerced
      rcases ColumnType.coerce_integer coerced with rfl | ⟨n, rfl⟩
      · exact notNull (by rw [Row.at, set]; rfl)
      · exact notInt n (by rw [Row.at, set]; rfl)

/-- A row that brings no number for the identity receives the next one. -/
theorem at_identity_of_null {values : List (String × Operand)} {given row : Row}
    {counter : Option (String × Int64)} (identity : t.identity? = some d)
    (hgiven : t.givenRow params TextMap.empty values = .ok given) (null : given.at d.name = .null)
    (h : t.candidate table last params values = .ok (row, counter)) :
    row.at d.name = .int (last + 1) ∧ last < last + 1 := by
  obtain ⟨given', numbered, hgiven', hnumbered, hrow⟩ := candidate_eq_ok h
  obtain rfl : given' = given := Except.ok.inj (hgiven'.symm.trans hgiven)
  rcases withIdentity_eq_ok_of_some identity hnumbered with
    ⟨_, more, rfl, _⟩ | ⟨n, number, _⟩ | ⟨notNull, _⟩
  · exact ⟨completedRow_at hrow (TextMap.get?_insert_self ..), Int64.lt_add_one more⟩
  · rw [null] at number
    cases number
  · exact absurd null notNull

/-- A row that leaves the identity out receives the next number. -/
theorem at_identity_of_candidate {values : List (String × Operand)} {row : Row}
    {counter : Option (String × Int64)} (identity : t.identity? = some d)
    (out : d.name ∉ values.map (·.1))
    (h : t.candidate table last params values = .ok (row, counter)) :
    row.at d.name = .int (last + 1) ∧ last < last + 1 := by
  obtain ⟨given, _, hgiven, _, _⟩ := candidate_eq_ok h
  have unset : given.get? d.name = none := givenRow_get?_of_not_mem hgiven out
  exact at_identity_of_null identity hgiven (by rw [Row.at, unset]; rfl) h

/-- Numbers up to the counter are not repeated by a row that receives the next number. -/
theorem not_repeats_of_candidate {values : List (String × Operand)} {row : Row}
    {counter : Option (String × Int64)} (identity : t.identity? = some d)
    (counted : ∀ other ∈ t.rows, other.CountedBy d.name last)
    (out : d.name ∉ values.map (·.1))
    (h : t.candidate table last params values = .ok (row, counter)) :
    ¬t.Repeats [d.name] row := by
  obtain ⟨number, more⟩ := at_identity_of_candidate identity out h
  rintro ⟨_, other, ho, same⟩
  obtain ⟨n, stored, bound⟩ := counted other ho
  have same : (other.at d.name).keyText = (row.at d.name).keyText := same
  rw [stored, number] at same
  have same : n = last + 1 := Value.intText_injective same
  exact Int64.ne_of_lt (Int64.lt_of_le_of_lt bound more) same

/-! ## Numbers of changed rows -/

/-- An update counts a number beyond the last one, and only for the identity. -/
theorem counterAfter_eq_some {changes : List (String × Value)} {b : String × Int64}
    (identity : t.identity? = some d) (h : t.counterAfter last changes = some b) :
    b.1 = d.name ∧ last < b.2 := by
  rw [counterAfter, identity] at h
  dsimp only at h
  split at h
  · split at h
    · rename_i beyond
      cases h
      exact ⟨rfl, beyond⟩
    · cases h
  · cases h

/-- An update that assigns to the identity at most once counts the number that it stores. -/
theorem countedBy_changedRow {assignments : List (String × Operand)}
    {changes : List (String × Value)} {row : Row} (distinct : t.names.Nodup)
    (identity : t.identity? = some d) (integer : d.column.type = .integer)
    (once : (assignments.map (·.1)).count d.name ≤ 1)
    (made : t.changes table params assignments = .ok changes)
    (counted : row.CountedBy d.name last) :
    (changedRow changes row).CountedBy d.name (moved last (t.counterAfter last changes)) := by
  obtain ⟨names, assigned⟩ := changes_eq_ok made
  have holds := changedRow_get?_of_count row (names ▸ once)
  rw [Row.CountedBy, Row.at, holds, counterAfter, identity]
  dsimp only
  cases found : changes.find? (·.1 = d.name) with
  | none => exact counted
  | some b =>
    obtain ⟨c, v, known, stored⟩ := assigned b (List.mem_of_find?_eq_some found)
    have named : b.1 = d.name := by simpa using List.find?_some found
    rw [named, column?_of_identity? distinct identity] at known
    cases known
    obtain ⟨coerced, required⟩ := storedValue_eq_ok stored
    rw [integer] at coerced
    have primary : d.column.primary = true :=
      (Bool.and_eq_true_iff.mp (isIdentity_of_identity? identity)).2
    have notNull := isNull_eq_false.mp (required (requiresValue_iff.mpr (.inl primary)))
    obtain ⟨n, number⟩ := (ColumnType.coerce_integer coerced).resolve_left notNull
    obtain ⟨name, w⟩ := b
    obtain rfl : w = .int n := number
    refine ⟨n, rfl, ?_⟩
    dsimp only
    split
    · exact Int64.le_refl n
    · rename_i within
      exact Int64.not_lt.mp within

end Table

/-! ## Numbers of changed columns -/

/-- The column of integers whose numbers the counter keeps up with, behind a change of the columns.
An identity that is added takes the counter over, and a column that is dropped or becomes one of
another type lets go of it. -/
def followed (column : Option String) : Alteration → Option String
  | .add name c =>
    if c.isIdentity then if c.type = .integer then some name else none else column
  | .drop name => column.filter (· ≠ name)
  | .modify name c => if c.type = .integer then column else column.filter (· ≠ name)

namespace Altered

variable {a b : Altered} {table name other : String} {c : Column}

/-- The counter is that of a column and has counted its numbers. -/
structure Counts (a : Altered) (name : String) : Prop where
  known : name ∈ a.table.names
  counted : ∃ last, a.counter = some (name, last) ∧
    ∀ row ∈ a.table.rows, row.CountedBy name last

theorem counts_addIdentity (small : a.table.rows.length < 2 ^ 63) (identity : c.isIdentity = true)
    (made : a.addColumn table name c = .ok b) : b.Counts name := by
  obtain ⟨_, _, _, ⟨_, rfl⟩ | ⟨plain, _⟩⟩ := addColumn_eq_ok made
  · refine ⟨by simp [Table.names], _, rfl, fun row hr => ?_⟩
    obtain ⟨old, _, k, bound, rfl⟩ := mem_numbered hr
    exact ⟨_, Row.at_insert_self .., Int64.ofNat_le_ofNat (by omega) small⟩
  · rw [identity] at plain
    cases plain

theorem Counts.addColumn (h : a.Counts name) (plain : c.isIdentity = false)
    (made : a.addColumn table other c = .ok b) : b.Counts name := by
  obtain ⟨free, default, _, ⟨identity, _⟩ | ⟨_, _, rfl⟩⟩ := addColumn_eq_ok made
  · rw [plain] at identity
    cases identity
  · obtain ⟨last, counter, counted⟩ := h.counted
    have ne : other ≠ name := by
      rintro rfl
      exact Table.not_mem_names_of_column? free h.known
    refine ⟨?_, last, counter, fun row hr => ?_⟩
    · rw [Table.names, List.map_append]
      exact List.mem_append_left _ h.known
    · obtain ⟨old, ho, rfl⟩ := List.mem_map.mp hr
      rw [Row.CountedBy, Row.at_insert_of_ne ne]
      exact counted old ho

theorem Counts.dropColumn (h : a.Counts name) (ne : name ≠ other)
    (made : a.dropColumn other = .ok b) : b.Counts name := by
  obtain ⟨_, rfl⟩ := dropColumn_eq_ok made
  obtain ⟨last, counter, counted⟩ := h.counted
  obtain ⟨d, hd, rfl⟩ := List.mem_map.mp h.known
  refine ⟨?_, last, ?_, fun row hr => ?_⟩
  · exact List.mem_map_of_mem (List.mem_filter.mpr ⟨hd, decide_eq_true ne⟩)
  · rw [counter, Option.filter_some]
    exact if_pos (decide_eq_true ne)
  · obtain ⟨old, ho, rfl⟩ := List.mem_map.mp hr
    rw [Row.CountedBy, Row.at_erase_of_ne ne.symm]
    exact counted old ho

theorem Counts.modifyColumn (h : a.Counts name) (kept : c.type = .integer ∨ name ≠ other)
    (made : a.modifyColumn table other c = .ok b) : b.Counts name := by
  obtain ⟨known, rows, stored, rfl⟩ := modifyColumn_eq_ok made
  obtain ⟨last, counter, counted⟩ := h.counted
  refine ⟨?_, last, counter, fun row hr => ?_⟩
  · show name ∈ (Schema.withColumn a.table.columns other c).map (·.name)
    rw [Schema.names_withColumn known]
    exact h.known
  · obtain ⟨old, ho, made⟩ := mem_of_mapM stored row hr
    obtain ⟨w, storable, rfl⟩ := map_eq_ok.mp made
    obtain ⟨n, number, bound⟩ := counted old ho
    by_cases same : other = name
    · subst same
      have integer := kept.resolve_right fun ne => ne rfl
      have coerced := (storedValue_eq_ok storable).1
      rw [integer, number] at coerced
      exact ⟨n, (Row.at_insert_self ..).trans (Except.ok.inj coerced).symm, bound⟩
    · exact ⟨n, (Row.at_insert_of_ne same ..).trans number, bound⟩

/-- What a change of the columns follows is counted behind it. -/
theorem counts_apply {column : Option String} {alteration : Alteration}
    (small : a.table.rows.length < 2 ^ 63) (h : ∀ name, column = some name → a.Counts name)
    (made : Altered.apply table a alteration = .ok b) :
    ∀ name, followed column alteration = some name → b.Counts name := by
  intro name follows
  cases alteration with
  | add other c =>
    rw [followed] at follows
    split at follows
    · rename_i identity
      split at follows
      · cases follows
        exact counts_addIdentity small identity made
      · cases follows
    · rename_i plain
      exact (h name follows).addColumn (Bool.eq_false_iff.mpr plain) made
  | drop other =>
    obtain ⟨follows, ne⟩ := Option.filter_eq_some_iff.mp follows
    exact (h name follows).dropColumn (of_decide_eq_true ne) made
  | modify other c =>
    rw [followed] at follows
    split at follows
    · rename_i integer
      exact (h name follows).modifyColumn (.inl integer) made
    · obtain ⟨follows, ne⟩ := Option.filter_eq_some_iff.mp follows
      exact (h name follows).modifyColumn (.inr (of_decide_eq_true ne)) made

/-- A change of the columns leaves as many rows as there were. -/
theorem length_apply {alteration : Alteration} (made : Altered.apply table a alteration = .ok b) :
    b.table.rows.length = a.table.rows.length := by
  cases alteration with
  | add other c =>
    obtain ⟨_, _, _, ⟨_, rfl⟩ | ⟨_, _, rfl⟩⟩ := addColumn_eq_ok made
    · exact length_numbered other 0 _
    · exact List.length_map _
  | drop other =>
    obtain ⟨_, rfl⟩ := dropColumn_eq_ok made
    exact List.length_map _
  | modify other c =>
    obtain ⟨_, rows, stored, rfl⟩ := modifyColumn_eq_ok made
    simpa using congrArg List.length (map_of_mapM (g := fun _ => ()) (fun _ _ _ => rfl) stored)

theorem length_foldlM {alterations : List Alteration}
    (made : alterations.foldlM (Altered.apply table) a = .ok b) :
    b.table.rows.length = a.table.rows.length :=
  foldlM_invariant (P := fun b => b.table.rows.length = a.table.rows.length)
    (fun _ _ _ _ h step => (length_apply step).trans h) rfl made

/-- What a list of changes follows is counted behind it. -/
theorem counts_foldlM {column : Option String} {alterations : List Alteration}
    (small : a.table.rows.length < 2 ^ 63) (h : ∀ name, column = some name → a.Counts name)
    (made : alterations.foldlM (Altered.apply table) a = .ok b) :
    ∀ name, alterations.foldl followed column = some name → b.Counts name := by
  induction alterations generalizing a column with
  | nil =>
    cases made
    exact h
  | cons alteration rest ih =>
    rw [List.foldlM_cons] at made
    obtain ⟨next, step, made⟩ := bind_eq_ok.mp made
    exact ih ((length_apply step).symm ▸ small) (counts_apply small h step) made

end Altered

namespace Table

variable {config : Config} {t : Table} {table : String} {last : Int64}
  {alterations : List Alteration} {a : Altered}

/-- The identity that a list of changes follows is counted behind it. -/
theorem counts_altered (small : t.rows.length < 2 ^ 63)
    (counted : ∀ name, t.integerIdentity? = some name → ∀ row ∈ t.rows, row.CountedBy name last)
    (made : t.altered config table last alterations = .ok a) {name : String}
    (follows : alterations.foldl followed t.integerIdentity? = some name) : a.Counts name := by
  obtain ⟨b, applied, _, _, rfl⟩ := altered_eq_ok made
  have start : ∀ name, t.integerIdentity? = some name → (t.start last).Counts name := by
    intro name identity
    refine ⟨?_, last, ?_, counted name identity⟩
    all_goals obtain ⟨d, found, _, rfl⟩ := integerIdentity?_eq_some.mp identity
    · exact List.mem_map_of_mem (mem_of_identity? found)
    · rw [Table.start, found]
      rfl
  obtain ⟨known, counted⟩ := Altered.counts_foldlM small start applied name follows
  exact ⟨known, counted⟩

theorem length_altered (made : t.altered config table last alterations = .ok a) :
    a.table.rows.length = t.rows.length := by
  obtain ⟨b, applied, _, _, rfl⟩ := altered_eq_ok made
  exact Altered.length_foldlM applied

end Table

end Relational

end Polystore
