import Polystore.Proofs.Relational.Fitting
import Polystore.Sql.Read

/-!
# Primary keys of several columns

A table may have several primary columns, and a declaration may list them as one key. The key is
then a tuple, but what must be distinct is each column of it on its own: a row is refused as soon as
it has the value of a stored row in one primary column, whatever it holds in the others. With one
primary column this is what the key says. With more of them it is what the key says only where no
stored row shares a part of the key without sharing all of it.
-/

namespace Polystore

/-! ## Rows with the same key -/

/-- Two rows have the same text in each of some columns. -/
def Row.SharesKey (columns : List String) (a b : Row) : Prop :=
  ∀ c ∈ columns, (a.at c).keyText = (b.at c).keyText

instance (columns : List String) (a b : Row) : Decidable (a.SharesKey columns b) :=
  inferInstanceAs (Decidable (∀ _ ∈ _, _))

theorem Row.sharesKey_singleton {name : String} {a b : Row} :
    a.SharesKey [name] b ↔ (a.at name).keyText = (b.at name).keyText := by
  simp [SharesKey]

/-- Over one column the key is the text of the value. -/
theorem Row.key_singleton (name : String) (row : Row) : row.key [name] = (row.at name).keyText :=
  rfl

theorem Row.SharesKey.of_mem {columns : List String} {name : String} {a b : Row}
    (h : a.SharesKey columns b) (there : name ∈ columns) : a.SharesKey [name] b :=
  sharesKey_singleton.mpr (h name there)

namespace Relational

namespace Table

variable {t : Table} {row : Row}

/-- The names of the primary columns, in their order. -/
def primaryNames (t : Table) : List String := (t.columns.filter (·.column.primary)).map (·.name)

/-- Nothing but the primary key asks for distinct values: no other column does, and no index. -/
structure KeyedByPrimary (t : Table) : Prop where
  columns : ∀ d ∈ t.columns, d.column.unique = false
  indexes : ∀ b ∈ t.indexes.entries, b.2.unique = false

/-- Every primary column makes a unique set of its own. -/
theorem KeyedByPrimary.uniqueSets_eq (h : t.KeyedByPrimary) :
    t.uniqueSets = t.primaryNames.map fun name => (name, [name]) := by
  have columns : (t.columns.filter fun d => d.column.primary || d.column.unique) =
      t.columns.filter (·.column.primary) := by
    refine List.filter_congr fun d hd => ?_
    rw [h.columns d hd, Bool.or_false]
  have indexes : t.indexes.entries.filter (·.2.unique) = [] := by
    simpa [List.filter_eq_nil_iff] using h.indexes
  rw [uniqueSets, columns, indexes, primaryNames, List.map_map, List.map_nil, List.append_nil]
  rfl

/-- A row that fits the table is not blank in a primary column. -/
theorem not_isBlankIn_of_fits (fits : row.Fits t.columns) {name : String}
    (primary : name ∈ t.primaryNames) : row.isBlankIn [name] = false := by
  obtain ⟨d, hd, rfl⟩ := List.mem_map.mp primary
  obtain ⟨there, isPrimary⟩ := List.mem_filter.mp hd
  have filled := fits.values d there (.inl isPrimary)
  simpa [Row.isBlankIn] using isNull_eq_false.mpr filled

/-- A row repeats a primary column when it shares this column with a stored row. -/
theorem repeats_primary_iff (fits : row.Fits t.columns) {name : String}
    (primary : name ∈ t.primaryNames) :
    t.Repeats [name] row ↔ ∃ other ∈ t.rows, other.SharesKey [name] row := by
  simp only [Repeats, not_isBlankIn_of_fits fits primary, true_and, Row.key_singleton,
    Row.sharesKey_singleton]

/-- **A row passes just when it shares no primary column with a stored row.** -/
theorem KeyedByPrimary.checkUniqueRow_eq_ok_iff (h : t.KeyedByPrimary) (fits : row.Fits t.columns) :
    t.checkUniqueRow row = .ok () ↔
      ∀ name ∈ t.primaryNames, ¬ ∃ other ∈ t.rows, other.SharesKey [name] row := by
  rw [checkUniqueRow, h.uniqueSets_eq, checkRowAgainst_eq_ok, List.forall_mem_map]
  exact forall₂_congr fun name primary => not_congr (repeats_primary_iff fits primary)

/-- A row that is refused shares the primary column that the error names. -/
theorem KeyedByPrimary.checkUniqueRow_eq_error (h : t.KeyedByPrimary) (fits : row.Fits t.columns)
    {e : Error} (refused : t.checkUniqueRow row = .error e) :
    ∃ name ∈ t.primaryNames, (∃ other ∈ t.rows, other.SharesKey [name] row) ∧
      e = t.duplicate name (row.at name).keyText := by
  obtain ⟨set, hset, repeats, rfl⟩ := checkRowAgainst_eq_error refused
  rw [h.uniqueSets_eq] at hset
  obtain ⟨name, primary, rfl⟩ := List.mem_map.mp hset
  exact ⟨name, primary, (repeats_primary_iff fits primary).mp repeats, rfl⟩

/-- Whatever stored row shares a primary column with the row shares all of them. -/
def SharesWholly (t : Table) (row : Row) : Prop :=
  ∀ other ∈ t.rows, (∃ name ∈ t.primaryNames, other.SharesKey [name] row) →
    other.SharesKey t.primaryNames row

/-- A key of one column has no parts. -/
theorem sharesWholly_of_length_eq_one (one : t.primaryNames.length = 1) (row : Row) :
    t.SharesWholly row := by
  rintro other - ⟨name, primary, shares⟩
  obtain ⟨only, names⟩ := List.length_eq_one_iff.mp one
  rw [names] at primary ⊢
  obtain rfl := List.mem_singleton.mp primary
  exact shares

end Table

/-! ## Insertions -/

variable {s : Store} {table : String} {t : Table} {config : Config} {params : List Value}
  {columns : List String} {values : List Operand} {row : Row} {counter : Option (String × Int64)}

/-- What an insertion comes to whose values can be stored: it adds its row, or the row is refused for
what it repeats. -/
theorem run_insert_of_candidate (config : Config) (found : s.tables.get? table = some t)
    (shape : columns.length = values.length)
    (made : t.candidate table (s.lastIdentity table t) params (columns.zip values) =
      .ok (row, counter)) :
    (s.run config (.insert table columns values) params).1 =
      (if config.enforceUnique then t.checkUniqueRow row else .ok ()).map fun _ =>
        { rows := [], affected := 1
          insertId := t.reportedColumn.bind fun d => row.get? d.name } := by
  rw [run_insert shape found, Table.newRow_eq, made, Outcome.ok_bind]
  dsimp only
  cases config.enforceUnique with
  | false => rfl
  | true => cases t.checkUniqueRow row <;> rfl

/-- **The columns of a primary key are compared one by one.** In a table in which only the primary
key asks for distinct values, an insertion whose values can be stored is refused just when its row
shares one primary column with a stored row, and the error names such a column. A stored row with
the same key, in all primary columns together, is therefore enough for the refusal. That there is
one follows from the refusal only where the key has one column, or where whatever stored row shares
a part of the key shares all of it. -/
theorem primary_columns_compared_apart (found : s.tables.get? table = some t)
    (keyed : t.KeyedByPrimary) (shape : columns.length = values.length)
    (made : t.candidate table (s.lastIdentity table t) params (columns.zip values) =
      .ok (row, counter)) (enforced : config.enforceUnique = true) :
    let answer := (s.run config (.insert table columns values) params).1
    ((∃ e, answer = .error e) ↔
      ∃ name ∈ t.primaryNames, ∃ other ∈ t.rows, other.SharesKey [name] row) ∧
    (∀ e, answer = .error e → ∃ name ∈ t.primaryNames,
      (∃ other ∈ t.rows, other.SharesKey [name] row) ∧
        e = t.duplicate name (row.at name).keyText) ∧
    (t.primaryNames ≠ [] → (∃ other ∈ t.rows, other.SharesKey t.primaryNames row) →
      ∃ e, answer = .error e) ∧
    (t.primaryNames.length = 1 ∨ t.SharesWholly row → (∃ e, answer = .error e) →
      ∃ other ∈ t.rows, other.SharesKey t.primaryNames row) := by
  intro answer
  have fits : row.Fits t.columns := Table.fits_of_candidate made
  have answered := run_insert_of_candidate config found shape made
  rw [enforced, if_pos rfl] at answered
  have refused_iff (e : Error) : answer = .error e ↔ t.checkUniqueRow row = .error e := by
    show (s.run config (.insert table columns values) params).1 = .error e ↔ _
    rw [answered]
    cases t.checkUniqueRow row <;> simp [Except.map]
  have part : (∃ e, answer = .error e) ↔
      ∃ name ∈ t.primaryNames, ∃ other ∈ t.rows, other.SharesKey [name] row := by
    simp only [refused_iff]
    have passes := keyed.checkUniqueRow_eq_ok_iff fits
    cases checked : t.checkUniqueRow row with
    | ok _ =>
      have apart := passes.mp checked
      simpa using apart
    | error e =>
      rw [checked] at passes
      simpa using passes
  refine ⟨part, fun e refused => ?_, fun some same => ?_, fun whole refused => ?_⟩
  · exact keyed.checkUniqueRow_eq_error fits ((refused_iff e).mp refused)
  · -- a row with the whole key shares the first column of it
    obtain ⟨other, stored, shares⟩ := same
    obtain ⟨name, primary⟩ := List.exists_mem_of_ne_nil _ some
    exact part.mpr ⟨name, primary, other, stored, shares.of_mem primary⟩
  · have wholly : t.SharesWholly row :=
      whole.elim (fun one => Table.sharesWholly_of_length_eq_one one row) id
    obtain ⟨name, primary, other, stored, shares⟩ := part.mp refused
    exact ⟨other, stored, wholly other stored ⟨name, primary, shares⟩⟩

/-- The seats of a theatre, each known by its line and its number in the line. -/
def seats (rows : List Row) : Table :=
  { name := "seats"
    columns :=
      [⟨"line", (Column.ofType .integer).asPrimary⟩, ⟨"seat", (Column.ofType .integer).asPrimary⟩]
    rows
    indexes := TextMap.empty }

/-- A seat. -/
def seat (line seat : Int64) : Row := TextMap.ofList [("line", .int line), ("seat", .int seat)]

theorem keyedByPrimary_seats (rows : List Row) : (seats rows).KeyedByPrimary where
  columns := by simp [seats, Column.asPrimary, Column.ofType]
  indexes := by simp [seats, TextMap.empty]

theorem primary_columns_compared_apart_seats :
    let t := seats [seat 1 1, seat 2 4]
    let s := Store.empty.withTable "seats" t
    t.KeyedByPrimary ∧
      t.candidate "seats" (s.lastIdentity "seats" t) [.int 2]
        (["seat", "line"].zip [.literal (.int 4), .param 0]) = .ok (seat 2 4, none) ∧
      (∃ other ∈ t.rows, other.SharesKey t.primaryNames (seat 2 4)) ∧
      ∃ e, (s.run .standard (.insert "seats" ["seat", "line"] [.literal (.int 4), .param 0])
        [.int 2]).1 = .error e := by
  intro t s
  have made : t.candidate "seats" (s.lastIdentity "seats" t) [.int 2]
      (["seat", "line"].zip [.literal (.int 4), .param 0]) = .ok (seat 2 4, none) := rfl
  have stored : ∃ other ∈ t.rows, other.SharesKey t.primaryNames (seat 2 4) :=
    ⟨seat 2 4, by simp [t, seats], fun _ _ => rfl⟩
  have keyed : t.KeyedByPrimary := keyedByPrimary_seats _
  have found : s.tables.get? "seats" = some t := TextMap.get?_insert_self ..
  have enforced : Config.standard.enforceUnique = true := rfl
  obtain ⟨_, _, enough, _⟩ := primary_columns_compared_apart found keyed rfl made enforced
  exact ⟨keyed, made, stored, enough (by decide) stored⟩

/-- The declaration of the seats, with a key of two columns. -/
def seatsDeclared : String :=
  "CREATE TABLE seats (line INTEGER, seat INTEGER, PRIMARY KEY (line, seat))"

/-- **A key of two columns keeps out what shares one of them.** The declaration makes the table of
seats, in which only the key asks for distinct values. With the first seat of a line taken, the
second seat of the line is refused, although no stored row has its line and its number. -/
theorem second_seat_kept_out :
    Sql.readStatement seatsDeclared = .ok (.createTable "seats" (seats []).columns false) ∧
    (seats []).KeyedByPrimary ∧ (seats []).primaryNames = ["line", "seat"] ∧
    let taking (line seat : Int64) : Command :=
      ⟨.standard, .insert "seats" ["line", "seat"]
        [.literal (.int line), .literal (.int seat)], []⟩
    Store.empty.answers
        [⟨.standard, .createTable "seats" (seats []).columns false, []⟩, taking 1 1, taking 1 2] =
      [.ok Result.done, .ok { rows := [], affected := 1, insertId := some (.int 1) },
        .error (ExecutionError.constraintViolation "seats"
          "duplicate value '1' for unique key line")] ∧
    ¬ ∃ other ∈ [seat 1 1], other.SharesKey ["line", "seat"] (seat 1 2) := by
  refine ⟨?_, keyedByPrimary_seats [], by decide, ?_, ?_⟩
  · cbv
  · cbv
  · simp only [List.mem_singleton, exists_eq_left]
    decide +kernel

end Relational

end Polystore
