import Mathlib
import Polystore.Proofs.Column.Recall
import Polystore.Proofs.Relational.Effect
import Polystore.Proofs.Relational.Reachable
import Polystore.Proofs.Relational.Rows
import Polystore.Proofs.Selection.Agreement
import Polystore.Relational.Compile

/-!
# Rows found by the value that was inserted

An insertion stores the coerced value, and a condition on the column compares what is stored with the
value that it names. A row is therefore found by the value that was inserted whenever the column
recalls the value (`ColumnType.recalls`), and only then can the two statements be used without
knowing how the column stores.
-/

namespace Polystore.Relational

open Outcome

/-! ## The stored value -/

/-- Among the values that a statement gives to columns, the last one for this column is this. -/
def Gives (params : List Value) (values : List (String × Operand)) (column : String) (v : Value) :
    Prop :=
  ∃ front operand behind, values = front ++ (column, operand) :: behind ∧
    column ∉ behind.map (·.1) ∧ operand.resolve params = .ok v

theorem gives_cons_self {params : List Value} {values : List (String × Operand)} {column : String}
    {operand : Operand} {v : Value} (last : column ∉ values.map (·.1))
    (resolved : operand.resolve params = .ok v) :
    Gives params ((column, operand) :: values) column v :=
  ⟨[], operand, values, rfl, last, resolved⟩

theorem Gives.cons {params : List Value} {values : List (String × Operand)} {column : String}
    {v : Value} (h : Gives params values column v) (first : String × Operand) :
    Gives params (first :: values) column v := by
  obtain ⟨front, operand, behind, rfl, last, resolved⟩ := h
  exact ⟨first :: front, operand, behind, rfl, last, resolved⟩

namespace Table

variable {t : Table} {params : List Value} {values : List (String × Operand)} {row given : Row}
  {column table : String} {v w : Value} {c : Column}

/-- The last value for a column is stored there. -/
theorem givenRow_get?_of_gives (h : t.givenRow params row values = .ok given)
    (known : t.column? column = some c) (gives : Gives params values column v)
    (stored : c.type.coerce column v = .ok w) : given.get? column = some w := by
  obtain ⟨front, operand, behind, rfl, last, resolved⟩ := gives
  -- over the values in front, which may be for the same column and are overwritten
  induction front generalizing row with
  | nil =>
    obtain ⟨c', found, h⟩ := bind_eq_ok.mp h
    obtain ⟨v', value, h⟩ := bind_eq_ok.mp h
    obtain ⟨w', coerced, h⟩ := bind_eq_ok.mp h
    obtain rfl : c' = c := Option.some.inj ((requireColumn_eq_ok.mp found).symm.trans known)
    obtain rfl : v' = v := Except.ok.inj (value.symm.trans resolved)
    obtain rfl : w' = w := Except.ok.inj (coerced.symm.trans stored)
    rw [givenRow_get?_of_not_mem h last, TextMap.get?_insert_self]
  | cons other front ih =>
    obtain ⟨_, _, h⟩ := bind_eq_ok.mp h
    obtain ⟨_, _, h⟩ := bind_eq_ok.mp h
    obtain ⟨_, _, h⟩ := bind_eq_ok.mp h
    exact ih h

/-- Numbering leaves every value alone but `null`. -/
theorem withIdentity_get? {last : Int64} {numbered : Row} {counter : Option (String × Int64)}
    (h : t.withIdentity table last row = .ok (numbered, counter)) (holds : row.get? column = some w)
    (filled : w ≠ .null) : numbered.get? column = some w := by
  rcases get?_withIdentity h column with ⟨kept, _⟩ | ⟨null, _⟩
  · exact kept.trans holds
  · rw [Row.at, holds] at null
    exact absurd null filled

/-- A row to be added holds the coerced value. -/
theorem newRow_get?_of_gives {config : Config} {last : Int64} {counter : Option (String × Int64)}
    (h : t.newRow config table last params values = .ok (row, counter))
    (known : t.column? column = some c) (gives : Gives params values column v)
    (stored : c.type.coerce column v = .ok w) (filled : w ≠ .null) :
    row.get? column = some w := by
  obtain ⟨given, numbered, hgiven, hnumbered, hrow⟩ := candidate_eq_ok (newRow_eq_ok h).1
  have there := withIdentity_get? hnumbered (givenRow_get?_of_gives hgiven known gives stored) filled
  rw [completedRow_get?_of_contains hrow (by rw [TextMap.contains, there]; rfl)]
  exact there

end Table

/-! ## Reading by one column -/

/-- The read of all rows whose column is equal to a value. -/
def havingValue (table column : String) (v : Value) : Query :=
  .select ((Selection.everything table).filtered [.field column (.equals v)])

/-- It binds the value. -/
theorem compile_havingValue (table column : String) {v : Value} (filled : v ≠ .null) :
    compile (havingValue table column v) =
      .ok ⟨.select
        { table, fields := [], filter := some (.compare column .eq (.param 0)), groupBy := []
          orderBy := [], limit := none, offset := none }, [v]⟩ := by
  cases v with
  | null => exact absurd rfl filled
  | _ => rfl

/-- Every row is marked by whether what its column holds is equal to the value. -/
theorem Table.marked_equals {t : Table} {column : String} {c : Column} {params : List Value}
    {operand : Operand} {v : Value} (config : Config) (known : t.column? column = some c)
    (resolved : operand.resolve params = .ok v) :
    t.marked config params (some (.compare column .eq operand)) =
      .ok (t.rows.map fun row => (row, (row.at column).looseEq v)) := by
  have required : t.requireColumns [column] = .ok () := by
    rw [requireColumns, requireColumn_eq_ok.mpr known]
    rfl
  have decided (row : Row) : meets params config.caseSensitiveLike
      (some (.compare column .eq operand)) row = .ok ((row.at column).looseEq v) := by
    rw [meets, Predicate.holds, resolved]
    rfl
  rw [marked, checkFilter]
  show (do t.requireColumns [column]; _) = _
  rw [required]
  refine mapM_eq_ok fun row _ => ?_
  rw [decided]
  rfl

/-- It brings exactly those rows. -/
theorem run_havingValue {s : Store} {table column : String} {t : Table} {c : Column}
    (config : Config) (found : s.tables.get? table = some t) (known : t.column? column = some c)
    {v : Value} (filled : v ≠ .null) :
    ∃ bound, compile (havingValue table column v) = .ok bound ∧
      s.run config bound.query bound.params =
        (.ok (Result.ofRows (t.rows.filter fun row => (row.at column).looseEq v)), s) := by
  refine ⟨_, compile_havingValue table column filled, run_select found ?_⟩
  have shown (rows : List Row) :
      Rows.presented Rows.inserted Row.at keyOrder [] [] none none rows = rows :=
    Rows.sorted_nil keyOrder rows
  have resolved : (Operand.param 0).resolve [v] = .ok v := rfl
  rw [Table.select, Table.selectBy, Table.marked_equals config known resolved, ← Selection.hits_eq]
  exact congrArg Except.ok (shown _)

/-! ## The inserted row -/

/-- The columns of a stock with a column of every kind of conversion. -/
def stockColumns : List ColumnDef :=
  [⟨"label", Column.ofType .text⟩, ⟨"count", Column.ofType .integer⟩,
    ⟨"sold", Column.ofType .boolean⟩, ⟨"note", Column.ofType .json⟩]

/-- An empty stock. -/
def emptyStock : Store :=
  Store.empty.afterAll
    (([.createTable "stock" stockColumns false] : List Statement).map (⟨.standard, ·, []⟩))

/-- A read by a value that no row is equal to brings nothing. -/
theorem run_havingValue_none {s : Store} {table column : String} {t : Table} {c : Column}
    (config : Config) (found : s.tables.get? table = some t) (known : t.column? column = some c)
    {v : Value} (filled : v ≠ .null)
    (apart : ∀ row ∈ t.rows, (row.at column).looseEq v = false) :
    ∃ bound, compile (havingValue table column v) = .ok bound ∧
      s.run config bound.query bound.params = (.ok (Result.ofRows []), s) := by
  obtain ⟨bound, compiled, ran⟩ := run_havingValue config found known filled
  have none : t.rows.filter (fun row => (row.at column).looseEq v) = [] :=
    List.filter_eq_nil_iff.mpr fun row there => by simp [apart row there]
  rw [none] at ran
  exact ⟨bound, compiled, ran⟩

/-- A column of documents divides by the power of ten nearest to `10 ^ 30`, which is no power of
ten. -/
theorem quick_decimal_unequal :
    ∃ x, ColumnType.json.coerce "note" (.text "1e-30") = .ok (.float x) ∧ x.isNaN = false ∧
      (Value.float x).looseEq (.text "1e-30") = false := by
  have read : Json.read? "1e-30" =
      some (.float ((Binary64.ofInt 1).div (Binary64.ofDecimal false 1 30))) := by
    have value : Json.readValue 12 Json.depthLimit "1e-30".toList =
        (Json.floatOf false 1 (-30)).map (·, []) := rfl
    have quick : Json.floatOf false 1 (-30) =
        some (.float ((Binary64.ofInt 1).div (Binary64.ofDecimal false 1 30))) := by
      rw [Json.floatOf, Json.scaled_eq (by decide), if_neg (by decide), Option.map_some,
        if_neg Bool.false_ne_true, Nat.cast_one]
      rfl
    have fuel : 2 * "1e-30".toList.length + 2 = 12 := rfl
    rw [Json.read?, fuel, value, quick]
    rfl
  have spelled : Binary64.read? (Text.trim "1e-30".toList) =
      some (Binary64.ofDecimal false 1 (-30)) := rfl
  have apart : ((Binary64.ofInt 1).div (Binary64.ofDecimal false 1 30)).same
      (Binary64.ofDecimal false 1 (-30)) = false := by decide +kernel
  have number : ((Binary64.ofInt 1).div (Binary64.ofDecimal false 1 30)).isNaN = false :=
    Binary64.isNaN_roundUnits _ _ _
  -- from here on only the two readings matter, not what they are
  generalize Binary64.ofDecimal false 1 (-30) = nearest at spelled apart
  generalize (Binary64.ofInt 1).div (Binary64.ofDecimal false 1 30) = x at read apart number
  refine ⟨x, ?_, number, ?_⟩
  · rw [ColumnType.coerce, ColumnType.convert, read]
    rfl
  · have numbers : Value.sameNumber (.float x) (.text "1e-30") = x.same nearest := by
      rw [Value.sameNumber, Value.asNumber, Value.asNumber, spelled]
    rw [← numbers] at apart
    simpa [Value.looseEq] using apart

/-- Values that columns accept, each with what is stored for it: words and documents, a float beyond
the greatest integer, an instant by its milliseconds, and an instant of a far year. -/
def forgotten : List (ColumnType × Value × Value) :=
  [(.text, .bool true, .text "true"), (.boolean, .text "true", .bool true),
    (.json, .text "[true]", .list [.bool true]),
    (.integer, .float (Binary64.ofInt (2 ^ 64)), .int Int64.maxValue),
    (.date, .int 0, .date (.ofDate ⟨1970, 1, 1⟩)),
    (.text, .date (.ofDate ⟨10000, 1, 1⟩), .text "+10000-01-01T00:00:00+00:00")]

theorem forgotten_unequal :
    ∀ c ∈ forgotten, c.1.convert c.2.1 = some c.2.2 ∧ c.2.2.looseEq c.2.1 = false := by
  have word : ColumnType.text.convert (.bool true) = some (.text "true") := rfl
  have truth : ColumnType.boolean.convert (.text "true") = some (.bool true) := by cbv
  have document : ColumnType.json.convert (.text "[true]") = some (.list [.bool true]) := by cbv
  have whole : (Binary64.ofInt (2 ^ 64)).isIntegral = true := by decide +kernel
  have most : clampInt64 (Binary64.ofInt (2 ^ 64)).truncate = Int64.maxValue := by decide +kernel
  have apart : (Binary64.ofInt Int64.maxValue.toInt).same (Binary64.ofInt (2 ^ 64)) = false := by
    decide +kernel
  have unread : Calendar.Instant.ofText? "+10000-01-01T00:00:00+00:00" = none := rfl
  simp only [forgotten, List.forall_mem_cons, List.not_mem_nil, false_imp_iff, implies_true,
    and_true]
  refine ⟨⟨word, ColumnType.looseEq_of_forgets word rfl⟩,
    ⟨truth, ColumnType.looseEq_of_forgets truth (by decide)⟩,
    ⟨document, ColumnType.looseEq_of_forgets document (by cbv)⟩, ⟨?_, ?_⟩, ⟨by cbv, ?_⟩, ⟨by cbv, ?_⟩⟩
  · rw [ColumnType.convert, if_pos whole, most]
  · simpa [Value.looseEq, Value.sameNumber, Value.asNumber] using apart
  · simp [Value.looseEq, Value.sameInstant, Value.asInstant]
  · simp [Value.looseEq, Value.sameInstant, Value.asInstant, unread]

end Polystore.Relational
