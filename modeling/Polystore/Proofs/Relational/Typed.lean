import Polystore.Proofs.Relational.WellFormed

/-!
# Stored values and the types of their columns

Values come into rows by insertions, as defaults, by updates and by changes of the columns. On each
of these ways a value is coerced to the type of its column, so that it is stored in the
representation of the type or as `null`. One way has been left out: a number that is generated for
an identity is stored as the integer that it is, and nothing keeps an identity from being of another
type.
-/

namespace Polystore

/-- A column stores a value: the value was coerced to the type of the column, or it is a number and
the column is an identity. -/
def Column.Stores (c : Column) (v : Value) : Prop :=
  (∃ name given, c.type.coerce name given = .ok v) ∨ (c.isIdentity = true ∧ ∃ n, v = .int n)

namespace Column.Stores

variable {c : Column} {v : Value} {name table : String}

theorem null (c : Column) : c.Stores .null :=
  .inl ⟨"", .null, ColumnType.coerce_null ..⟩

theorem of_default (h : Relational.storedDefault name c = .ok v) : c.Stores v := by
  rw [Relational.storedDefault] at h
  split at h
  · exact .inl ⟨name, _, h⟩
  · cases h
    exact null c

theorem of_storedValue {given : Value} (h : Relational.storedValue table name c given = .ok v) :
    c.Stores v :=
  .inl ⟨name, given, (Relational.storedValue_eq_ok h).1⟩

end Column.Stores

namespace Relational

open Outcome

namespace Table

/-! ## Rows that statements make -/

variable {t : Table} {table : String} {params : List Value}

/-- Every value of a row to be added is stored by its column. -/
theorem stores_of_candidate {last : Int64} {values : List (String × Operand)} {row : Row}
    {counter : Option (String × Int64)} (distinct : t.names.Nodup)
    (h : t.candidate table last params values = .ok (row, counter)) :
    row.Each Column.Stores t.columns := by
  obtain ⟨given, numbered, hgiven, hnumbered, hrow⟩ := candidate_eq_ok h
  intro d hd
  have brought : d.column.Stores (given.at d.name) := by
    rcases givenRow_get? hgiven d.name with unset | ⟨c, v, w, known, coerced, set⟩
    · rw [Row.at, unset]
      exact .null d.column
    · rw [column?, Schema.column?_of_mem distinct hd] at known
      cases known
      rw [Row.at, set]
      exact .inl ⟨d.name, v, coerced⟩
  have counted : d.column.Stores (numbered.at d.name) := by
    rcases withIdentity_eq_ok hnumbered with
      ⟨_, rfl, _⟩ | ⟨e, found, ⟨_, _, rfl, _⟩ | ⟨_, _, rfl, _⟩ | ⟨_, _, rfl, _⟩⟩
    · exact brought
    · by_cases same : e.name = d.name
      · -- a generated number is not coerced
        obtain rfl := Schema.eq_of_name distinct (mem_of_identity? found) hd same
        rw [Row.at_insert_self]
        exact .inr ⟨isIdentity_of_identity? found, _, rfl⟩
      · rw [Row.at_insert_of_ne same]
        exact brought
    · exact brought
    · exact brought
  rcases completedRow_get? hrow d.name with kept | ⟨_, e, he, named, w, default, set⟩
  · rw [Row.at, kept]
    exact counted
  · obtain rfl := Schema.eq_of_name distinct he hd named
    rw [Row.at, set]
    exact .of_default default

/-- An update sets what the columns store. -/
theorem stores_changedRow {assignments : List (String × Operand)}
    {changes : List (String × Value)} {row : Row} (distinct : t.names.Nodup)
    (h : row.Each Column.Stores t.columns)
    (made : t.changes table params assignments = .ok changes) :
    (changedRow changes row).Each Column.Stores t.columns := by
  obtain ⟨_, assigned⟩ := changes_eq_ok made
  intro d hd
  rcases changedRow_get? changes row d.name with kept | ⟨b, hb, named, set⟩
  · rw [Row.at, kept]
    exact h d hd
  · obtain ⟨c, v, known, stored⟩ := assigned b hb
    rw [named, column?, Schema.column?_of_mem distinct hd] at known
    cases known
    rw [Row.at, set]
    exact .of_storedValue stored

/-! ## All statements -/

/-- Every value of a table is stored by its column. -/
def Stored (t : Table) : Prop := ∀ row ∈ t.rows, row.Each Column.Stores t.columns

/-- The table is well formed, and every value is stored by its column. -/
structure Typed (t : Table) : Prop extends WellFormed t where
  stored : t.Stored

end Table

namespace Altered

variable {a b : Altered} {table name : String} {c : Column}

theorem stored_addColumn (h : a.table.Stored) (made : a.addColumn table name c = .ok b) :
    b.table.Stored := by
  obtain ⟨absent, default, found, made⟩ := addColumn_eq_ok made
  have free : name ∉ a.table.names := Table.not_mem_names_of_column? absent
  rcases made with ⟨identity, rfl⟩ | ⟨_, _, rfl⟩
  · intro row hr
    obtain ⟨old, ho, k, _, rfl⟩ := mem_numbered hr
    exact (h old ho).add free (.inr ⟨identity, _, rfl⟩)
  · intro row hr
    obtain ⟨old, ho, rfl⟩ := List.mem_map.mp hr
    exact (h old ho).add free (.of_default found)

theorem stored_dropColumn (h : a.table.Stored) (made : a.dropColumn name = .ok b) :
    b.table.Stored := by
  obtain ⟨_, rfl⟩ := dropColumn_eq_ok made
  intro row hr
  obtain ⟨old, ho, rfl⟩ := List.mem_map.mp hr
  exact (h old ho).drop

theorem stored_modifyColumn (distinct : a.table.names.Nodup) (h : a.table.Stored)
    (made : a.modifyColumn table name c = .ok b) : b.table.Stored := by
  obtain ⟨known, rows, stored, rfl⟩ := modifyColumn_eq_ok made
  intro row hr
  obtain ⟨old, ho, made⟩ := mem_of_mapM stored row hr
  obtain ⟨w, storable, rfl⟩ := map_eq_ok.mp made
  exact (h old ho).modify distinct known (.of_storedValue storable)

theorem stored_apply {alteration : Alteration} (coherent : a.table.Coherent)
    (h : a.table.Stored) (made : Altered.apply table a alteration = .ok b) : b.table.Stored := by
  cases alteration with
  | add name c => exact stored_addColumn h made
  | drop name => exact stored_dropColumn h made
  | modify name c => exact stored_modifyColumn coherent.distinct h made

end Altered

namespace Table

/-- No statement stores a value that its column does not store. -/
theorem typed_kept (config : Config) : Kept config Typed where
  made := by
    intro name columns t made
    have wellFormed := (wellFormed_kept config).made made
    obtain ⟨_, _, _, rfl⟩ := newTable_eq_ok made
    exact ⟨wellFormed, by simp [Stored]⟩
  indexMade := by
    intro t table index columns unique next h made
    have wellFormed := (wellFormed_kept config).indexMade h.toWellFormed made
    obtain ⟨_, _, _, rfl⟩ := withIndex_eq_ok made
    exact ⟨wellFormed, h.stored⟩
  indexDropped := by
    intro t index h
    exact ⟨(wellFormed_kept config).indexDropped h.toWellFormed, h.stored⟩
  inserted := by
    intro t table last params values row counter h made
    refine ⟨(wellFormed_kept config).inserted h.toWellFormed made, fun other ho => ?_⟩
    rcases List.mem_append.mp ho with ho | ho
    · exact h.stored other ho
    · obtain rfl := List.mem_singleton.mp ho
      exact stores_of_candidate (t := t) h.distinct (newRow_eq_ok made).1
  updated := by
    intro t table params assignments changes rows next h assigned stored made
    have wellFormed := (wellFormed_kept config).updated h.toWellFormed assigned stored made
    obtain ⟨_, rfl⟩ := withChanges_eq_ok made
    refine ⟨wellFormed, fun row hr => ?_⟩
    rcases mem_changed stored hr with hr | ⟨old, ho, rfl⟩
    · exact h.stored row hr
    · exact stores_changedRow (t := t) h.distinct (h.stored old ho) assigned
  deleted := by
    intro t rows h stored
    exact ⟨(wellFormed_kept config).deleted h.toWellFormed stored,
      fun row hr => h.stored row (mem_without stored hr)⟩
  altered := by
    intro t table last alterations a h made
    have wellFormed := (wellFormed_kept config).altered h.toWellFormed made
    obtain ⟨b, applied, _, _, rfl⟩ := altered_eq_ok made
    have start : (t.start last).table.Coherent ∧ (t.start last).table.Stored :=
      ⟨h.toCoherent, h.stored⟩
    -- between the changes the table is only coherent
    have done : b.table.Coherent ∧ b.table.Stored :=
      foldlM_invariant (P := fun a => a.table.Coherent ∧ a.table.Stored)
        (fun _ _ _ _ h made =>
          ⟨Altered.coherent_apply h.1 made, Altered.stored_apply h.1 h.2 made⟩) start applied
    exact ⟨wellFormed, done.2⟩

end Table

/-- **In every reachable store, every value is `null`, or in the representation of the type of its
column, or a number in an identity that is not of integers**. -/
theorem stored_values_typed {s : Store} {table : String} {t : Table}
    (h : Reachable Command.Any s) (found : s.tables.get? table = some t) :
    ∀ row ∈ t.rows, ∀ d ∈ t.columns,
      row.at d.name = .null ∨ d.column.type.represents (row.at d.name) = true ∨
        (d.column.isIdentity = true ∧ d.column.type ≠ .integer ∧ ∃ n, row.at d.name = .int n) := by
  have typed : t.Typed := h.allTables (fun _ c _ => Table.typed_kept c.config) table t found
  intro row hr d hd
  -- a number in an identity of integers is in the representation of its type
  rcases typed.stored row hr d hd with ⟨name, given, coerced⟩ | ⟨identity, n, number⟩
  · exact (ColumnType.represents_of_coerce coerced).imp_right .inl
  · by_cases integer : d.column.type = .integer
    · rw [integer, number]
      exact .inr (.inl rfl)
    · exact .inr (.inr ⟨identity, integer, n, number⟩)

theorem stored_values_typed_stock :
    Reachable Command.Any (Store.empty.afterAll stockTaking) ∧
      (Store.empty.afterAll stockTaking).tables.get? "items" = some stock ∧
      ∀ row ∈ stock.rows, ∀ d ∈ stock.columns,
        row.at d.name = .null ∨ d.column.type.represents (row.at d.name) = true ∨
          (d.column.isIdentity = true ∧ d.column.type ≠ .integer ∧
            ∃ n, row.at d.name = .int n) :=
  ⟨reachable_stockTaking.any, stockTaking_leaves,
    stored_values_typed reachable_stockTaking.any stockTaking_leaves⟩

/-! ### Numbers in columns of text -/

/-- An identity of text. -/
def code : Column := (Column.ofType .text).asPrimary.counting

/-- One item, put in without a code where the table has codes from the start. -/
def codedItem : Store :=
  Store.empty.afterAll <|
    ([.createTable "items" [⟨"code", code⟩, ⟨"label", Column.ofType .text⟩] false,
      .insert "items" ["label"] [.literal (.text "bolt")]] : List Statement).map
        (⟨.standard, ·, []⟩)

/-- One item that receives its code later. -/
def recodedItem : Store :=
  Store.empty.afterAll <|
    ([.createTable "items" [⟨"label", Column.ofType .text⟩] false,
      .insert "items" ["label"] [.literal (.text "bolt")],
      .alterTable "items" [.add "code" code]] : List Statement).map (⟨.standard, ·, []⟩)

/-- The item with its code. -/
def codedRow : Row := TextMap.ofList [("code", .int 1), ("label", .text "bolt")]

/-- The one item in a table. -/
def itemWith (columns : List ColumnDef) : Table :=
  { name := "items", columns, rows := [codedRow], indexes := TextMap.empty }

/-- **A generated number is not coerced**: in two reachable stores a column of text holds an
integer, which is neither `null` nor text. -/
theorem generated_number_not_coerced :
    (Reachable Command.Any codedItem ∧
      codedItem.tables.get? "items" =
        some (itemWith [⟨"code", code⟩, ⟨"label", Column.ofType .text⟩])) ∧
    (Reachable Command.Any recodedItem ∧
      recodedItem.tables.get? "items" =
        some (itemWith [⟨"label", Column.ofType .text⟩, ⟨"code", code⟩])) ∧
    code.type = .text ∧ codedRow.at "code" ≠ .null ∧
      code.type.represents (codedRow.at "code") = false := by
  have holds : codedRow.at "code" = .int 1 := by cbv
  refine ⟨⟨Reachable.empty.afterAll fun _ _ _ => trivial, ?_⟩,
    ⟨Reachable.empty.afterAll fun _ _ _ => trivial, ?_⟩, rfl, ?_, ?_⟩
  · cbv
  · cbv
  · rw [holds]
    simp
  · rw [holds]
    rfl

end Relational

end Polystore
