import Polystore.Proofs.Relational.Refusals

/-!
# Defaults and the types of their columns

A row that leaves a column out receives the default of the column, coerced to its type. A new table
is refused when one of its defaults cannot be coerced, and so is a column that is added to a table.
Another definition for a column is installed without that check: its default is looked at for the
first time by an insertion that leaves the column out, and every such insertion fails on it.

As long as no column is given a definition of this kind, the defaults of all tables fit their
columns, and an insertion is never refused for the type of a value that it did not bring.
-/

namespace Polystore

/-- The default of a column, if it has one, can be stored in the column. -/
def Column.DefaultFits (c : Column) : Prop :=
  ∀ v, c.default = some v → ∀ name, ∃ w, c.type.coerce name v = .ok w

namespace Relational

open Outcome

/-! ## Defaults that fit -/

theorem storedDefault_eq_ok_of_fits {c : Column} (h : c.DefaultFits) (name : String) :
    ∃ w, storedDefault name c = .ok w := by
  rw [storedDefault]
  cases given : c.default with
  | none => exact ⟨.null, rfl⟩
  | some v => exact h v given name

theorem fits_of_storedDefault {c : Column} {name : String} {w : Value}
    (h : storedDefault name c = .ok w) : c.DefaultFits := by
  intro v given other
  rw [storedDefault, given] at h
  exact ⟨w, ColumnType.coerce_eq_ok.mpr (ColumnType.coerce_eq_ok.mp h)⟩

/-- The columns of a table that could be made have defaults that fit. -/
theorem fits_of_checkDefaults {columns : List ColumnDef} (h : checkDefaults columns = .ok ()) :
    ∀ d ∈ columns, d.column.DefaultFits := by
  induction columns with
  | nil => simp
  | cons d rest ih =>
    obtain ⟨w, stored, h⟩ := bind_eq_ok.mp h
    intro e he
    rcases List.mem_cons.mp he with rfl | he
    · exact fits_of_storedDefault stored
    · exact ih h e he

/-- All defaults of a table fit their columns. -/
def Table.DefaultsFit (t : Table) : Prop := ∀ d ∈ t.columns, d.column.DefaultFits

namespace Altered

variable {a b : Altered} {table : String}

/-- A change of columns keeps the defaults fitting, as long as a column that it defines anew has one
that fits. -/
theorem defaultsFit_apply {alteration : Alteration} (h : a.table.DefaultsFit)
    (defined : ∀ name c, alteration = .modify name c → c.DefaultFits)
    (made : Altered.apply table a alteration = .ok b) : b.table.DefaultsFit := by
  cases alteration with
  | add name c =>
    obtain ⟨_, default, stored, ⟨_, rfl⟩ | ⟨_, _, rfl⟩⟩ := addColumn_eq_ok made
    all_goals
      intro d hd
      rcases List.mem_append.mp hd with hd | hd
      · exact h d hd
      · rw [List.mem_singleton.mp hd]
        exact fits_of_storedDefault stored
  | drop name =>
    obtain ⟨_, rfl⟩ := dropColumn_eq_ok made
    exact fun d hd => h d (List.mem_filter.mp hd).1
  | modify name c =>
    obtain ⟨_, rows, _, rfl⟩ := modifyColumn_eq_ok made
    intro d hd
    rcases Schema.mem_withColumn hd with rfl | hd
    · exact defined name c rfl
    · exact h d hd

end Altered

/-! ## Commands -/

/-- A command gives no column another definition with a default that does not fit. -/
def Command.DefinesFitting (c : Command) : Prop :=
  ∀ table alterations, c.statement = .alterTable table alterations →
    ∀ name column, .modify name column ∈ alterations → column.DefaultFits

/-- A command keeps the defaults fitting, or changes nothing. -/
def Command.KeepsDefaults (s : Store) (c : Command) : Prop := s.after c = s ∨ c.DefinesFitting

variable {s s' : Store} {table : String} {t : Table} {config : Config} {params : List Value}

theorem defaultsFit_altered {last : Int64} {alterations : List Alteration} {a : Altered}
    (h : t.DefaultsFit)
    (defined : ∀ name column, .modify name column ∈ alterations → column.DefaultFits)
    (made : t.altered config table last alterations = .ok a) : a.table.DefaultsFit := by
  obtain ⟨b, applied, _, _, rfl⟩ := Table.altered_eq_ok made
  have start : (t.start last).table.DefaultsFit := h
  have done : b.table.DefaultsFit :=
    foldlM_invariant (P := fun a : Altered => a.table.DefaultsFit)
      (fun _ _ _ hx h made => Altered.defaultsFit_apply h
        (fun name column same => defined name column (same ▸ hx)) made) start applied
  exact done

/-- A table is put in the place of one with the same columns. -/
theorem Store.AllTables.replace (h : s.AllTables Table.DefaultsFit)
    (found : s.tables.get? table = some t) {u : Table} (columns : u.columns = t.columns)
    (others : s'.tables = s.tables) : (s'.withTable table u).AllTables Table.DefaultsFit := by
  refine h.withTable ?_ others
  rw [Table.DefaultsFit, columns]
  exact h table t found

/-- Only the making of a table and a change of its columns bring defaults with them. -/
theorem Effect.defaultsFit {statement : Statement} {r : Result}
    (h : s.AllTables Table.DefaultsFit)
    (defined : Command.DefinesFitting ⟨config, statement, params⟩)
    (effect : Effect config params s statement r s') : s'.AllTables Table.DefaultsFit := by
  cases effect with
  | selected => exact h
  | tableMade _ made =>
    obtain ⟨_, defaults, _, rfl⟩ := Table.newTable_eq_ok made
    exact h.withTable (t := ⟨_, _, [], TextMap.empty⟩) (fits_of_checkDefaults defaults) rfl
  | tableThere => exact h
  | indexMade found _ made =>
    obtain ⟨_, _, _, rfl⟩ := Table.withIndex_eq_ok made
    exact h.replace found rfl rfl
  | indexThere => exact h
  | inserted _ found _ => exact h.replace found rfl (by simp)
  | updatedNothing => exact h
  | updated found _ _ _ made =>
    obtain ⟨_, rfl⟩ := Table.withChanges_eq_ok made
    exact h.replace found rfl (by simp)
  | deletedNothing => exact h
  | deleted found _ => exact h.replace found rfl rfl
  | altered found made =>
    exact h.withTable (defaultsFit_altered (h _ _ found) (defined _ _ rfl) made) (by simp)
  | tableDropped => exact h.erase rfl
  | noTable => exact h
  | indexDropped found => exact h.replace found rfl rfl
  | noIndex => exact h
  | noIndexedTable => exact h

theorem Reachable.defaultsFit (h : Reachable Command.KeepsDefaults s) :
    s.AllTables Table.DefaultsFit := by
  induction h with
  | empty =>
    intro name t found
    cases found
  | @after s c _ keeps ih =>
    rcases keeps with unchanged | defined
    · rw [unchanged]
      exact ih
    · rcases run_store_cases s c.config c.statement c.params with unchanged | ⟨r, effect⟩
      · rw [Store.after, unchanged]
        exact ih
      · exact effect.defaultsFit ih defined

/-! ## What an insertion is refused for -/

/-- If a value is of the wrong type, it is one for some of these columns. -/
def MismatchIn (columns : List String) (e : Error) : Prop :=
  ∀ name expected shown, e = ExecutionError.typeMismatch name expected shown → name ∈ columns

theorem structural_mismatchIn (columns : List String) : Structural (MismatchIn columns) where
  tableNotFound _ := nofun
  tableExists _ := nofun
  columnNotFound _ _ := nofun
  columnExists _ _ := nofun
  indexNotFound _ _ := nofun
  indexExists _ _ := nofun
  constraint _ _ := nofun
  multipleAutoIncrement _ := nofun
  columnCountMismatch _ _ := nofun
  invalidStatement _ _ := nofun

/-- Where the defaults fit, an insertion is refused for the types of the values that it brings, and
of no other. -/
theorem insert_mismatchIn {columns : List String} {values : List Operand}
    (h : s.AllTables Table.DefaultsFit) :
    FailsOnly (MismatchIn columns) (s.run config (.insert table columns values) params).1 := by
  have structural := structural_mismatchIn columns
  refine Store.run_failsOnly (insert_failsOnly structural ?_ ?_ ?_)
  · exact fun operand _ => Operand.resolve_failsOnly (fun _ => nofun) operand
  · intro name known expected shown
    rintro _ _ _ ⟨⟩
    exact known
  · intro t found d hd
    obtain ⟨w, stored⟩ := storedDefault_eq_ok_of_fits (h table t found d hd) d.name
    rw [stored]
    exact failsOnly_ok w

/-! ## Reachable stores -/

/-- **Defaults fit their columns.** In every store that is reached without a column being given
another definition whose default does not fit, the default of every column can be coerced to its
type, and an insertion that is refused for the type of a value names the column of this value. -/
theorem defaults_fit (h : Reachable Command.KeepsDefaults s) :
    (∀ table t, s.tables.get? table = some t → ∀ d ∈ t.columns, ∀ v, d.column.default = some v →
      ∃ w, d.column.type.coerce d.name v = .ok w) ∧
    ∀ config params table columns values name expected shown,
      (s.run config (.insert table columns values) params).1 =
        .error (ExecutionError.typeMismatch name expected shown) → name ∈ columns := by
  have fit := h.defaultsFit
  constructor
  · intro table t found d hd v given
    exact fit table t found d hd v given d.name
  · intro config params table columns values name expected shown refused
    exact insert_mismatchIn fit _ refused name expected shown rfl

/-- Items with a label and a count, whose count is given a default later. -/
def countedItems (default : Value) : List Command :=
  ([.createTable "items" [⟨"label", Column.ofType .text⟩, ⟨"count", Column.ofType .integer⟩] false,
    .alterTable "items" [.modify "count" ((Column.ofType .integer).withDefault default)]] :
      List Statement).map (⟨.standard, ·, []⟩)

/-- One more item. -/
def itemPut (columns : List String) (values : List Value) : Statement :=
  .insert "items" columns (values.map .literal)

/-- A truth value fits a column of integers, so that only a count that is brought can be refused. -/
theorem defaults_fit_countedItems :
    let s := Store.empty.afterAll (countedItems (.bool true))
    Reachable Command.KeepsDefaults s ∧
      (∀ t, s.tables.get? "items" = some t → ∀ d ∈ t.columns, ∀ v, d.column.default = some v →
        ∃ w, d.column.type.coerce d.name v = .ok w) ∧
      (s.run .standard (itemPut ["count"] [.text "many"]) []).1 =
        .error (ExecutionError.typeMismatch "count" "integer" "\"many\"") ∧
      "count" ∈ ["count"] := by
  intro s
  have stored : storedDefault "count" ((Column.ofType .integer).withDefault (.bool true)) =
      .ok (.int 1) := rfl
  have reached : Reachable Command.KeepsDefaults s := by
    refine Reachable.empty.afterAll fun c hc _ => .inr ?_
    obtain ⟨statement, hs, rfl⟩ := List.mem_map.mp hc
    rintro table alterations rfl name column listed
    simp at hs
    obtain ⟨rfl, rfl⟩ := hs
    simp at listed
    obtain ⟨rfl, rfl⟩ := listed
    exact fits_of_storedDefault stored
  have refused : (s.run .standard (itemPut ["count"] [.text "many"]) []).1 =
      .error (ExecutionError.typeMismatch "count" "integer" "\"many\"") := by
    cbv
  obtain ⟨fitting, named⟩ := defaults_fit reached
  exact ⟨reached, fitting "items", refused, named _ _ _ _ _ _ _ _ refused⟩

/-- **Another definition brings its default unchecked.** A column of integers is given a text for
its default that spells no number; the change of the table succeeds, the default is none of the
type, and an item that is put in with a label alone is refused for its count. -/
theorem default_installed_unchecked :
    let s := Store.empty.afterAll (countedItems (.text "many"))
    Reachable Command.Any s ∧
      s.tables.get? "items" = some
        { name := "items"
          columns :=
            [⟨"label", Column.ofType .text⟩,
              ⟨"count", (Column.ofType .integer).withDefault (.text "many")⟩]
          rows := []
          indexes := TextMap.empty } ∧
      ColumnType.integer.coerce "count" (.text "many") =
        .error (ExecutionError.typeMismatch "count" "integer" "\"many\"") ∧
      (s.run .standard (itemPut ["label"] [.text "bolt"]) []).1 =
        .error (ExecutionError.typeMismatch "count" "integer" "\"many\"") ∧
      "count" ∉ ["label"] := by
  intro s
  refine ⟨Reachable.empty.afterAll fun _ _ _ => trivial, ?_, ?_, ?_, by decide⟩
  · cbv
  · cbv
  · cbv

end Relational

end Polystore
