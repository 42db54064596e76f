import Polystore.Proofs.Relational.Parts
import Polystore.Proofs.Relational.Share
import Polystore.Proofs.Statement.Operands

/-!
# What statements are refused for

A statement can be refused for the structure of the store: a table, a column or an index is missing
or there already, or a constraint would be violated. It can be refused for the type of a value. And
it can be refused for its operands, when a parameter is missing or a list is none. The first is a
fixed set of errors; the other two depend on what the statement brings. For every kind of errors
that has the first set, the lemmas below say which other errors of each part, and in the end of each
statement, have to be of the kind.
-/

namespace Polystore

/-- A place is refused for a missing parameter at most. -/
theorem Operand.resolve_failsOnly {P : Error → Prop} {params : List Value}
    (missing : ∀ i, P (ExecutionError.missingParameter i)) :
    ∀ operand : Operand, Outcome.FailsOnly P (operand.resolve params)
  | .param i => by
    rw [resolve]
    cases params[i]? with
    | none => exact Outcome.failsOnly_error (missing i)
    | some v => exact Outcome.failsOnly_ok v
  | .literal v => Outcome.failsOnly_ok v
  | .list items => Outcome.failsOnly_map _ (items_failsOnly missing items)
where
  items_failsOnly {P : Error → Prop} {params : List Value}
      (missing : ∀ i, P (ExecutionError.missingParameter i)) :
      ∀ items : List Operand, Outcome.FailsOnly P (resolveItems params items)
    | [] => Outcome.failsOnly_ok []
    | item :: rest =>
      Outcome.failsOnly_bind (resolve_failsOnly missing item) fun v _ =>
        Outcome.failsOnly_bind (items_failsOnly missing rest) fun vs _ =>
          Outcome.failsOnly_ok (v :: vs)

namespace Relational

open Outcome

/-- A kind of errors that has every error about the structure of a store. -/
structure Structural (P : Error → Prop) : Prop where
  tableNotFound : ∀ table, P (ExecutionError.tableNotFound table)
  tableExists : ∀ table, P (ExecutionError.tableExists table)
  columnNotFound : ∀ table column, P (ExecutionError.columnNotFound table column)
  columnExists : ∀ table column, P (ExecutionError.columnExists table column)
  indexNotFound : ∀ table index, P (ExecutionError.indexNotFound table index)
  indexExists : ∀ table index, P (ExecutionError.indexExists table index)
  constraint : ∀ table message, P (ExecutionError.constraintViolation table message)
  multipleAutoIncrement : ∀ table, P (ExecutionError.multipleAutoIncrement table)
  columnCountMismatch : ∀ columns values, P (ExecutionError.columnCountMismatch columns values)
  invalidStatement : ∀ statement text, P (SyntaxError.invalidStatement statement text)

variable {P : Error → Prop} {t : Table} {table : String} {config : Config} {params : List Value}

/-! ## Values -/

theorem coerce_failsOnly {type : ColumnType} {name : String} {v : Value}
    (mismatch : ∀ expected shown, P (ExecutionError.typeMismatch name expected shown)) :
    FailsOnly P (type.coerce name v) := by
  rw [ColumnType.coerce]
  cases type.convert v with
  | none => exact failsOnly_error (mismatch _ _)
  | some w => exact failsOnly_ok w

theorem storedValue_failsOnly (structural : Structural P) {name : String} {c : Column} {v : Value}
    (mismatch : ∀ expected shown, P (ExecutionError.typeMismatch name expected shown)) :
    FailsOnly P (storedValue table name c v) := by
  refine failsOnly_bind (coerce_failsOnly mismatch) fun w _ => ?_
  split
  · exact failsOnly_error (structural.constraint _ _)
  · exact failsOnly_ok w

theorem storedDefault_failsOnly {name : String} {c : Column}
    (mismatch : ∀ expected shown, P (ExecutionError.typeMismatch name expected shown)) :
    FailsOnly P (storedDefault name c) := by
  rw [storedDefault]
  cases c.default with
  | none => exact failsOnly_ok Value.null
  | some v => exact coerce_failsOnly mismatch

/-! ## Columns and distinct values -/

namespace Table

theorem requireColumn_failsOnly (structural : Structural P) (name : String) :
    FailsOnly P (t.requireColumn name) := by
  rw [requireColumn]
  cases t.column? name with
  | none => exact failsOnly_error (structural.columnNotFound _ _)
  | some c => exact failsOnly_ok c

theorem requireColumns_failsOnly (structural : Structural P) (names : List String) :
    FailsOnly P (t.requireColumns names) := by
  induction names with
  | nil => exact failsOnly_ok ()
  | cons name rest ih =>
    exact failsOnly_bind (requireColumn_failsOnly structural name) fun _ _ => ih

theorem checkColumns_failsOnly (structural : Structural P) (columns : List ColumnDef) :
    FailsOnly P (checkColumns table columns) := by
  unfold checkColumns
  split
  · exact failsOnly_error (structural.multipleAutoIncrement _)
  · split
    · exact failsOnly_error (structural.columnExists _ _)
    · exact failsOnly_ok ()

theorem checkRowAgainst_failsOnly (structural : Structural P) (row : Row)
    (sets : List (String × List String)) : FailsOnly P (t.checkRowAgainst row sets) := by
  induction sets with
  | nil => exact failsOnly_ok ()
  | cons set rest ih =>
    rw [checkRowAgainst]
    split
    · exact ih
    · dsimp only
      split
      · exact failsOnly_error (structural.constraint _ _)
      · exact ih

theorem checkSets_failsOnly (structural : Structural P) (sets : List (String × List String)) :
    FailsOnly P (t.checkSets sets) := by
  induction sets with
  | nil => exact failsOnly_ok ()
  | cons set rest ih =>
    rw [checkSets]
    cases firstRepeated set.2 [] t.rows with
    | some k => exact failsOnly_error (structural.constraint _ _)
    | none => exact ih

theorem checked_failsOnly (structural : Structural P) (config : Config) :
    FailsOnly P (t.checked config) := by
  unfold checked
  split
  · exact failsOnly_bind (checkSets_failsOnly structural _) fun _ _ => failsOnly_ok _
  · exact failsOnly_ok _

/-! ## Rows -/

/-- The rows are marked unless the filter fails on one of them. -/
theorem marked_failsOnly (structural : Structural P) {filter : Option Predicate}
    (evaluated : ∀ row, FailsOnly P (meets params config.caseSensitiveLike filter row)) :
    FailsOnly P (t.marked config params filter) := by
  refine failsOnly_bind ?_ fun _ _ => failsOnly_mapM fun row _ => failsOnly_map _ (evaluated row)
  cases filter with
  | none => exact failsOnly_ok ()
  | some p => exact requireColumns_failsOnly structural p.columns

theorem givenRow_failsOnly (structural : Structural P) {values : List (String × Operand)}
    (unbound : ∀ b ∈ values, FailsOnly P (b.2.resolve params))
    (mismatch : ∀ b ∈ values, ∀ expected shown,
      P (ExecutionError.typeMismatch b.1 expected shown)) (row : Row) :
    FailsOnly P (t.givenRow params row values) := by
  induction values generalizing row with
  | nil => exact failsOnly_ok row
  | cons b rest ih =>
    refine failsOnly_bind (requireColumn_failsOnly structural b.1) fun c _ => ?_
    refine failsOnly_bind (unbound b List.mem_cons_self) fun v _ => ?_
    refine failsOnly_bind (coerce_failsOnly (mismatch b List.mem_cons_self)) fun w _ => ?_
    exact ih (fun b' hb => unbound b' (List.mem_cons_of_mem b hb))
      (fun b' hb => mismatch b' (List.mem_cons_of_mem b hb)) _

theorem withIdentity_failsOnly (structural : Structural P) (last : Int64) (row : Row) :
    FailsOnly P (t.withIdentity table last row) := by
  unfold withIdentity
  split
  · exact failsOnly_ok _
  · split
    · split
      · exact failsOnly_error (structural.constraint _ _)
      · exact failsOnly_ok _
    · exact failsOnly_ok _
    · exact failsOnly_ok _

theorem changes_failsOnly (structural : Structural P) {assignments : List (String × Operand)}
    (unbound : ∀ b ∈ assignments, FailsOnly P (b.2.resolve params))
    (mismatch : ∀ name expected shown, P (ExecutionError.typeMismatch name expected shown)) :
    FailsOnly P (t.changes table params assignments) := by
  induction assignments with
  | nil => exact failsOnly_ok []
  | cons b rest ih =>
    refine failsOnly_bind (requireColumn_failsOnly structural b.1) fun c _ => ?_
    refine failsOnly_bind (unbound b List.mem_cons_self) fun v _ => ?_
    refine failsOnly_bind (storedValue_failsOnly structural (mismatch b.1)) fun w _ => ?_
    refine failsOnly_bind (ih fun b' hb => unbound b' (List.mem_cons_of_mem b hb)) fun ws _ => ?_
    exact failsOnly_ok _

end Table

theorem completedRow_failsOnly (structural : Structural P) {columns : List ColumnDef}
    (defaults : ∀ d ∈ columns, FailsOnly P (storedDefault d.name d.column)) (row : Row) :
    FailsOnly P (completedRow table row columns) := by
  induction columns generalizing row with
  | nil => exact failsOnly_ok row
  | cons d rest ih =>
    have closed (full : Row) : FailsOnly P
        (if requiresValue d.column && (full.at d.name).isNull then
          .error (notNullViolation table d.name)
        else completedRow table full rest) := by
      split
      · exact failsOnly_error (structural.constraint _ _)
      · exact ih (fun e he => defaults e (List.mem_cons_of_mem d he)) full
    rw [completedRow]
    split
    · exact closed row
    · exact failsOnly_bind (failsOnly_map _ (defaults d List.mem_cons_self)) fun full _ =>
        closed full

/-- A row is added unless one of its values, or one of the defaults, is refused. -/
theorem Table.newRow_failsOnly (structural : Structural P) {last : Int64}
    {values : List (String × Operand)}
    (unbound : ∀ b ∈ values, FailsOnly P (b.2.resolve params))
    (mismatch : ∀ b ∈ values, ∀ expected shown,
      P (ExecutionError.typeMismatch b.1 expected shown))
    (defaults : ∀ d ∈ t.columns, FailsOnly P (storedDefault d.name d.column)) :
    FailsOnly P (t.newRow config table last params values) := by
  refine failsOnly_bind (givenRow_failsOnly structural unbound mismatch _) fun given _ => ?_
  refine failsOnly_bind (withIdentity_failsOnly structural last given) fun numbered _ => ?_
  refine failsOnly_bind (completedRow_failsOnly structural defaults numbered.1) fun row _ => ?_
  split
  · exact failsOnly_bind (checkRowAgainst_failsOnly structural row _) fun _ _ => failsOnly_ok _
  · exact failsOnly_ok _

/-! ## Tables -/

theorem checkDefaults_failsOnly {columns : List ColumnDef}
    (mismatch : ∀ name expected shown, P (ExecutionError.typeMismatch name expected shown)) :
    FailsOnly P (checkDefaults columns) := by
  induction columns with
  | nil => exact failsOnly_ok ()
  | cons d rest ih =>
    exact failsOnly_bind (storedDefault_failsOnly (mismatch d.name)) fun _ _ => ih

theorem newTable_failsOnly (structural : Structural P) {columns : List ColumnDef}
    (mismatch : ∀ name expected shown, P (ExecutionError.typeMismatch name expected shown)) :
    FailsOnly P (newTable table columns) := by
  unfold newTable
  split
  · exact failsOnly_error (structural.invalidStatement _ _)
  · refine failsOnly_bind (checkDefaults_failsOnly mismatch) fun _ _ => ?_
    exact failsOnly_bind (Table.checkColumns_failsOnly structural columns) fun _ _ => failsOnly_ok _

theorem Table.withIndex_failsOnly (structural : Structural P) (index : String)
    (columns : List String) (unique : Bool) :
    FailsOnly P (t.withIndex config table index columns unique) := by
  unfold withIndex
  dsimp only
  split
  · exact failsOnly_error (structural.invalidStatement _ _)
  · refine failsOnly_bind (requireColumns_failsOnly structural columns) fun _ _ => ?_
    split
    · split
      · exact failsOnly_error (structural.constraint _ _)
      · exact failsOnly_ok _
    · exact failsOnly_ok _

theorem Altered.apply_failsOnly (structural : Structural P)
    (mismatch : ∀ name expected shown, P (ExecutionError.typeMismatch name expected shown))
    (a : Altered) (alteration : Alteration) : FailsOnly P (Altered.apply table a alteration) := by
  cases alteration with
  | add name c =>
    rw [apply, addColumn]
    dsimp only
    split
    · exact failsOnly_error (structural.columnExists _ _)
    · refine failsOnly_bind (storedDefault_failsOnly (mismatch name)) fun default _ => ?_
      split
      · exact failsOnly_ok _
      · split
        · exact failsOnly_error (structural.constraint _ _)
        · exact failsOnly_ok _
  | drop name =>
    exact failsOnly_bind (Table.requireColumn_failsOnly structural name) fun _ _ => failsOnly_ok _
  | modify name c =>
    refine failsOnly_bind (Table.requireColumn_failsOnly structural name) fun _ _ => ?_
    refine failsOnly_bind (failsOnly_mapM fun row _ => ?_) fun _ _ => failsOnly_ok _
    exact failsOnly_map _ (storedValue_failsOnly structural (mismatch name))

theorem Table.altered_failsOnly (structural : Structural P)
    (mismatch : ∀ name expected shown, P (ExecutionError.typeMismatch name expected shown))
    {last : Int64} (alterations : List Alteration) :
    FailsOnly P (t.altered config table last alterations) := by
  rw [altered_eq]
  refine failsOnly_bind (failsOnly_foldlM (Altered.apply_failsOnly structural mismatch) _ _)
    fun b _ => ?_
  refine failsOnly_bind (checkColumns_failsOnly structural _) fun _ _ => ?_
  exact failsOnly_map _ (checked_failsOnly structural config)

/-- Rows are read unless a column is missing or the filter fails on a row. -/
theorem Table.select_failsOnly (structural : Structural P) {q : SelectStatement}
    (evaluated : ∀ row, FailsOnly P (meets params config.caseSensitiveLike q.filter row)) :
    FailsOnly P (t.select config params q) := by
  refine failsOnly_bind (requireColumns_failsOnly structural _) fun _ _ => ?_
  refine failsOnly_bind (requireColumns_failsOnly structural _) fun _ _ => ?_
  have read {f : List (Row × Bool) → Outcome (List Row)} (read : ∀ rows, FailsOnly P (f rows)) :
      FailsOnly P (t.marked config params q.filter >>= f) :=
    failsOnly_bind (marked_failsOnly structural evaluated) fun rows _ => read rows
  dsimp only
  split
  · refine failsOnly_bind (requireColumns_failsOnly structural _) fun _ _ => ?_
    exact read fun _ => failsOnly_ok _
  · exact read fun _ => failsOnly_ok _

/-! ## Statements -/

/-- Whether a statement is refused is up to its table, once the table is there. -/
theorem Share.require_bind_failsOnly (structural : Structural P) {x : Share}
    {f : Table → Outcome (Result × Share)}
    (behind : ∀ t, x.table = some t → FailsOnly P (f t)) :
    FailsOnly P (x.require table >>= f) := by
  rw [Share.require]
  cases found : x.table with
  | none => exact failsOnly_error (structural.tableNotFound table)
  | some t => exact behind t found

/-- A row is added unless one of its values is refused, or a default of the table. -/
theorem insert_failsOnly (structural : Structural P) {columns : List String}
    {values : List Operand} {x : Share}
    (unbound : ∀ operand ∈ values, FailsOnly P (operand.resolve params))
    (mismatch : ∀ name ∈ columns, ∀ expected shown,
      P (ExecutionError.typeMismatch name expected shown))
    (defaults : ∀ t, x.table = some t → ∀ d ∈ t.columns,
      FailsOnly P (storedDefault d.name d.column)) :
    FailsOnly P (onShare config params x (.insert table columns values)) := by
  rw [onShare]
  split
  · exact failsOnly_error (structural.columnCountMismatch _ _)
  · refine Share.require_bind_failsOnly structural fun t found => ?_
    refine failsOnly_bind (Table.newRow_failsOnly structural (fun b hb => ?_) (fun b hb => ?_)
      (defaults t found)) fun _ _ => failsOnly_ok _
    · exact unbound b.2 (List.of_mem_zip hb).2
    · exact mismatch b.1 (List.of_mem_zip hb).1

/-- **What a statement is refused for.** Apart from the structure of the store it is the types of
values, the places that it resolves, and the evaluation of its filter. -/
theorem onShare_failsOnly (structural : Structural P) {statement : Statement} {x : Share}
    (mismatch : ∀ name expected shown, P (ExecutionError.typeMismatch name expected shown))
    (unbound : ∀ operand ∈ statement.given, FailsOnly P (operand.resolve params))
    (evaluated : ∀ row, FailsOnly P
      (meets params config.caseSensitiveLike statement.filter row)) :
    FailsOnly P (onShare config params x statement) := by
  cases statement with
  | createTable name columns ifNotExists =>
    rw [onShare]
    split
    · split
      · exact failsOnly_ok _
      · exact failsOnly_error (structural.tableExists name)
    · exact failsOnly_bind (newTable_failsOnly structural mismatch) fun _ _ => failsOnly_ok _
  | createIndex table index columns unique ifNotExists =>
    refine Share.require_bind_failsOnly structural fun t _ => ?_
    split
    · split
      · exact failsOnly_ok _
      · exact failsOnly_error (structural.indexExists table index)
    · exact failsOnly_bind (Table.withIndex_failsOnly structural index columns unique) fun _ _ =>
        failsOnly_ok _
  | insert table columns values =>
    exact insert_failsOnly structural unbound (fun name _ => mismatch name) fun _ _ d _ =>
      storedDefault_failsOnly (mismatch d.name)
  | select q =>
    refine Share.require_bind_failsOnly structural fun t _ => ?_
    exact failsOnly_bind (Table.select_failsOnly structural evaluated) fun _ _ => failsOnly_ok _
  | update table assignments filter =>
    refine Share.require_bind_failsOnly structural fun t _ => ?_
    have assigned (b : String × Operand) (hb : b ∈ assignments) :
        FailsOnly P (b.2.resolve params) :=
      unbound b.2 (List.mem_map_of_mem hb)
    refine failsOnly_bind (Table.changes_failsOnly structural assigned mismatch) fun _ _ => ?_
    refine failsOnly_bind (Table.marked_failsOnly structural evaluated) fun rows _ => ?_
    split
    · exact failsOnly_ok _
    · refine failsOnly_bind ?_ fun _ _ => failsOnly_ok _
      rw [Table.withChanges_eq]
      exact Table.checked_failsOnly structural config
  | delete table filter =>
    refine Share.require_bind_failsOnly structural fun t _ => ?_
    refine failsOnly_bind (Table.marked_failsOnly structural evaluated) fun rows _ => ?_
    split
    · exact failsOnly_ok _
    · exact failsOnly_ok _
  | alterTable table alterations =>
    refine Share.require_bind_failsOnly structural fun t _ => ?_
    exact failsOnly_bind (Table.altered_failsOnly structural mismatch alterations) fun _ _ =>
      failsOnly_ok _
  | dropTable name ifExists =>
    rw [onShare]
    split
    · exact failsOnly_ok _
    · split
      · exact failsOnly_ok _
      · exact failsOnly_error (structural.tableNotFound name)
  | dropIndex table index ifExists =>
    rw [onShare]
    split
    · split
      · exact failsOnly_ok _
      · exact failsOnly_error (structural.tableNotFound table)
    · split
      · exact failsOnly_ok _
      · split
        · exact failsOnly_ok _
        · exact failsOnly_error (structural.indexNotFound table index)

/-- What a statement comes to on a store is what it comes to on the share of its table. -/
theorem Store.run_failsOnly {s : Store} {statement : Statement}
    (h : FailsOnly P (onShare config params (s.share statement.table) statement)) :
    FailsOnly P (s.run config statement params).1 := by
  rw [run_eq_settled]
  cases made : onShare config params (s.share statement.table) statement with
  | ok next => exact failsOnly_ok next.1
  | error e => exact failsOnly_error (h e made)

end Relational

end Polystore
