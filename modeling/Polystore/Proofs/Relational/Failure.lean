import Polystore.Proofs.Steps
import Polystore.Relational.Store

/-!
# A failing statement leaves the store alone

Every executor looks up its table and settles the new table and the new counter before it writes
either, and nothing fails from there on. So whichever of its many checks a statement fails, the
tables with their rows and index entries, and the counters, are those in front of it.
-/

namespace Polystore.Relational

open Steps

namespace Step

theorem reads_lift {α : Type} (o : Outcome α) : Reads (lift o) := by
  cases o with
  | ok a => exact reads_pure a
  | error e => exact reads_throw e

theorem reads_table (name : String) : Reads (table name) := by
  refine reads_bind reads_get fun s => ?_
  cases s.tables.get? name with
  | none => exact reads_throw _
  | some t => exact reads_pure t

/-- Setting the table comes last. -/
theorem succeeds_write {f : Store → Store} {r : Result} :
    Succeeds (do modify f; pure r : Step Result) :=
  succeeds_modify_bind (succeeds_pure r)

end Step

/-! ## The executors -/

theorem select_allOrNothing (config : Config) (params : List Value) (s : SelectStatement) :
    AllOrNothing (select config params s) := by
  refine allOrNothing_bind (Step.reads_table s.table) fun t => ?_
  refine allOrNothing_bind (Step.reads_lift _) fun rows => ?_
  exact (reads_pure _).allOrNothing

theorem createTable_allOrNothing (name : String) (columns : List ColumnDef) (ifNotExists : Bool) :
    AllOrNothing (createTable name columns ifNotExists) := by
  refine allOrNothing_bind reads_get fun s => ?_
  split
  · split
    · exact (reads_pure _).allOrNothing
    · exact (reads_throw _).allOrNothing
  · exact allOrNothing_bind (Step.reads_lift _) fun t => Step.succeeds_write.allOrNothing

theorem createIndex_allOrNothing (config : Config) (table index : String) (columns : List String)
    (unique ifNotExists : Bool) :
    AllOrNothing (createIndex config table index columns unique ifNotExists) := by
  refine allOrNothing_bind (Step.reads_table table) fun t => ?_
  split
  · split
    · exact (reads_pure _).allOrNothing
    · exact (reads_throw _).allOrNothing
  · exact allOrNothing_bind (Step.reads_lift _) fun next => Step.succeeds_write.allOrNothing

theorem dropTable_allOrNothing (name : String) (ifExists : Bool) :
    AllOrNothing (dropTable name ifExists) := by
  refine allOrNothing_bind reads_get fun s => ?_
  split
  · exact Step.succeeds_write.allOrNothing
  · split
    · exact (reads_pure _).allOrNothing
    · exact (reads_throw _).allOrNothing

theorem dropIndex_allOrNothing (table index : String) (ifExists : Bool) :
    AllOrNothing (dropIndex table index ifExists) := by
  refine allOrNothing_bind reads_get fun s => ?_
  cases s.tables.get? table with
  | none =>
    dsimp only
    split
    · exact (reads_pure _).allOrNothing
    · exact (reads_throw _).allOrNothing
  | some t =>
    dsimp only
    split
    · exact Step.succeeds_write.allOrNothing
    · split
      · exact (reads_pure _).allOrNothing
      · exact (reads_throw _).allOrNothing

theorem insert_allOrNothing (config : Config) (params : List Value) (table : String)
    (columns : List String) (values : List Operand) :
    AllOrNothing (insert config params table columns values) := by
  unfold insert
  split
  · exact (reads_throw_bind _ _).allOrNothing
  · refine allOrNothing_bind (Step.reads_table table) fun t => ?_
    refine allOrNothing_bind reads_get fun s => ?_
    refine allOrNothing_bind (Step.reads_lift _) fun added => ?_
    obtain ⟨row, counter⟩ := added
    exact (succeeds_modify_bind Step.succeeds_write).allOrNothing

theorem update_allOrNothing (config : Config) (params : List Value) (table : String)
    (assignments : List (String × Operand)) (filter : Option Predicate) :
    AllOrNothing (update config params table assignments filter) := by
  refine allOrNothing_bind (Step.reads_table table) fun t => ?_
  refine allOrNothing_bind (Step.reads_lift _) fun changes => ?_
  refine allOrNothing_bind (Step.reads_lift _) fun rows => ?_
  split
  · exact (reads_pure _).allOrNothing
  · refine allOrNothing_bind (Step.reads_lift _) fun next => ?_
    refine allOrNothing_bind reads_get fun s => ?_
    exact (succeeds_modify_bind Step.succeeds_write).allOrNothing

theorem delete_allOrNothing (config : Config) (params : List Value) (table : String)
    (filter : Option Predicate) : AllOrNothing (delete config params table filter) := by
  refine allOrNothing_bind (Step.reads_table table) fun t => ?_
  refine allOrNothing_bind (Step.reads_lift _) fun rows => ?_
  split
  · exact (reads_pure _).allOrNothing
  · exact Step.succeeds_write.allOrNothing

/-- The changes of a whole list are made on a copy; a failing one throws the copy away. -/
theorem alterTable_allOrNothing (config : Config) (table : String)
    (alterations : List Alteration) : AllOrNothing (alterTable config table alterations) := by
  refine allOrNothing_bind (Step.reads_table table) fun t => ?_
  refine allOrNothing_bind reads_get fun s => ?_
  refine allOrNothing_bind (Step.reads_lift _) fun a => ?_
  exact (succeeds_modify_bind (succeeds_modify_bind Step.succeeds_write)).allOrNothing

theorem apply_allOrNothing (config : Config) (params : List Value) (statement : Statement) :
    AllOrNothing (apply config params statement) := by
  cases statement with
  | createTable table columns ifNotExists =>
    exact createTable_allOrNothing table columns ifNotExists
  | createIndex table index columns unique ifNotExists =>
    exact createIndex_allOrNothing config table index columns unique ifNotExists
  | insert table columns values => exact insert_allOrNothing config params table columns values
  | select s => exact select_allOrNothing config params s
  | update table assignments filter =>
    exact update_allOrNothing config params table assignments filter
  | delete table filter => exact delete_allOrNothing config params table filter
  | alterTable table alterations => exact alterTable_allOrNothing config table alterations
  | dropTable table ifExists => exact dropTable_allOrNothing table ifExists
  | dropIndex table index ifExists => exact dropIndex_allOrNothing table index ifExists

/-! ## Statements -/

/-- **A statement that fails has changed nothing**, whatever the statement, its parameters, the
configuration and the store in front of it. -/
theorem run_store_of_error {s : Store} {config : Config} {statement : Statement}
    {params : List Value} {e : Error} (h : (s.run config statement params).1 = .error e) :
    (s.run config statement params).2 = s :=
  apply_allOrNothing config params statement s e h

/-- A store with one table: it counts up, has an index, and its one row holds a text that spells no
number. -/
def stocked : Store :=
  let row : Row := TextMap.ofList [("id", .int 1), ("label", .text "bolt")]
  { tables := TextMap.empty.insert "items"
      { name := "items"
        columns := [⟨"id", (Column.ofType .integer).asPrimary.counting⟩,
          ⟨"label", Column.ofType .text⟩]
        rows := [row]
        indexes := TextMap.empty.insert "by_label" (Index.build ["label"] false [row]) }
    counters := TextMap.empty.insert "items" (TextMap.empty.insert "id" 1) }

/-- A change that succeeds in front of one that does not. -/
def halfDone : Statement :=
  .alterTable "items"
    [.add "extra" (Column.ofType .integer), .modify "label" (Column.ofType .integer)]

/-- The second change fails on the stored text, and the column of the first one is not there. -/
theorem run_store_of_error_halfDone :
    (stocked.run .standard halfDone []).1 =
        .error (ExecutionError.typeMismatch "label" "integer" "\"bolt\"") ∧
      (stocked.run .standard halfDone []).2 = stocked :=
  ⟨rfl, run_store_of_error rfl⟩

end Polystore.Relational
