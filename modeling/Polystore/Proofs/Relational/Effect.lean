import Polystore.Proofs.Relational.Failure

/-!
# What a statement does

A statement that fails has changed nothing. A statement that succeeds does one of a few things to
the store, and `Effect` says which, with everything that was checked on the way: a new table is put
in, a table gives way to another one that was made from it, with or without a new number behind it,
or a table is taken out. All that is to be known about a store over time follows from this list.
-/

namespace Polystore.Relational

open Steps

/-! ## Steps on the store -/

namespace Step

theorem run_lift_bind {α β : Type} (o : Outcome α) (f : α → Step β) (s : Store) :
    (lift o >>= f).run.run s =
      match o with
      | .ok a => (f a).run.run s
      | .error e => (.error e, s) := by
  cases o <;> rfl

theorem run_lift_bind_eq_ok {α β : Type} {o : Outcome α} {f : α → Step β} {b : β}
    {s s' : Store} :
    (lift o >>= f).run.run s = (.ok b, s') ↔
      ∃ a, o = .ok a ∧ (f a).run.run s = (.ok b, s') := by
  rw [run_lift_bind]
  cases o with
  | ok a => simp
  | error e => exact iff_of_false nofun (by rintro ⟨_, ⟨⟩, _⟩)

theorem run_table_bind {α : Type} (name : String) (f : Table → Step α) (s : Store) :
    (table name >>= f).run.run s =
      match s.tables.get? name with
      | some t => (f t).run.run s
      | none => (.error (tableNotFound name), s) := by
  have looked : (table name).run.run s =
      (match s.tables.get? name with
        | some t => (pure t : Step Table)
        | none => throw (tableNotFound name)).run.run s := rfl
  rw [run_bind, looked]
  cases s.tables.get? name <;> rfl

theorem run_table_bind_eq_ok {β : Type} {name : String} {f : Table → Step β} {b : β}
    {s s' : Store} :
    (table name >>= f).run.run s = (.ok b, s') ↔
      ∃ t, s.tables.get? name = some t ∧ (f t).run.run s = (.ok b, s') := by
  rw [run_table_bind]
  cases s.tables.get? name with
  | some t => simp
  | none => exact iff_of_false nofun (by rintro ⟨_, ⟨⟩, _⟩)

end Step

/-! ## The effects -/

/-- What a statement that succeeds has done: its result, and the store behind it. -/
inductive Effect (config : Config) (params : List Value) (s : Store) :
    Statement → Result → Store → Prop
  | selected {q : SelectStatement} {t : Table} {rows : List Row}
      (found : s.tables.get? q.table = some t) (read : t.select config params q = .ok rows) :
      Effect config params s (.select q) (Result.ofRows rows) s
  | tableMade {name : String} {columns : List ColumnDef} {ifNotExists : Bool} {t : Table}
      (free : s.tables.contains name = false) (made : newTable name columns = .ok t) :
      Effect config params s (.createTable name columns ifNotExists) Result.done
        ((s.withTable name t).withoutCounters name)
  | tableThere {name : String} {columns : List ColumnDef}
      (taken : s.tables.contains name = true) :
      Effect config params s (.createTable name columns true) Result.done s
  | indexMade {table index : String} {columns : List String} {unique ifNotExists : Bool}
      {t next : Table} (found : s.tables.get? table = some t)
      (free : t.indexes.contains index = false)
      (made : t.withIndex config table index columns unique = .ok next) :
      Effect config params s (.createIndex table index columns unique ifNotExists) Result.done
        (s.withTable table next)
  | indexThere {table index : String} {columns : List String} {unique : Bool} {t : Table}
      (found : s.tables.get? table = some t) (taken : t.indexes.contains index = true) :
      Effect config params s (.createIndex table index columns unique true) Result.done s
  | inserted {table : String} {columns : List String} {values : List Operand} {t : Table}
      {row : Row} {counter : Option (String × Int64)} (fits : columns.length = values.length)
      (found : s.tables.get? table = some t)
      (made : t.newRow config table (s.lastIdentity table t) params (columns.zip values) =
        .ok (row, counter)) :
      Effect config params s (.insert table columns values)
        { rows := [], affected := 1
          insertId := t.reportedColumn.bind fun d => row.get? d.name }
        ((s.withCounter? table counter).withTable table (t.push row))
  | updatedNothing {table : String} {assignments : List (String × Operand)}
      {filter : Option Predicate} {t : Table} {changes : List (String × Value)}
      {rows : List (Row × Bool)} (found : s.tables.get? table = some t)
      (assigned : t.changes table params assignments = .ok changes)
      (marked : t.marked config params filter = .ok rows) (none : markedCount rows = 0) :
      Effect config params s (.update table assignments filter) (Result.ofAffected 0) s
  | updated {table : String} {assignments : List (String × Operand)}
      {filter : Option Predicate} {t next : Table} {changes : List (String × Value)}
      {rows : List (Row × Bool)} (found : s.tables.get? table = some t)
      (assigned : t.changes table params assignments = .ok changes)
      (marked : t.marked config params filter = .ok rows) (some : markedCount rows ≠ 0)
      (made : t.withChanges config rows changes = .ok next) :
      Effect config params s (.update table assignments filter)
        (Result.ofAffected (markedCount rows))
        ((s.withCounter? table (next.counterAfter (s.lastIdentity table next) changes)).withTable
          table next)
  | deletedNothing {table : String} {filter : Option Predicate} {t : Table}
      {rows : List (Row × Bool)} (found : s.tables.get? table = some t)
      (marked : t.marked config params filter = .ok rows) (none : markedCount rows = 0) :
      Effect config params s (.delete table filter) (Result.ofAffected 0) s
  | deleted {table : String} {filter : Option Predicate} {t : Table}
      {rows : List (Row × Bool)} (found : s.tables.get? table = some t)
      (marked : t.marked config params filter = .ok rows) (some : markedCount rows ≠ 0) :
      Effect config params s (.delete table filter) (Result.ofAffected (markedCount rows))
        (s.withTable table (t.without rows))
  | altered {table : String} {alterations : List Alteration} {t : Table} {a : Altered}
      (found : s.tables.get? table = some t)
      (made : t.altered config table (s.lastIdentity table t) alterations = .ok a) :
      Effect config params s (.alterTable table alterations) Result.done
        (((s.withoutCounters table).withCounter? table a.counter).withTable table a.table)
  | tableDropped {name : String} {ifExists : Bool} (taken : s.tables.contains name = true) :
      Effect config params s (.dropTable name ifExists) Result.done
        (Store.withoutCounters { s with tables := s.tables.erase name } name)
  | noTable {name : String} (free : s.tables.contains name = false) :
      Effect config params s (.dropTable name true) Result.done s
  | indexDropped {table index : String} {ifExists : Bool} {t : Table}
      (found : s.tables.get? table = some t) (taken : t.indexes.contains index = true) :
      Effect config params s (.dropIndex table index ifExists) Result.done
        (s.withTable table { t with indexes := t.indexes.erase index })
  | noIndex {table index : String} {t : Table} (found : s.tables.get? table = some t)
      (free : t.indexes.contains index = false) :
      Effect config params s (.dropIndex table index true) Result.done s
  | noIndexedTable {table index : String} (missing : s.tables.get? table = none) :
      Effect config params s (.dropIndex table index true) Result.done s

variable {config : Config} {params : List Value} {s s' : Store} {r : Result}

theorem select_effect {q : SelectStatement}
    (h : (select config params q).run.run s = (.ok r, s')) :
    Effect config params s (.select q) r s' := by
  obtain ⟨t, found, h⟩ := Step.run_table_bind_eq_ok.mp h
  obtain ⟨rows, read, h⟩ := Step.run_lift_bind_eq_ok.mp h
  obtain ⟨rfl, rfl⟩ := run_pure_eq_ok.mp h
  exact .selected found read

theorem createTable_effect {name : String} {columns : List ColumnDef} {ifNotExists : Bool}
    (h : (createTable name columns ifNotExists).run.run s = (.ok r, s')) :
    Effect config params s (.createTable name columns ifNotExists) r s' := by
  replace h := run_get_bind_eq_ok.mp h
  split at h
  · rename_i taken
    split at h
    · rename_i silent
      obtain ⟨rfl, rfl⟩ := run_pure_eq_ok.mp h
      subst silent
      exact .tableThere taken
    · exact (run_throw_eq_ok.mp h).elim
  · rename_i free
    obtain ⟨t, made, h⟩ := Step.run_lift_bind_eq_ok.mp h
    obtain ⟨rfl, rfl⟩ := run_write_eq_ok.mp h
    exact .tableMade (Bool.eq_false_iff.mpr free) made

theorem createIndex_effect {table index : String} {columns : List String}
    {unique ifNotExists : Bool}
    (h : (createIndex config table index columns unique ifNotExists).run.run s = (.ok r, s')) :
    Effect config params s (.createIndex table index columns unique ifNotExists) r s' := by
  obtain ⟨t, found, h⟩ := Step.run_table_bind_eq_ok.mp h
  split at h
  · rename_i taken
    split at h
    · rename_i silent
      obtain ⟨rfl, rfl⟩ := run_pure_eq_ok.mp h
      subst silent
      exact .indexThere found taken
    · exact (run_throw_eq_ok.mp h).elim
  · rename_i free
    obtain ⟨next, made, h⟩ := Step.run_lift_bind_eq_ok.mp h
    obtain ⟨rfl, rfl⟩ := run_write_eq_ok.mp h
    exact .indexMade found (Bool.eq_false_iff.mpr free) made

theorem insert_effect {table : String} {columns : List String} {values : List Operand}
    (h : (insert config params table columns values).run.run s = (.ok r, s')) :
    Effect config params s (.insert table columns values) r s' := by
  unfold insert at h
  split at h
  · obtain ⟨_, _, failed, _⟩ := run_bind_eq_ok.mp h
    exact (run_throw_eq_ok.mp failed).elim
  · rename_i fits
    obtain ⟨t, found, h⟩ := Step.run_table_bind_eq_ok.mp h
    replace h := run_get_bind_eq_ok.mp h
    obtain ⟨⟨row, counter⟩, made, h⟩ := Step.run_lift_bind_eq_ok.mp h
    replace h := run_modify_bind_eq_ok.mp h
    obtain ⟨rfl, rfl⟩ := run_write_eq_ok.mp h
    exact .inserted (Decidable.not_not.mp fits) found made

theorem update_effect {table : String} {assignments : List (String × Operand)}
    {filter : Option Predicate}
    (h : (update config params table assignments filter).run.run s = (.ok r, s')) :
    Effect config params s (.update table assignments filter) r s' := by
  obtain ⟨t, found, h⟩ := Step.run_table_bind_eq_ok.mp h
  obtain ⟨changes, assigned, h⟩ := Step.run_lift_bind_eq_ok.mp h
  obtain ⟨rows, marked, h⟩ := Step.run_lift_bind_eq_ok.mp h
  split at h
  · rename_i none
    obtain ⟨rfl, rfl⟩ := run_pure_eq_ok.mp h
    exact .updatedNothing found assigned marked none
  · rename_i some
    obtain ⟨next, made, h⟩ := Step.run_lift_bind_eq_ok.mp h
    replace h := run_get_bind_eq_ok.mp h
    replace h := run_modify_bind_eq_ok.mp h
    obtain ⟨rfl, rfl⟩ := run_write_eq_ok.mp h
    exact .updated found assigned marked some made

theorem delete_effect {table : String} {filter : Option Predicate}
    (h : (delete config params table filter).run.run s = (.ok r, s')) :
    Effect config params s (.delete table filter) r s' := by
  obtain ⟨t, found, h⟩ := Step.run_table_bind_eq_ok.mp h
  obtain ⟨rows, marked, h⟩ := Step.run_lift_bind_eq_ok.mp h
  split at h
  · rename_i none
    obtain ⟨rfl, rfl⟩ := run_pure_eq_ok.mp h
    exact .deletedNothing found marked none
  · rename_i some
    obtain ⟨rfl, rfl⟩ := run_write_eq_ok.mp h
    exact .deleted found marked some

theorem alterTable_effect {table : String} {alterations : List Alteration}
    (h : (alterTable config table alterations).run.run s = (.ok r, s')) :
    Effect config params s (.alterTable table alterations) r s' := by
  obtain ⟨t, found, h⟩ := Step.run_table_bind_eq_ok.mp h
  replace h := run_get_bind_eq_ok.mp h
  obtain ⟨a, made, h⟩ := Step.run_lift_bind_eq_ok.mp h
  replace h := run_modify_bind_eq_ok.mp h
  replace h := run_modify_bind_eq_ok.mp h
  obtain ⟨rfl, rfl⟩ := run_write_eq_ok.mp h
  exact .altered found made

theorem dropTable_effect {name : String} {ifExists : Bool}
    (h : (dropTable name ifExists).run.run s = (.ok r, s')) :
    Effect config params s (.dropTable name ifExists) r s' := by
  replace h := run_get_bind_eq_ok.mp h
  split at h
  · rename_i taken
    obtain ⟨rfl, rfl⟩ := run_write_eq_ok.mp h
    exact .tableDropped taken
  · rename_i free
    split at h
    · rename_i silent
      obtain ⟨rfl, rfl⟩ := run_pure_eq_ok.mp h
      subst silent
      exact .noTable (Bool.eq_false_iff.mpr free)
    · exact (run_throw_eq_ok.mp h).elim

theorem dropIndex_effect {table index : String} {ifExists : Bool}
    (h : (dropIndex table index ifExists).run.run s = (.ok r, s')) :
    Effect config params s (.dropIndex table index ifExists) r s' := by
  replace h := run_get_bind_eq_ok.mp h
  split at h
  · rename_i missing
    split at h
    · rename_i silent
      obtain ⟨rfl, rfl⟩ := run_pure_eq_ok.mp h
      subst silent
      exact .noIndexedTable missing
    · exact (run_throw_eq_ok.mp h).elim
  · rename_i t found
    split at h
    · rename_i taken
      obtain ⟨rfl, rfl⟩ := run_write_eq_ok.mp h
      exact .indexDropped found taken
    · rename_i free
      split at h
      · rename_i silent
        obtain ⟨rfl, rfl⟩ := run_pure_eq_ok.mp h
        subst silent
        exact .noIndex found (Bool.eq_false_iff.mpr free)
      · exact (run_throw_eq_ok.mp h).elim

/-- **A statement that succeeds has had its effect.** -/
theorem run_effect {statement : Statement} (h : s.run config statement params = (.ok r, s')) :
    Effect config params s statement r s' := by
  cases statement with
  | createTable table columns ifNotExists => exact createTable_effect h
  | createIndex table index columns unique ifNotExists => exact createIndex_effect h
  | insert table columns values => exact insert_effect h
  | select q => exact select_effect h
  | update table assignments filter => exact update_effect h
  | delete table filter => exact delete_effect h
  | alterTable table alterations => exact alterTable_effect h
  | dropTable table ifExists => exact dropTable_effect h
  | dropIndex table index ifExists => exact dropIndex_effect h

/-- The store behind a statement is the one in front of it, or the statement has had its effect. -/
theorem run_store_cases (s : Store) (config : Config) (statement : Statement)
    (params : List Value) :
    (s.run config statement params).2 = s ∨
      ∃ r, Effect config params s statement r (s.run config statement params).2 := by
  cases h : s.run config statement params with
  | mk o s' =>
    cases o with
    | ok r => exact .inr ⟨r, run_effect h⟩
    | error e =>
      have failed : (s.run config statement params).1 = .error e := by rw [h]
      have kept := apply_allOrNothing config params statement s e failed
      exact .inl (by rw [← kept, ← Step.outcome, ← Store.run, h])

end Polystore.Relational
