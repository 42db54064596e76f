import Polystore.Proofs.Relational.Effect
import Polystore.Proofs.Relational.Reachable

/-!
# A statement and its table

A statement names one table. Whatever it reads of the store and whatever it writes stands under that
name: the table itself and the counters of its columns, which together are the *share* of the name.
So a statement is a function of a share, which gives a result and the next share or fails; running
it on a store means to take the share out, apply the function, and put the next share back.

From this it follows that stores with one share answer alike, that the shares of all other names
stay, and that statements on different tables may change places.
-/

namespace Polystore

/-- The map with a key bound to a value, or not bound at all. -/
def TextMap.assign {α : Type} (m : TextMap α) (key : String) : Option α → TextMap α
  | some value => m.insert key value
  | none => m.erase key

theorem TextMap.get?_assign {α : Type} (m : TextMap α) (key other : String) (value : Option α) :
    (m.assign key value).get? other = if key = other then value else m.get? other := by
  cases value with
  | some v => exact m.get?_insert key other v
  | none => exact m.get?_erase key other

namespace Relational

open Steps

/-! ## Shares -/

/-- What a store holds under one name: a table, if it is there, and the counters of its columns. -/
structure Share where
  table : Option Table
  counters : Option (TextMap Int64)

namespace Share

/-- The table, which must be there. -/
def require (x : Share) (name : String) : Outcome Table :=
  match x.table with
  | some t => .ok t
  | none => .error (tableNotFound name)

/-- The share with a table set. -/
def withTable (x : Share) (t : Table) : Share := { x with table := some t }

/-- The share with a counter set, if there is one to set. -/
def withCounter? (x : Share) : Option (String × Int64) → Share
  | some (column, n) =>
    { x with counters := some ((x.counters.getD TextMap.empty).insert column n) }
  | none => x

/-- The last number of the identity of a table. -/
def lastIdentity (x : Share) (t : Table) : Int64 :=
  match t.identity? with
  | some d => (x.counters.bind (·.get? d.name)).getD 0
  | none => 0

end Share

namespace Store

/-- The share of a name. -/
def share (s : Store) (name : String) : Share := ⟨s.tables.get? name, s.counters.get? name⟩

/-- The store with another share under a name. -/
def withShare (s : Store) (name : String) (x : Share) : Store :=
  ⟨s.tables.assign name x.table, s.counters.assign name x.counters⟩

variable {s other : Store} {name : String}

/-- Stores with the same shares are equal. -/
theorem ext_share (same : ∀ name, s.share name = other.share name) : s = other := by
  have tables : s.tables = other.tables :=
    TextMap.ext fun name => congrArg Share.table (same name)
  have counters : s.counters = other.counters :=
    TextMap.ext fun name => congrArg Share.counters (same name)
  cases s
  cases other
  cases tables
  cases counters
  rfl

theorem share_withShare (s : Store) (name other : String) (x : Share) :
    (s.withShare name x).share other = if name = other then x else s.share other := by
  simp only [share, withShare, TextMap.get?_assign]
  split <;> rfl

@[simp] theorem share_withShare_self (s : Store) (name : String) (x : Share) :
    (s.withShare name x).share name = x := by
  rw [share_withShare, if_pos rfl]

theorem share_withShare_of_ne {other : String} (ne : name ≠ other) (s : Store) (x : Share) :
    (s.withShare name x).share other = s.share other := by
  rw [share_withShare, if_neg ne]

@[simp] theorem withShare_withShare (s : Store) (name : String) (x y : Share) :
    (s.withShare name x).withShare name y = s.withShare name y := by
  refine ext_share fun other => ?_
  simp only [share_withShare]
  split <;> rfl

@[simp] theorem withShare_share (s : Store) (name : String) :
    s.withShare name (s.share name) = s := by
  refine ext_share fun other => ?_
  rw [share_withShare]
  split
  · rename_i same
    rw [same]
  · rfl

/-! ### The writes of a statement are writes to its share -/

theorem withTable_eq (s : Store) (name : String) (t : Table) :
    s.withTable name t = s.withShare name ((s.share name).withTable t) := by
  refine ext_share fun other => ?_
  rw [share_withShare, share, withTable, TextMap.get?_insert]
  split
  · rename_i same
    rw [← same]
    rfl
  · rfl

theorem withCounter?_eq (s : Store) (name : String) (counter : Option (String × Int64)) :
    s.withCounter? name counter = s.withShare name ((s.share name).withCounter? counter) := by
  cases counter with
  | none => exact (withShare_share s name).symm
  | some b =>
    refine ext_share fun other => ?_
    rw [share_withShare, share, withCounter?, withCounter, TextMap.get?_insert]
    split
    · rename_i same
      rw [← same]
      rfl
    · rfl

theorem withoutCounters_eq (s : Store) (name : String) :
    s.withoutCounters name = s.withShare name { s.share name with counters := none } := by
  refine ext_share fun other => ?_
  rw [share_withShare, share, withoutCounters, TextMap.get?_erase]
  split
  · rename_i same
    rw [← same]
    rfl
  · rfl

theorem dropped_eq (s : Store) (name : String) :
    withoutCounters { s with tables := s.tables.erase name } name =
      s.withShare name ⟨none, none⟩ := rfl

theorem lastIdentity_share (s : Store) (name : String) (t : Table) :
    (s.share name).lastIdentity t = s.lastIdentity name t := rfl

/-- A store behind a statement on a name: with the next share, or as it was. -/
def settled (s : Store) (name : String) : Outcome (Result × Share) → Outcome Result × Store
  | .ok (r, x) => (.ok r, s.withShare name x)
  | .error e => (.error e, s)

theorem settled_bind {α : Type} (s : Store) (name : String) (o : Outcome α)
    (f : α → Outcome (Result × Share)) :
    s.settled name (o >>= f) =
      match o with
      | .ok a => s.settled name (f a)
      | .error e => (.error e, s) := by
  cases o <;> rfl

end Store

/-! ## Statements on shares -/

/-- What a statement makes of the share of its table. -/
def onShare (config : Config) (params : List Value) (x : Share) :
    Statement → Outcome (Result × Share)
  | .createTable name columns ifNotExists =>
    if x.table.isSome then
      if ifNotExists then .ok (Result.done, x) else .error (ExecutionError.tableExists name)
    else do
      let t ← newTable name columns
      .ok (Result.done, ⟨some t, none⟩)
  | .createIndex table index columns unique ifNotExists => do
    let t ← x.require table
    if t.indexes.contains index then
      if ifNotExists then .ok (Result.done, x) else .error (ExecutionError.indexExists table index)
    else
      let next ← t.withIndex config table index columns unique
      .ok (Result.done, x.withTable next)
  | .insert table columns values =>
    if columns.length ≠ values.length then
      .error (ExecutionError.columnCountMismatch columns.length values.length)
    else do
      let t ← x.require table
      let (row, counter) ←
        t.newRow config table (x.lastIdentity t) params (columns.zip values)
      .ok ({ rows := [], affected := 1
             insertId := t.reportedColumn.bind fun d => row.get? d.name },
        (x.withCounter? counter).withTable (t.push row))
  | .select q => do
    let t ← x.require q.table
    let rows ← t.select config params q
    .ok (Result.ofRows rows, x)
  | .update table assignments filter => do
    let t ← x.require table
    let changes ← t.changes table params assignments
    let rows ← t.marked config params filter
    if markedCount rows = 0 then .ok (Result.ofAffected 0, x)
    else
      let next ← t.withChanges config rows changes
      let counter := next.counterAfter (x.lastIdentity next) changes
      .ok (Result.ofAffected (markedCount rows), (x.withCounter? counter).withTable next)
  | .delete table filter => do
    let t ← x.require table
    let rows ← t.marked config params filter
    if markedCount rows = 0 then .ok (Result.ofAffected 0, x)
    else .ok (Result.ofAffected (markedCount rows), x.withTable (t.without rows))
  | .alterTable table alterations => do
    let t ← x.require table
    let a ← t.altered config table (x.lastIdentity t) alterations
    .ok (Result.done,
      (Share.withCounter? { x with counters := none } a.counter).withTable a.table)
  | .dropTable name ifExists =>
    if x.table.isSome then .ok (Result.done, ⟨none, none⟩)
    else if ifExists then .ok (Result.done, x)
    else .error (tableNotFound name)
  | .dropIndex table index ifExists =>
    match x.table with
    | none => if ifExists then .ok (Result.done, x) else .error (tableNotFound table)
    | some t =>
      if t.indexes.contains index then
        .ok (Result.done, x.withTable { t with indexes := t.indexes.erase index })
      else if ifExists then .ok (Result.done, x)
      else .error (ExecutionError.indexNotFound table index)

variable {config : Config} {params : List Value}

theorem settled_require (s : Store) (name : String) (f : Table → Outcome (Result × Share)) :
    s.settled name ((s.share name).require name >>= f) =
      match s.tables.get? name with
      | some t => s.settled name (f t)
      | none => (.error (tableNotFound name), s) := by
  rw [Store.settled_bind, Share.require, Store.share]
  cases s.tables.get? name <;> rfl

theorem settled_keep (s : Store) (name : String) (r : Result) :
    s.settled name (.ok (r, s.share name)) = (.ok r, s) := by
  rw [Store.settled, Store.withShare_share]

theorem run_select_eq (q : SelectStatement) (s : Store) :
    (select config params q).run.run s =
      s.settled q.table (onShare config params (s.share q.table) (.select q)) := by
  rw [select, Step.run_table_bind, onShare, settled_require]
  cases s.tables.get? q.table with
  | none => rfl
  | some t =>
    dsimp only
    rw [Step.run_lift_bind, Store.settled_bind]
    cases t.select config params q with
    | error e => rfl
    | ok rows => exact (settled_keep s q.table _).symm

theorem run_createTable_eq (name : String) (columns : List ColumnDef) (ifNotExists : Bool)
    (s : Store) :
    (createTable name columns ifNotExists).run.run s =
      s.settled name
        (onShare config params (s.share name) (.createTable name columns ifNotExists)) := by
  rw [createTable, run_get_bind, onShare]
  have taken : (s.share name).table.isSome = s.tables.contains name := rfl
  rw [taken]
  split
  · cases ifNotExists with
    | true => exact (settled_keep s name _).symm
    | false => rfl
  · rw [Step.run_lift_bind, Store.settled_bind]
    cases newTable name columns with
    | error e => rfl
    | ok t =>
      -- both writes go to the share of the name, and come to one
      show (_, (s.withTable name t).withoutCounters name) = _
      rw [Store.withTable_eq, Store.withoutCounters_eq, Store.withShare_withShare,
        Store.share_withShare_self]
      rfl

theorem run_createIndex_eq (table index : String) (columns : List String)
    (unique ifNotExists : Bool) (s : Store) :
    (createIndex config table index columns unique ifNotExists).run.run s =
      s.settled table (onShare config params (s.share table)
        (.createIndex table index columns unique ifNotExists)) := by
  rw [createIndex, Step.run_table_bind, onShare, settled_require]
  cases s.tables.get? table with
  | none => rfl
  | some t =>
    dsimp only
    split
    · cases ifNotExists with
      | true => exact (settled_keep s table _).symm
      | false => rfl
    · rw [Step.run_lift_bind, Store.settled_bind]
      cases t.withIndex config table index columns unique with
      | error e => rfl
      | ok next => exact congrArg (Prod.mk _) (Store.withTable_eq s table next)

/-- A counter and then the table are set. -/
theorem withTable_withCounter?_eq (s : Store) (name : String) (counter : Option (String × Int64))
    (t : Table) :
    (s.withCounter? name counter).withTable name t =
      s.withShare name (((s.share name).withCounter? counter).withTable t) := by
  rw [Store.withCounter?_eq, Store.withTable_eq, Store.withShare_withShare,
    Store.share_withShare_self]

theorem run_insert_eq (table : String) (columns : List String) (values : List Operand)
    (s : Store) :
    (insert config params table columns values).run.run s =
      s.settled table (onShare config params (s.share table) (.insert table columns values)) := by
  rw [insert, onShare]
  split
  · -- the lengths are compared before the table is looked up
    rfl
  · rw [settled_require]
    show (Step.table table >>= _).run.run s = _
    rw [Step.run_table_bind]
    cases s.tables.get? table with
    | none => rfl
    | some t =>
      dsimp only
      rw [run_get_bind, Step.run_lift_bind, Store.settled_bind, Store.lastIdentity_share]
      cases t.newRow config table (s.lastIdentity table t) params (columns.zip values) with
      | error e => rfl
      | ok added => exact congrArg (Prod.mk _) (withTable_withCounter?_eq s table added.2 _)

theorem run_update_eq (table : String) (assignments : List (String × Operand))
    (filter : Option Predicate) (s : Store) :
    (update config params table assignments filter).run.run s =
      s.settled table
        (onShare config params (s.share table) (.update table assignments filter)) := by
  rw [update, Step.run_table_bind, onShare, settled_require]
  cases s.tables.get? table with
  | none => rfl
  | some t =>
    dsimp only
    rw [Step.run_lift_bind, Store.settled_bind]
    cases t.changes table params assignments with
    | error e => rfl
    | ok changes =>
      dsimp only
      rw [Step.run_lift_bind, Store.settled_bind]
      cases t.marked config params filter with
      | error e => rfl
      | ok rows =>
        dsimp only
        split
        · exact (settled_keep s table _).symm
        · rw [Step.run_lift_bind, Store.settled_bind]
          cases t.withChanges config rows changes with
          | error e => rfl
          | ok next => exact congrArg (Prod.mk _) (withTable_withCounter?_eq s table _ next)

theorem run_delete_eq (table : String) (filter : Option Predicate) (s : Store) :
    (delete config params table filter).run.run s =
      s.settled table (onShare config params (s.share table) (.delete table filter)) := by
  rw [delete, Step.run_table_bind, onShare, settled_require]
  cases s.tables.get? table with
  | none => rfl
  | some t =>
    dsimp only
    rw [Step.run_lift_bind, Store.settled_bind]
    cases t.marked config params filter with
    | error e => rfl
    | ok rows =>
      dsimp only
      split
      · exact (settled_keep s table _).symm
      · exact congrArg (Prod.mk _) (Store.withTable_eq s table _)

theorem run_alterTable_eq (table : String) (alterations : List Alteration) (s : Store) :
    (alterTable config table alterations).run.run s =
      s.settled table
        (onShare config params (s.share table) (.alterTable table alterations)) := by
  rw [alterTable, Step.run_table_bind, onShare, settled_require]
  cases s.tables.get? table with
  | none => rfl
  | some t =>
    dsimp only
    rw [run_get_bind, Step.run_lift_bind, Store.settled_bind, Store.lastIdentity_share]
    cases t.altered config table (s.lastIdentity table t) alterations with
    | error e => rfl
    | ok a =>
      -- the counters go first, so that only the one that is carried along is left in the share
      show (_, ((s.withoutCounters table).withCounter? table a.counter).withTable table a.table) = _
      rw [withTable_withCounter?_eq, Store.withoutCounters_eq, Store.withShare_withShare,
        Store.share_withShare_self]
      rfl

theorem run_dropTable_eq (name : String) (ifExists : Bool) (s : Store) :
    (dropTable name ifExists).run.run s =
      s.settled name (onShare config params (s.share name) (.dropTable name ifExists)) := by
  rw [dropTable, run_get_bind, onShare]
  have taken : (s.share name).table.isSome = s.tables.contains name := rfl
  rw [taken]
  split
  · exact congrArg (Prod.mk _) (Store.dropped_eq s name)
  · cases ifExists with
    | true => exact (settled_keep s name _).symm
    | false => rfl

theorem run_dropIndex_eq (table index : String) (ifExists : Bool) (s : Store) :
    (dropIndex table index ifExists).run.run s =
      s.settled table
        (onShare config params (s.share table) (.dropIndex table index ifExists)) := by
  have own : (s.share table).table = s.tables.get? table := rfl
  rw [dropIndex, run_get_bind, onShare, own]
  cases s.tables.get? table with
  | none =>
    cases ifExists with
    | true => exact (settled_keep s table _).symm
    | false => rfl
  | some t =>
    dsimp only
    split
    · exact congrArg (Prod.mk _) (Store.withTable_eq s table _)
    · cases ifExists with
      | true => exact (settled_keep s table _).symm
      | false => rfl

/-- **A statement runs on a store as it does on the share of its table.** -/
theorem run_eq_settled (s : Store) (config : Config) (statement : Statement)
    (params : List Value) :
    s.run config statement params =
      s.settled statement.table
        (onShare config params (s.share statement.table) statement) := by
  cases statement with
  | createTable table columns ifNotExists => exact run_createTable_eq table columns ifNotExists s
  | createIndex table index columns unique ifNotExists =>
    exact run_createIndex_eq table index columns unique ifNotExists s
  | insert table columns values => exact run_insert_eq table columns values s
  | select q => exact run_select_eq q s
  | update table assignments filter => exact run_update_eq table assignments filter s
  | delete table filter => exact run_delete_eq table filter s
  | alterTable table alterations => exact run_alterTable_eq table alterations s
  | dropTable table ifExists => exact run_dropTable_eq table ifExists s
  | dropIndex table index ifExists => exact run_dropIndex_eq table index ifExists s

end Relational

end Polystore
