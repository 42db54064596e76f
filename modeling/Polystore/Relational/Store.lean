import Polystore.Relational.Table

/-!
# The relational store

The store holds tables by name, and for every table with an identity the last number that it was
given. A statement runs as a `Step`: it may fail at any point, and whatever it has written until
then stays written. Every executor below therefore settles all that can fail before it writes.
-/

namespace Polystore.Relational

/-- Tables, and the last number of each counted column by table and column. -/
structure Store where
  tables : TextMap Table
  counters : TextMap (TextMap Int64)

/-- The store without tables. -/
def Store.empty : Store := ⟨TextMap.empty, TextMap.empty⟩

instance : Inhabited Store := ⟨Store.empty⟩

/-- Something that reads and writes the store and may fail. -/
abbrev Step (α : Type) := ExceptT Error (StateM Store) α

namespace Step

/-- What a step comes to, with the store behind it. -/
def outcome {α : Type} (step : Step α) (s : Store) : Outcome α × Store := step.run.run s

/-- A step that only computes. -/
def lift {α : Type} (o : Outcome α) : Step α :=
  match o with
  | .ok a => pure a
  | .error e => throw e

/-- The table of a name, which must be there. -/
def table (name : String) : Step Table := do
  match (← get).tables.get? name with
  | some t => pure t
  | none => throw (tableNotFound name)

end Step

namespace Store

/-- The last number of a counted column; zero when there was none. -/
def counter (s : Store) (table column : String) : Int64 :=
  ((s.counters.get? table).bind (·.get? column)).getD 0

/-- The store with a table set. -/
def withTable (s : Store) (name : String) (t : Table) : Store :=
  { s with tables := s.tables.insert name t }

/-- The store with a counter set. -/
def withCounter (s : Store) (table column : String) (n : Int64) : Store :=
  { s with
    counters :=
      s.counters.insert table (((s.counters.get? table).getD TextMap.empty).insert column n) }

/-- The store without the counters of a table. -/
def withoutCounters (s : Store) (table : String) : Store :=
  { s with counters := s.counters.erase table }

/-- The store with a counter set, if there is one to set. -/
def withCounter? (s : Store) (table : String) : Option (String × Int64) → Store
  | some (column, n) => s.withCounter table column n
  | none => s

end Store

/-! ## Reading -/

/-- A row cut down to some fields. -/
def projected (fields : List String) (row : Row) : Row :=
  TextMap.ofList (fields.map fun f => (f, row.at f))

/-- Whether a list of fields means all columns. -/
def showsAll (fields : List String) : Bool := fields.isEmpty || fields.contains "*"

/-- The order of two rows by one sort key; a descending key takes the rows the other way round. -/
def keyOrder (k : SortKey) (a b : Row) : Ordering :=
  match k.direction with
  | .ascending => (a.at k.field).sortCompare (b.at k.field)
  | .descending => (b.at k.field).sortCompare (a.at k.field)

/-- The rows that a read brings from a table, sorted by a given sort. -/
def Table.selectBy (t : Table) (sort : Rows.Sorting) (config : Config) (params : List Value)
    (s : SelectStatement) : Outcome (List Row) := do
  t.requireColumns s.groupBy
  t.requireColumns (s.orderBy.map (·.field))
  if !showsAll s.fields then t.requireColumns s.fields
  let rows ← t.marked config params s.filter
  let hits := (rows.filter (·.2)).map (·.1)
  let shown := Rows.presented sort Row.at keyOrder s.groupBy s.orderBy s.offset s.limit hits
  .ok (if showsAll s.fields then shown else shown.map (projected s.fields))

/-- The rows that a read brings from a table. -/
def Table.select (t : Table) (config : Config) (params : List Value) (s : SelectStatement) :
    Outcome (List Row) :=
  t.selectBy Rows.inserted config params s

/-- Read rows of a table. -/
def select (config : Config) (params : List Value) (s : SelectStatement) : Step Result := do
  let t ← Step.table s.table
  let rows ← Step.lift (t.select config params s)
  pure (Result.ofRows rows)

/-! ## Tables and indexes -/

/-- The default of every column must fit its type. -/
def checkDefaults : List ColumnDef → Outcome Unit
  | [] => .ok ()
  | d :: rest => do
    let _ ← storedDefault d.name d.column
    checkDefaults rest

/-- The table that columns make. -/
def newTable (name : String) (columns : List ColumnDef) : Outcome Table := do
  if columns.isEmpty then
    throw (.shape <| .invalidStatement "CREATE TABLE" ("table " ++ name ++ " has no columns"))
  checkDefaults columns
  Table.checkColumns name columns
  .ok { name, columns, rows := [], indexes := TextMap.empty }

/-- Make a table. -/
def createTable (name : String) (columns : List ColumnDef) (ifNotExists : Bool) :
    Step Result := do
  if (← get).tables.contains name then
    if ifNotExists then pure Result.done else throw (.execution <| .tableExists name)
  else
    let t ← Step.lift (newTable name columns)
    modify fun s => (s.withTable name t).withoutCounters name
    pure Result.done

/-- The table with one more index. -/
def Table.withIndex (t : Table) (config : Config) (table index : String) (columns : List String)
    (unique : Bool) : Outcome Table := do
  if columns.isEmpty then
    throw (.shape <| .invalidStatement "CREATE INDEX"
      ("index " ++ index ++ " on " ++ table ++ " names no columns"))
  t.requireColumns columns
  if unique && config.enforceUnique then
    match firstRepeated columns [] t.rows with
    | some k =>
      throw (.execution <| .constraintViolation table
        ("cannot build unique index " ++ index ++ ": duplicate value '" ++ k ++ "'"))
    | none => pure ()
  .ok { t with indexes := t.indexes.insert index (Index.build columns unique t.rows) }

/-- Make an index. -/
def createIndex (config : Config) (table index : String) (columns : List String)
    (unique ifNotExists : Bool) : Step Result := do
  let t ← Step.table table
  if t.indexes.contains index then
    if ifNotExists then pure Result.done else throw (.execution <| .indexExists table index)
  else
    let next ← Step.lift (t.withIndex config table index columns unique)
    modify (·.withTable table next)
    pure Result.done

/-- Remove a table. -/
def dropTable (name : String) (ifExists : Bool) : Step Result := do
  if (← get).tables.contains name then
    modify fun s => Store.withoutCounters { s with tables := s.tables.erase name } name
    pure Result.done
  else if ifExists then pure Result.done
  else throw (tableNotFound name)

/-- Remove an index. -/
def dropIndex (table index : String) (ifExists : Bool) : Step Result := do
  match (← get).tables.get? table with
  | none => if ifExists then pure Result.done else throw (tableNotFound table)
  | some t =>
    if t.indexes.contains index then
      modify (·.withTable table { t with indexes := t.indexes.erase index })
      pure Result.done
    else if ifExists then pure Result.done
    else throw (.execution <| .indexNotFound table index)

/-! ## Adding rows -/

/-- The values that a statement gives to columns, as they are stored; of two values for one column
the later one counts. -/
def Table.givenRow (t : Table) (params : List Value) (row : Row) :
    List (String × Operand) → Outcome Row
  | [] => .ok row
  | (name, operand) :: rest => do
    let c ← t.requireColumn name
    let v ← operand.resolve params
    let w ← c.type.coerce name v
    t.givenRow params (row.insert name w) rest

/-- A row with its identity, and the counter to be set: the next number when the row brings none,
or the number it brings when that is larger than the last one. -/
def Table.withIdentity (t : Table) (table : String) (last : Int64) (row : Row) :
    Outcome (Row × Option (String × Int64)) :=
  match t.identity? with
  | none => .ok (row, none)
  | some d =>
    match row.at d.name with
    | .null =>
      if last = Int64.maxValue then
        .error (ExecutionError.constraintViolation table
          ("identity column " ++ d.name ++ " is exhausted"))
      else .ok (row.insert d.name (.int (last + 1)), some (d.name, last + 1))
    | .int n => .ok (row, if last < n then some (d.name, n) else none)
    | _ => .ok (row, none)

/-- A row with the defaults of the columns that it leaves out, and no `null` where none may be. -/
def completedRow (table : String) (row : Row) : List ColumnDef → Outcome Row
  | [] => .ok row
  | d :: rest => do
    let full ←
      if row.contains d.name then .ok row
      else (storedDefault d.name d.column).map (row.insert d.name)
    if requiresValue d.column && (full.at d.name).isNull then
      .error (notNullViolation table d.name)
    else completedRow table full rest

/-- The row that an insertion adds, with the counter to be set. -/
def Table.newRow (t : Table) (config : Config) (table : String) (last : Int64)
    (params : List Value) (values : List (String × Operand)) :
    Outcome (Row × Option (String × Int64)) := do
  let given ← t.givenRow params TextMap.empty values
  let (numbered, counter) ← t.withIdentity table last given
  let row ← completedRow table numbered t.columns
  if config.enforceUnique then t.checkUniqueRow row
  .ok (row, counter)

/-- The column whose value an insertion reports: the identity, else the first primary one. -/
def Table.reportedColumn (t : Table) : Option ColumnDef :=
  t.identity?.or (t.columns.find? (·.column.primary))

/-- The last number of the identity of a table that is kept under a name. -/
def Store.lastIdentity (s : Store) (table : String) (t : Table) : Int64 :=
  match t.identity? with
  | some d => s.counter table d.name
  | none => 0

/-- Add a row. -/
def insert (config : Config) (params : List Value) (table : String) (columns : List String)
    (values : List Operand) : Step Result := do
  if columns.length ≠ values.length then
    throw (.execution <| .columnCountMismatch columns.length values.length)
  let t ← Step.table table
  let (row, counter) ←
    Step.lift (t.newRow config table ((← get).lastIdentity table t) params (columns.zip values))
  -- nothing fails from here on
  modify (·.withCounter? table counter)
  modify (·.withTable table (t.push row))
  pure { rows := [], affected := 1, insertId := t.reportedColumn.bind fun d => row.get? d.name }

/-! ## Changing and removing rows -/

/-- The values that an update sets, as they are stored. -/
def Table.changes (t : Table) (table : String) (params : List Value) :
    List (String × Operand) → Outcome (List (String × Value))
  | [] => .ok []
  | (name, operand) :: rest => do
    let c ← t.requireColumn name
    let v ← operand.resolve params
    let w ← storedValue table name c v
    let ws ← t.changes table params rest
    .ok ((name, w) :: ws)

/-- A row with changes made, one after the other. -/
def changedRow (changes : List (String × Value)) (row : Row) : Row :=
  changes.foldl (fun r c => r.insert c.1 c.2) row

/-- The marked rows of a table changed. -/
def Table.withChanges (t : Table) (config : Config) (rows : List (Row × Bool))
    (changes : List (String × Value)) : Outcome Table := do
  let next : Table := { t with rows := rows.map fun r => if r.2 then changedRow changes r.1 else r.1 }
  if config.enforceUnique then next.checkUniqueAll
  .ok next.reindexed

/-- The counter to be set when changes were made: the number that the first of them gives to the
identity, when it is larger than the last one. -/
def Table.counterAfter (t : Table) (last : Int64) (changes : List (String × Value)) :
    Option (String × Int64) :=
  match t.identity? with
  | none => none
  | some d =>
    match changes.find? (·.1 = d.name) with
    | some (_, .int n) => if last < n then some (d.name, n) else none
    | _ => none

/-- Change the rows that meet a filter. -/
def update (config : Config) (params : List Value) (table : String)
    (assignments : List (String × Operand)) (filter : Option Predicate) : Step Result := do
  let t ← Step.table table
  let changes ← Step.lift (t.changes table params assignments)
  let rows ← Step.lift (t.marked config params filter)
  if markedCount rows = 0 then pure (Result.ofAffected 0)
  else
    let next ← Step.lift (t.withChanges config rows changes)
    let counter := next.counterAfter ((← get).lastIdentity table next) changes
    -- nothing fails from here on
    modify (·.withCounter? table counter)
    modify (·.withTable table next)
    pure (Result.ofAffected (markedCount rows))

/-- The table without its marked rows. -/
def Table.without (t : Table) (rows : List (Row × Bool)) : Table :=
  Table.reindexed { t with rows := (rows.filter (!·.2)).map (·.1) }

/-- Remove the rows that meet a filter. -/
def delete (config : Config) (params : List Value) (table : String) (filter : Option Predicate) :
    Step Result := do
  let t ← Step.table table
  let rows ← Step.lift (t.marked config params filter)
  if markedCount rows = 0 then pure (Result.ofAffected 0)
  else
    modify (·.withTable table (t.without rows))
    pure (Result.ofAffected (markedCount rows))

/-! ## Changing columns -/

/-- A table in the middle of a change of its columns, with the counter of its identity. -/
structure Altered where
  table : Table
  counter : Option (String × Int64)

/-- The rows with a column of ascending numbers, from `n + 1` on. -/
def numbered (name : String) (n : Nat) : List Row → List Row
  | [] => []
  | row :: rest => row.insert name (.int (Int64.ofNat (n + 1))) :: numbered name (n + 1) rest

/-- One more column, filled with numbers if it is an identity and with its default if not. -/
def Altered.addColumn (a : Altered) (table name : String) (c : Column) : Outcome Altered := do
  let t := a.table
  if (t.column? name).isSome then throw (.execution <| .columnExists table name)
  let default ← storedDefault name c
  let columns := t.columns ++ [⟨name, c⟩]
  if c.isIdentity then
    .ok { table := { t with columns, rows := numbered name 0 t.rows }
          counter := some (name, Int64.ofNat t.rows.length) }
  else if requiresValue c && default.isNull && !t.rows.isEmpty then
    .error (notNullViolation table name)
  else
    .ok { a with table := { t with columns, rows := t.rows.map (·.insert name default) } }

/-- One column less, and with it every index over it. -/
def Altered.dropColumn (a : Altered) (name : String) : Outcome Altered := do
  let t := a.table
  let _ ← t.requireColumn name
  .ok
    { table :=
        { t with
          columns := t.columns.filter (·.name ≠ name)
          rows := t.rows.map (·.erase name)
          indexes := t.indexes.filter fun _ index => !index.columns.contains name }
      counter := a.counter.filter (·.1 ≠ name) }

/-- Another definition of a column, its values stored anew. -/
def Altered.modifyColumn (a : Altered) (table name : String) (c : Column) : Outcome Altered := do
  let t := a.table
  let _ ← t.requireColumn name
  let rows ← t.rows.mapM fun row =>
    (storedValue table name c (row.at name)).map (row.insert name)
  .ok { a with table := { t with columns := Schema.withColumn t.columns name c, rows } }

/-- One change. -/
def Altered.apply (table : String) (a : Altered) : Alteration → Outcome Altered
  | .add name c => a.addColumn table name c
  | .drop name => a.dropColumn name
  | .modify name c => a.modifyColumn table name c

/-- A table after a list of changes, with the counter of its identity. -/
def Table.altered (t : Table) (config : Config) (table : String) (last : Int64)
    (alterations : List Alteration) : Outcome Altered := do
  let start : Altered := ⟨t, t.identity?.map fun d => (d.name, last)⟩
  let a ← alterations.foldlM (Altered.apply table) start
  Table.checkColumns t.name a.table.columns
  if config.enforceUnique then a.table.checkUniqueAll
  .ok { a with table := a.table.reindexed }

/-- Change the columns of a table. -/
def alterTable (config : Config) (table : String) (alterations : List Alteration) :
    Step Result := do
  let t ← Step.table table
  let a ← Step.lift (t.altered config table ((← get).lastIdentity table t) alterations)
  -- a counter of a column that is no longer the identity is forgotten
  modify (·.withoutCounters table)
  modify (·.withCounter? table a.counter)
  modify (·.withTable table a.table)
  pure Result.done

/-! ## Statements -/

/-- Run a statement. -/
def apply (config : Config) (params : List Value) : Statement → Step Result
  | .createTable table columns ifNotExists => createTable table columns ifNotExists
  | .createIndex table index columns unique ifNotExists =>
    createIndex config table index columns unique ifNotExists
  | .insert table columns values => insert config params table columns values
  | .select s => select config params s
  | .update table assignments filter => update config params table assignments filter
  | .delete table filter => delete config params table filter
  | .alterTable table alterations => alterTable config table alterations
  | .dropTable table ifExists => dropTable table ifExists
  | .dropIndex table index ifExists => dropIndex table index ifExists

namespace Store

/-- What a statement comes to, with the store behind it. -/
def run (s : Store) (config : Config) (statement : Statement) (params : List Value) :
    Outcome Result × Store :=
  (apply config params statement).outcome s

/-- The table of a name, which must be there. -/
def requireTable (s : Store) (table : String) : Outcome Table :=
  match s.tables.get? table with
  | some t => .ok t
  | none => .error (tableNotFound table)

/-- The rows under a key of an index, in their order. Each column of the index takes the value at
its first place among the columns; a missing value counts as `null`. -/
def indexLookup (s : Store) (table index : String) (key : List Value) : Outcome (List Row) := do
  let t ← s.requireTable table
  match t.indexes.get? index with
  | none => .error (ExecutionError.indexNotFound table index)
  | some i =>
    let k := Rows.keyOf (i.columns.map fun c => (key[i.columns.idxOf c]?).getD .null)
    .ok ((i.lookup k).filterMap fun position => t.rows[position]?)

/-- The names of the indexes of a table. -/
def indexNames (s : Store) (table : String) : Outcome (List String) := do
  let t ← s.requireTable table
  .ok t.indexes.keys

/-- The names of the tables. -/
def tableNames (s : Store) : List String := s.tables.keys

end Store

end Polystore.Relational
