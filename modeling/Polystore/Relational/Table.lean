import Polystore.Column.Coerce
import Polystore.Index
import Polystore.Statement.Holds

/-!
# Tables

A table has columns, rows in the order in which they were added, and indexes by name. No two
columns have one name and at most one counts up. A row holds a value for every column.

Values are kept distinct in every primary column, in every unique column, and over the columns of
every unique index; rows that are blank there are exempt.
-/

namespace Polystore.Relational

/-- How tables are kept. -/
structure Config where
  /-- Whether duplicates are refused. -/
  enforceUnique : Bool
  /-- Whether patterns tell capital from small letters. -/
  caseSensitiveLike : Bool
deriving DecidableEq

/-- Duplicates are refused, and patterns pass over the case of letters. -/
def Config.standard : Config := ⟨true, false⟩

/-- A table. -/
structure Table where
  name : String
  columns : List ColumnDef
  rows : List Row
  indexes : TextMap Index

/-- The error of a table that is not there. -/
def tableNotFound (table : String) : Error := ExecutionError.tableNotFound table

/-- The error of a `null` where none may be. -/
def notNullViolation (table column : String) : Error :=
  ExecutionError.constraintViolation table ("column " ++ column ++ " cannot be null")

/-- Whether a column refuses `null`. -/
def requiresValue (c : Column) : Bool := !c.nullable || c.primary

/-- The value that a column stores for a given one; `null` counts only where it may be. -/
def storedValue (table : String) (name : String) (c : Column) (v : Value) : Outcome Value := do
  let w ← c.type.coerce name v
  if requiresValue c && w.isNull then .error (notNullViolation table name) else .ok w

/-- The default of a column as it is stored. -/
def storedDefault (name : String) (c : Column) : Outcome Value :=
  match c.default with
  | some v => c.type.coerce name v
  | none => .ok .null

namespace Table

/-- The first column name that a column further in front has as well. -/
def repeatedColumn (seen : List String) : List ColumnDef → Option String
  | [] => none
  | d :: rest =>
    if seen.contains d.name then some d.name else repeatedColumn (d.name :: seen) rest

/-- Whether columns can make up a table: one of them at most counts up, and no name occurs twice. -/
def checkColumns (table : String) (columns : List ColumnDef) : Outcome Unit :=
  if 1 < (columns.filter (·.column.autoIncrement)).length then
    .error (ExecutionError.multipleAutoIncrement table)
  else
    match repeatedColumn [] columns with
    | some name => .error (ExecutionError.columnExists table name)
    | none => .ok ()

/-- The column of a name. -/
def column? (t : Table) (name : String) : Option Column := Schema.column? t.columns name

/-- The column of a name, which must be there. -/
def requireColumn (t : Table) (name : String) : Outcome Column :=
  match t.column? name with
  | some c => .ok c
  | none => .error (ExecutionError.columnNotFound t.name name)

/-- All columns of a list of names must be there. -/
def requireColumns (t : Table) : List String → Outcome Unit
  | [] => .ok ()
  | name :: rest => do
    let _ ← t.requireColumn name
    t.requireColumns rest

/-- The column that receives generated numbers. -/
def identity? (t : Table) : Option ColumnDef := t.columns.find? (·.column.isIdentity)

/-- The table with its indexes made anew. -/
def reindexed (t : Table) : Table := { t with indexes := t.indexes.map (·.rebuilt t.rows) }

/-- The table with one more row. -/
def push (t : Table) (row : Row) : Table :=
  { t with
    rows := t.rows ++ [row]
    indexes := t.indexes.map (·.add t.rows.length row) }

/-! ## Distinct values -/

/-- What must be distinct: the columns, under the name that errors give them. -/
def uniqueSets (t : Table) : List (String × List String) :=
  ((t.columns.filter fun d => d.column.primary || d.column.unique).map fun d =>
      (d.name, [d.name])) ++
    ((t.indexes.entries.filter (·.2.unique)).map fun b => (b.1, b.2.columns))

/-- The error of two rows with one key. -/
def duplicate (t : Table) (label key : String) : Error :=
  let shown := String.ofList (key.toList.flatMap fun c => if c == '\x1f' then [',', ' '] else [c])
  ExecutionError.constraintViolation t.name
    ("duplicate value '" ++ shown ++ "' for unique key " ++ label)

/-- A row must have no key in common with a row of the table. -/
def checkRowAgainst (t : Table) (candidate : Row) : List (String × List String) → Outcome Unit
  | [] => .ok ()
  | (label, columns) :: rest =>
    if candidate.isBlankIn columns then t.checkRowAgainst candidate rest
    else
      let k := candidate.key columns
      if t.rows.any fun row => row.key columns == k then .error (t.duplicate label k)
      else t.checkRowAgainst candidate rest

/-- A row to be added must repeat nothing that must be distinct. -/
def checkUniqueRow (t : Table) (candidate : Row) : Outcome Unit :=
  t.checkRowAgainst candidate t.uniqueSets

/-- No two rows of the table may have one key. -/
def checkSets (t : Table) : List (String × List String) → Outcome Unit
  | [] => .ok ()
  | (label, columns) :: rest =>
    match firstRepeated columns [] t.rows with
    | some k => .error (t.duplicate label k)
    | none => t.checkSets rest

/-- The rows of the table must repeat nothing that must be distinct. -/
def checkUniqueAll (t : Table) : Outcome Unit := t.checkSets t.uniqueSets

/-! ## Rows that meet a filter -/

/-- The columns that a filter reads must be there. -/
def checkFilter (t : Table) (filter : Option Predicate) : Outcome Unit :=
  match filter with
  | none => .ok ()
  | some p => t.requireColumns p.columns

/-- Every row with the mark whether it meets a filter. -/
def marked (t : Table) (config : Config) (params : List Value) (filter : Option Predicate) :
    Outcome (List (Row × Bool)) := do
  t.checkFilter filter
  t.rows.mapM fun row =>
    (meets params config.caseSensitiveLike filter row).map fun m => (row, m)

end Table

/-- How many rows are marked. -/
def markedCount (rows : List (Row × Bool)) : Nat := (rows.filter (·.2)).length

end Polystore.Relational
