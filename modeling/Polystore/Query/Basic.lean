import Polystore.Column.Basic
import Polystore.Condition.Basic

/-!
# Queries

What a caller asks of a database, in words that every data model understands. The same query is
compiled to a statement on tables, to an operation on a collection of documents, or to one on a
bucket of keyed entries.
-/

namespace Polystore

/-- The direction of a sort. -/
inductive Direction where
  | ascending
  | descending
deriving DecidableEq

/-- A field to sort by. -/
structure SortKey where
  field : String
  direction : Direction
deriving DecidableEq

/-- A change of the columns of a table. -/
inductive Alteration where
  /-- Add a column. -/
  | add (name : String) (column : Column)
  /-- Drop a column. -/
  | drop (name : String)
  /-- Give a column another definition. -/
  | modify (name : String) (column : Column)

/-- The name of the column that is changed. -/
def Alteration.columnName : Alteration → String
  | .add name _ => name
  | .drop name => name
  | .modify name _ => name

/-- Which rows to read, and how to present them. -/
structure Selection where
  table : String
  /-- The rows to read, or all of them. -/
  conditions : Option Condition
  /-- The fields to show; none and an empty list show all. -/
  fields : Option (List String)
  orderings : List SortKey
  groupings : List String
  /-- How many rows to show at most. -/
  limit : Option UInt64
  /-- How many rows to pass over. -/
  offset : Option UInt64

namespace Selection

/-- All rows of a table. -/
def everything (table : String) : Selection :=
  { table, conditions := none, fields := none, orderings := [], groupings := [], limit := none
    offset := none }

/-- The selection with a condition. -/
def filtered (s : Selection) (c : Condition) : Selection := { s with conditions := some c }

/-- The selection of some fields. -/
def showing (s : Selection) (fields : List String) : Selection := { s with fields := some fields }

/-- The selection with one more field to sort by. -/
def orderedBy (s : Selection) (field : String) (direction : Direction) : Selection :=
  { s with orderings := s.orderings ++ [⟨field, direction⟩] }

/-- The selection with one more field to group by. -/
def groupedBy (s : Selection) (field : String) : Selection :=
  { s with groupings := s.groupings ++ [field] }

/-- The selection of the first rows only. -/
def limitedTo (s : Selection) (n : UInt64) : Selection := { s with limit := some n }

/-- The selection without the first rows. -/
def skipping (s : Selection) (n : UInt64) : Selection := { s with offset := some n }

end Selection

/-- What a caller asks of a database. -/
inductive Query where
  /-- Make a table. -/
  | create (table : String) (schema : Schema)
  /-- Read rows. -/
  | select (selection : Selection)
  /-- Add one row. -/
  | insert (table : String) (data : Row)
  /-- Set fields of the rows that meet a condition. -/
  | update (table : String) (changes : Row) (conditions : Option Condition)
  /-- Remove the rows that meet a condition. -/
  | delete (table : String) (conditions : Option Condition)
  /-- Change the columns. -/
  | alter (table : String) (alterations : List Alteration)
  /-- Remove a table. -/
  | dropTable (table : String)
  /-- Remove an index. -/
  | dropIndex (table index : String)
  /-- Make an index. -/
  | createIndex (table index : String) (columns : List String) (unique : Bool)

namespace Query

/-- The table that a query is about. -/
def table : Query → String
  | .create t _ => t
  | .select s => s.table
  | .insert t _ => t
  | .update t _ _ => t
  | .delete t _ => t
  | .alter t _ => t
  | .dropTable t => t
  | .dropIndex t _ => t
  | .createIndex t _ _ _ => t

/-- The name of the kind of query. -/
def kindName : Query → String
  | .create _ _ => "create"
  | .select _ => "select"
  | .insert _ _ => "insert"
  | .update _ _ _ => "update"
  | .delete _ _ => "delete"
  | .alter _ _ => "alter"
  | .dropTable _ => "drop_table"
  | .dropIndex _ _ => "drop_index"
  | .createIndex _ _ _ _ => "create_index"

end Query

/-- A compiled query with the values that it binds, in the order of their places. -/
structure Bound (α : Type) where
  query : α
  params : List Value

/-- What the execution of a query brings. -/
structure Result where
  /-- The rows read. -/
  rows : List Row
  /-- How many rows were added, changed or removed. -/
  affected : Nat
  /-- The identity of an added row. -/
  insertId : Option Value

namespace Result

/-- Nothing to report. -/
def done : Result := ⟨[], 0, none⟩

/-- Rows that were read. -/
def ofRows (rows : List Row) : Result := ⟨rows, 0, none⟩

/-- A number of rows that were changed. -/
def ofAffected (n : Nat) : Result := ⟨[], n, none⟩

end Result

end Polystore
