import Polystore.Rows

/-!
# Indexes

An index groups the rows of a table by their composite key over some columns: it gives for every
key the positions of the rows that have it, in ascending order.
-/

namespace Polystore

/-- The composite key of a row over columns. A column that the row lacks counts as `null`. -/
def Row.key (columns : List String) (row : Row) : String := Rows.key Row.at columns row

/-- Whether a row holds nothing but `null` in columns. -/
def Row.isBlankIn (columns : List String) (row : Row) : Bool :=
  columns.all fun c => (row.at c).isNull

/-- The first key, not exempt, that is in `seen` or that two rows have. Rows that are blank in the
columns are exempt. -/
def firstRepeated (columns : List String) (seen : List String) : List Row → Option String
  | [] => none
  | row :: rest =>
    if row.isBlankIn columns then firstRepeated columns seen rest
    else
      let k := row.key columns
      if seen.contains k then some k else firstRepeated columns (k :: seen) rest

/-- An index over some columns. -/
structure Index where
  columns : List String
  /-- Whether no two rows may have one key. -/
  unique : Bool
  /-- The positions of the rows by their keys. -/
  entries : TextMap (List Nat)

namespace Index

/-- The positions under a key. -/
def lookup (index : Index) (key : String) : List Nat := (index.entries.get? key).getD []

/-- The index with one more row at a position behind all others. -/
def add (index : Index) (position : Nat) (row : Row) : Index :=
  let k := row.key index.columns
  { index with entries := index.entries.insert k (index.lookup k ++ [position]) }

/-- The index with rows added from a position on. -/
def addFrom (index : Index) (position : Nat) : List Row → Index
  | [] => index
  | row :: rest => (index.add position row).addFrom (position + 1) rest

/-- The index of rows. -/
def build (columns : List String) (unique : Bool) (rows : List Row) : Index :=
  (Index.mk columns unique TextMap.empty).addFrom 0 rows

/-- The same index, made anew of other rows. -/
def rebuilt (index : Index) (rows : List Row) : Index := build index.columns index.unique rows

/-! ## The columns of an index stay -/

@[simp] theorem columns_addFrom (index : Index) (n : Nat) (rows : List Row) :
    (index.addFrom n rows).columns = index.columns := by
  induction rows generalizing index n with
  | nil => rfl
  | cons row rest ih => exact ih (index.add n row) (n + 1)

@[simp] theorem unique_addFrom (index : Index) (n : Nat) (rows : List Row) :
    (index.addFrom n rows).unique = index.unique := by
  induction rows generalizing index n with
  | nil => rfl
  | cons row rest ih => exact ih (index.add n row) (n + 1)

@[simp] theorem columns_build (columns : List String) (unique : Bool) (rows : List Row) :
    (build columns unique rows).columns = columns :=
  columns_addFrom _ 0 rows

@[simp] theorem unique_build (columns : List String) (unique : Bool) (rows : List Row) :
    (build columns unique rows).unique = unique :=
  unique_addFrom _ 0 rows

@[simp] theorem columns_rebuilt (index : Index) (rows : List Row) :
    (index.rebuilt rows).columns = index.columns :=
  columns_build _ _ rows

@[simp] theorem unique_rebuilt (index : Index) (rows : List Row) :
    (index.rebuilt rows).unique = index.unique :=
  unique_build _ _ rows

end Index

end Polystore
