import Polystore.Query.Basic
import Polystore.Value.Compare

/-!
# Presenting rows

The rows that a read finds are reduced to the first of each group, sorted, and cut to a page, in
this order. How the value of a field is read from a row, and how a sort key orders two rows, is left
to the store, and which sort rearranges the rows by that order is left open as well.
-/

namespace Polystore.Rows

/-- How the value of a field is read from a row. -/
abbrev Reader := Row → String → Value

/-- How two rows are ordered by one sort key. -/
abbrev KeyOrder := SortKey → Row → Row → Ordering

/-- How rows are rearranged by a comparison of two. -/
abbrev Sorting := (Row → Row → Ordering) → List Row → List Row

/-- The character between the values of a composite key: the unit separator. -/
def keySeparator : String := "\u001f"

/-- The composite key of values. -/
def keyOf (values : List Value) : String :=
  Text.joined keySeparator (values.map Value.keyText)

/-- The composite key of a row over some fields. -/
def key (read : Reader) (fields : List String) (row : Row) : String :=
  keyOf (fields.map (read row))

/-- The rows whose key is not among those in `seen` or of a row before. -/
def firstOfEach (keyOfRow : Row → String) (seen : List String) : List Row → List Row
  | [] => []
  | row :: rest =>
    let k := keyOfRow row
    if seen.contains k then firstOfEach keyOfRow seen rest
    else row :: firstOfEach keyOfRow (k :: seen) rest

/-- The first row of each group; without fields to group by every row is its own group. -/
def grouped (read : Reader) (fields : List String) (rows : List Row) : List Row :=
  if fields.isEmpty then rows else firstOfEach (key read fields) [] rows

/-- The order of two rows by sort keys, the first key that tells them apart deciding. -/
def compareBy (order : KeyOrder) : List SortKey → Row → Row → Ordering
  | [], _, _ => .eq
  | k :: rest, a, b =>
    let o := order k a b
    if o == .eq then compareBy order rest a b else o

/-- Sorted rows, the last of them first, with one more row: it goes behind the last row that it does
not come before. -/
def placed (before : Row → Row → Bool) (row : Row) : List Row → List Row
  | [] => [row]
  | last :: rest =>
    if before row last then last :: placed before row rest else row :: last :: rest

/-- The row is added and no other is lost. -/
theorem placed_perm (before : Row → Row → Bool) (row : Row) (done : List Row) :
    (placed before row done).Perm (row :: done) := by
  induction done with
  | nil => exact List.Perm.refl _
  | cons last rest ih =>
    rw [placed]
    split
    · exact (ih.cons last).trans (List.Perm.swap row last rest)
    · exact List.Perm.refl _

/-- The rows placed one after the other. -/
def inserted (compare : Row → Row → Ordering) (rows : List Row) : List Row :=
  (rows.foldl (fun done row => placed (fun a b => compare a b == .lt) row done) []).reverse

/-- The rows in the order of sort keys; rows that tie stay in their order. This is meant only for
keys that put the rows in order: a text ties with every number, but the numbers do not tie among
themselves, and where ties do not carry over from pair to pair, sorts differ in what they make of
the rows. -/
def sorted (order : KeyOrder) (keys : List SortKey) (rows : List Row) : List Row :=
  inserted (compareBy order keys) rows

theorem foldl_placed_perm (before : Row → Row → Bool) (rows done : List Row) :
    (rows.foldl (fun done row => placed before row done) done).Perm (rows ++ done) := by
  induction rows generalizing done with
  | nil => exact List.Perm.refl _
  | cons row rest ih =>
    exact (ih (placed before row done)).trans
      (((placed_perm before row done).append_left rest).trans List.perm_middle)

theorem inserted_perm (compare : Row → Row → Ordering) (rows : List Row) :
    (inserted compare rows).Perm rows := by
  have h := foldl_placed_perm (fun a b => compare a b == .lt) rows []
  rw [List.append_nil] at h
  exact (List.reverse_perm _).trans h

/-- Sorting rearranges the rows. -/
theorem sorted_perm (order : KeyOrder) (keys : List SortKey) (rows : List Row) :
    (sorted order keys rows).Perm rows := inserted_perm _ rows

/-- The rows behind an offset, at most a limit of them. -/
def page (offset limit : Option UInt64) (rows : List Row) : List Row :=
  let rest := match offset with
    | some n => rows.drop n.toNat
    | none => rows
  match limit with
  | some n => rest.take n.toNat
  | none => rest

/-- The page of the sorted first rows of each group. -/
def presented (sort : Sorting) (read : Reader) (order : KeyOrder) (groupBy : List String)
    (orderBy : List SortKey) (offset limit : Option UInt64) (rows : List Row) : List Row :=
  page offset limit (sort (compareBy order orderBy) (grouped read groupBy rows))

end Polystore.Rows
