import Mathlib
import Polystore.Proofs.Relational.Modified

/-!
# A column made one of text and back

Integers, truth values and instants have texts that spell them, and a column of their type reads its
values from those texts. Keys are made of the same texts, so nothing that must be distinct is in the
way of a statement that makes the column one of text, nor of the one that undoes it.
-/

namespace Polystore.Relational

section

variable {s : Store} {config : Config} {table : String} {t : Table} {d : ColumnDef}

/-- What a column of such a type holds is spelled by its text, if the years of instants have four
digits. -/
theorem spells_stored (typed : t.Typed) (there : d ∈ t.columns)
    (listed : d.column.type ∈ ColumnType.spelled)
    (counts : d.column.isIdentity = true → d.column.type = .integer)
    (years : ∀ row ∈ t.rows, ∀ i, row.at d.name = .date i → i.HasPlainYear) :
    ∀ row ∈ t.rows, d.column.type.spells (row.at d.name) = true := by
  intro row hr
  obtain ⟨v, stored⟩ := typed.exists_convert there counts hr
  rcases ColumnType.represents_of_convert stored with null | represented
  · rw [null, ColumnType.spells]
  · exact ColumnType.spells_of_represents listed represented (years row hr)

/-- A column whose values their texts spell can be made one of text, and that one the column that it
was. -/
theorem modified_to_text_and_back (sound : Sound config t) (found : s.tables.get? table = some t)
    (there : d ∈ t.columns)
    (spelled : ∀ row ∈ t.rows, d.column.type.spells (row.at d.name) = true)
    (params later : List Value) :
    ∃ s₁, s.run config
          (.alterTable table [.modify d.name { d.column with type := .text }]) params =
        (.ok Result.done, s₁) ∧
      ∃ s₂, s₁.run config (.alterTable table [.modify d.name d.column]) later =
          (.ok Result.done, s₂) ∧
        Restored s s₂ table t := by
  have wellFormed := sound.typed.toWellFormed
  have kept : t.KeptAs d .text := fun row hr => by
    obtain ⟨w, stored, -, keyText, isNull⟩ := ColumnType.convert_text_and_back (spelled row hr)
    exact .of_convert stored keyText isNull
  have made := Table.altered_retyped table wellFormed there kept sound.distinct
    (s.lastIdentity table t)
  refine ⟨_, run_alterTable found made params, ?_⟩
  -- the column of text in the table that the first statement leaves
  let u : Table := (t.retyped d .text).reindexed
  let e : ColumnDef := ⟨d.name, { d.column with type := .text }⟩
  have wellFormed' : u.WellFormed := (Table.wellFormed_kept config).altered wellFormed made
  have there' : e ∈ u.columns := Schema.mem_of_column? Schema.column?_withColumn_self
  have distinct' : config.enforceUnique = true → u.Distinct := fun enforced =>
    (Table.distinct_kept enforced).altered (sound.distinct enforced) made
  have back : ∀ row ∈ t.rows, d.column.type.Keeps (ColumnType.text.recast (row.at d.name)) ∧
      d.column.type.recast (ColumnType.text.recast (row.at d.name)) = row.at d.name := by
    intro row hr
    obtain ⟨w, stored, again, keyText, isNull⟩ :=
      ColumnType.convert_text_and_back (spelled row hr)
    rw [ColumnType.recast_of_convert stored]
    exact ⟨.of_convert again keyText.symm isNull.symm, ColumnType.recast_of_convert again⟩
  have kept' : u.KeptAs e d.column.type := by
    intro row hr
    obtain ⟨old, ho, rfl⟩ := List.mem_map.mp hr
    rw [Row.at_insert_self]
    exact (back old ho).1
  have whole : (u.retyped e d.column.type).reindexed = t :=
    Table.retyped_back wellFormed sound.indexed there fun row hr => (back row hr).2
  have made' (last : Int64) : u.altered config table last [.modify d.name d.column] =
      .ok ⟨t, (u.start last).counter⟩ := by
    have step := Table.altered_retyped table wellFormed' there' kept' distinct' last
    rw [whole] at step
    exact step
  refine restored_of_altered (TextMap.get?_insert_self ..) (made' _) ?tables
    (fun other column ne => Store.counter_altered_of_ne ne ..) (fun i hi identity => ?counter) later
  case tables =>
    rw [Store.withTable, Store.tables_withCounter?, Store.tables_withoutCounters,
      TextMap.insert_insert, TextMap.insert_of_get? found]
  case counter =>
    have marks := Table.map_columns_retyped (g := fun d => (d.name, d.column.isIdentity)) .text
      wellFormed there rfl
    have marked := List.mem_map_of_mem (f := fun d => (d.name, d.column.isIdentity)) hi
    rw [← marks] at marked
    obtain ⟨j, hj, same⟩ := List.mem_map.mp marked
    obtain ⟨named, alike⟩ := Prod.mk.inj same
    rw [counter_start_of_mem wellFormed' hj (alike.trans identity), named,
      counter_start_of_mem wellFormed hi identity, Store.counter_altered]

end

/-- The last nanosecond of 1969. -/
def lastOf1969 : Calendar.Instant := { seconds := -1, nanos := 999999999 }

/-- A column of instants. -/
def visitTime : ColumnDef := ⟨"time", (Column.ofType .date).asUnique⟩

/-- The columns of visits. -/
def visitColumns : List ColumnDef :=
  [⟨"id", (Column.ofType .integer).asPrimary.counting⟩, visitTime]

/-- A store with one visit. -/
def visited : Store :=
  Store.empty.afterAll <|
    ([.createTable "visits" visitColumns false,
      .insert "visits" ["time"] [.literal (.date lastOf1969)]] : List Statement).map
        (⟨.standard, ·, []⟩)

/-- The table of one visit. -/
def visit : Table :=
  { name := "visits"
    columns := visitColumns
    rows := [TextMap.ofList [("id", .int 1), ("time", .date lastOf1969)]]
    indexes := TextMap.empty }

end Polystore.Relational
