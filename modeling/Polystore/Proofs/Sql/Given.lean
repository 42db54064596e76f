import Polystore.Proofs.Sql.Faithful
import Polystore.Proofs.Sql.Numbered

/-!
# Written values stay values

Insertions and updates without a filter write values and nothing else. Whatever the texts among the
values hold, quotes and backslashes, commas and parentheses, words that start clauses, the statement
that is read is the one that was written: no text ends its literal early, comes apart into two
values or becomes a clause.
-/

namespace Polystore

open Operand

namespace Statement

/-- The statement writes values into columns of a table and does not choose among its rows: an
insertion, or an update of every row in at least one column. -/
inductive Writes : Statement → String → List String → List Operand → Prop
  | insert (table : String) (columns : List String) (values : List Operand) :
    Writes (.insert table columns values) table columns values
  | update (table : String) {assignments : List (String × Operand)} (filled : assignments ≠ []) :
    Writes (.update table assignments none) table (assignments.map (·.1))
      (assignments.map (·.2))

end Statement

namespace Operand

theorem itemLeaves_of_single {os : List Operand} (single : os.all isSingle = true) :
    itemLeaves os = os := by
  induction os with
  | nil => rfl
  | cons o rest ih =>
    obtain ⟨here, behind⟩ := Bool.and_eq_true_iff.mp single
    rw [itemLeaves, ih behind]
    cases o with
    | list items => cases here
    | _ => rfl

/-- Single places with plain literals whose parameters are all the numbers from zero can be written
one after the other. -/
theorem allWritten_of_range {os : List Operand} {count : Nat} (single : os.all isSingle = true)
    (plain : ∀ v, Operand.literal v ∈ os → v.isPlain = true)
    (numbered : os.filterMap index? = List.range count) : AllWritten 0 os count := by
  have numbers : Consecutive 0 count (os.filterMap index?) :=
    ⟨Nat.zero_le count, by rw [numbered, Nat.sub_zero, List.range_eq_range']⟩
  refine InOrder.allWritten single ?_
  rw [itemLeaves_of_single single]
  exact ⟨plain, numbers⟩

end Operand

namespace Sql

variable {st : Statement} {table : String} {columns : List String} {places : List Operand}

/-- **Written values are read back as they are.** An insertion, and an update without a filter, has
a text, and what is read from the text is exactly the statement. -/
theorem written_values_read_back {count : Nat} (writes : st.Writes table columns places)
    (plainTable : isPlainName table = true)
    (plainColumns : ∀ name ∈ columns, isPlainName name = true)
    (single : places.all isSingle = true)
    (plain : ∀ v, Operand.literal v ∈ places → v.isPlain = true)
    (numbered : places.filterMap index? = List.range count) :
    ∃ text, st.render Formatter.memory = .ok text ∧ readStatement text = .ok st := by
  have htable := quotable_of_plain plainTable
  have written := allWritten_of_range single plain numbered
  cases writes with
  | insert =>
    exact readStatement_insert htable (fun name hn => quotable_of_plain (plainColumns name hn))
      (fun name hn => paren_not_mem_of_plain (plainColumns name hn)) written
  | update _ filled =>
    refine readStatement_update htable filled (fun s hs => ?_) written fun p hp => nomatch hp
    exact quotable_of_plain (plainColumns s.1 (List.mem_map_of_mem hs))

/-- Values between two parameters that look like the end of a literal, like more values and like
clauses, in columns whose names are keywords. -/
def impostors : List (String × Operand) :=
  [("a", .param 0), ("values", .literal (.text "'), ('\\")),
    ("where", .literal (.text "\\' WHERE '' = ''; --")), ("set", .literal (.text "?, NULL\n")),
    ("b", .literal .null), ("c", .literal (.bool true)), ("d", .literal (.int (-1))),
    ("e", .param 1)]

theorem written_values_read_back_impostors :
    (∃ text,
      (Statement.update "update" impostors none).render Formatter.memory = .ok text ∧
        readStatement text = .ok (.update "update" impostors none)) ∧
    ∃ text,
      (Statement.insert "into" ["a", "values"] (impostors.map (·.2))).render Formatter.memory =
          .ok text ∧
        readStatement text = .ok (.insert "into" ["a", "values"] (impostors.map (·.2))) := by
  have plain : ∀ v, Operand.literal v ∈ impostors.map (·.2) → v.isPlain = true := by
    intro v hv
    simp only [impostors, List.map_cons, List.map_nil, List.mem_cons, List.not_mem_nil,
      reduceCtorEq, false_or, or_false, Operand.literal.injEq] at hv
    rcases hv with rfl | rfl | rfl | rfl | rfl | rfl <;> rfl
  have numbered : (impostors.map (·.2)).filterMap index? = List.range 2 := rfl
  exact ⟨written_values_read_back (.update "update" (List.cons_ne_nil _ _)) (by decide) (by decide)
      rfl plain numbered,
    written_values_read_back (.insert "into" ["a", "values"] _) (by decide) (by decide) rfl plain
      numbered⟩

end Sql

end Polystore
