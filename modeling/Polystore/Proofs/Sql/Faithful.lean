import Polystore.Proofs.Query.Names
import Polystore.Proofs.Sql.Compiled
import Polystore.Proofs.Sql.Reads
import Polystore.Relational.Store

/-!
# Text is a faithful detour

A query with plain names that defines no columns compiles to a statement whose text can be read.
What is read is the statement with its filter as it is read back, which is another predicate but
evaluates alike and requires the same columns. On every store both statements therefore come to the
same, and leave the same store behind.
-/

namespace Polystore

open Outcome

/-! ## Statements as they are read back -/

namespace Statement

/-- The filter of a statement. -/
def filter? : Statement → Option Predicate
  | .select s => s.filter
  | .update _ _ filter => filter
  | .delete _ filter => filter
  | _ => none

/-- The statement as it is read back from its text. -/
def reread : Statement → Statement
  | .select s => .select { s with filter := s.filter.map Predicate.reread }
  | .update table assignments filter => .update table assignments (filter.map Predicate.reread)
  | .delete table filter => .delete table (filter.map Predicate.reread)
  | s => s

end Statement

namespace Relational

theorem meets_reread (params : List Value) (caseSensitive : Bool) (filter : Option Predicate)
    (row : Row) :
    meets params caseSensitive (filter.map Predicate.reread) row =
      meets params caseSensitive filter row := by
  cases filter with
  | none => rfl
  | some p => exact Predicate.holds_reread params caseSensitive row p

theorem Table.checkFilter_reread {filter : Option Predicate} (h : ∀ p ∈ filter, p.filled = true)
    (t : Table) : t.checkFilter (filter.map Predicate.reread) = t.checkFilter filter := by
  cases filter with
  | none => rfl
  | some p =>
    show t.requireColumns p.reread.columns = t.requireColumns p.columns
    rw [Predicate.columns_reread (h p rfl)]

/-- A filter that is read back marks the same rows, or fails alike. -/
theorem Table.marked_reread {filter : Option Predicate} (h : ∀ p ∈ filter, p.filled = true)
    (t : Table) (config : Relational.Config) (params : List Value) :
    t.marked config params (filter.map Predicate.reread) = t.marked config params filter := by
  simp only [Table.marked, t.checkFilter_reread h, meets_reread]

/-- A statement that is read back comes to the same on every store. -/
theorem run_reread {st : Statement} (h : ∀ p ∈ st.filter?, p.filled = true) (s : Store)
    (config : Relational.Config) (params : List Value) :
    s.run config st.reread params = s.run config st params := by
  cases st with
  | select read =>
    have filled : ∀ p ∈ read.filter, p.filled = true := h
    simp only [Store.run, Statement.reread, apply, select, Table.select,
      Table.selectBy, Table.marked_reread filled]
  | update table assignments filter =>
    have filled : ∀ p ∈ filter, p.filled = true := h
    simp only [Store.run, Statement.reread, apply, update, Table.marked_reread filled]
  | delete table filter =>
    have filled : ∀ p ∈ filter, p.filled = true := h
    simp only [Store.run, Statement.reread, apply, delete, Table.marked_reread filled]
  | _ => rfl

end Relational

/-! ## Compiled statements -/

namespace Sql

theorem quotable_of_plain {name : String} (h : isPlainName name = true) : Quotable name := by
  intro mem
  exact absurd (isPlainChar_of_mem h _ mem) (by decide)

theorem paren_not_mem_of_plain {name : String} (h : isPlainName name = true) :
    ')' ∉ name.toList := by
  intro mem
  exact absurd (isPlainChar_of_mem h _ mem) (by decide)

theorem unbroken_of_plain {name : String} (h : isPlainName name = true) : Unbroken name :=
  fun c hc => isPlainChar_not_blank (isPlainChar_of_mem h c hc)

/-- The text of a statement reads as the statement as it is read back, whose filter leaves no list
empty. -/
structure Readable (st : Statement) : Prop where
  read : ∃ text, st.render Formatter.memory = .ok text ∧ readStatement text = .ok st.reread
  filled : ∀ p ∈ st.filter?, p.filled = true

open Relational

/-- What a condition on plain names compiles to can be written and leaves no list empty. -/
theorem filter_facts {first : Nat} {c : Option Condition} {filter : Option Predicate}
    {bound : List Value} (plain : ∀ name ∈ c.elim [] Condition.names, isPlainName name = true)
    (h : compileFilter first c = .ok (filter, bound)) :
    (∀ p ∈ filter, ∃ b, p.Written first b) ∧ ∀ p ∈ filter, p.filled = true := by
  have legible := legible_compileFilter (fun name hn => quotable_of_plain (plain name hn)) h
  exact ⟨fun p hp => ⟨_, (legible p hp).written⟩, fun p hp => (legible p hp).filled⟩

theorem readable_select {s : Selection} {b : Bound Statement}
    (plain : ∀ name ∈ (Query.select s).names, isPlainName name = true)
    (h : compile (.select s) = .ok b) : Readable b.query := by
  obtain ⟨⟨filter, bound⟩, hfilter, h⟩ := bind_eq_ok.mp h
  cases h
  have table : isPlainName s.table = true := plain _ List.mem_cons_self
  have field : ∀ name ∈ s.names, isPlainName name = true := fun name hn =>
    plain name (List.mem_cons_of_mem _ hn)
  have condition : ∀ name ∈ s.conditions.elim [] Condition.names, isPlainName name = true := by
    intro name hn
    refine field name ?_
    simp only [Selection.names, List.mem_append]
    exact .inl (.inl (.inl hn))
  obtain ⟨written, filled⟩ := filter_facts condition hfilter
  have named : WellNamed
      { table := s.table, fields := s.fields.getD [], filter, groupBy := s.groupings
        orderBy := s.orderings, limit := s.limit, offset := s.offset } :=
    { table := quotable_of_plain table
      fields := fun name hn =>
        have known := field name (Selection.mem_names_of_field hn)
        ⟨quotable_of_plain known, unbroken_of_plain known⟩
      groupBy := fun name hn => quotable_of_plain (field name (Selection.mem_names_of_grouping hn))
      orderBy := fun k hk => quotable_of_plain (field _ (Selection.mem_names_of_ordering hk)) }
  exact ⟨readStatement_select named written, filled⟩

theorem readable_insert {table : String} {data : Row} {b : Bound Statement}
    (plain : ∀ name ∈ (Query.insert table data).names, isPlainName name = true)
    (h : compile (.insert table data) = .ok b) : Readable b.query := by
  cases h
  have column : ∀ name ∈ data.keys, isPlainName name = true := fun name hn =>
    plain name (List.mem_cons_of_mem _ hn)
  refine ⟨?_, fun p hp => nomatch hp⟩
  exact readStatement_insert (quotable_of_plain (plain table List.mem_cons_self))
    (fun name hn => quotable_of_plain (column name hn))
    (fun name hn => paren_not_mem_of_plain (column name hn))
    (allWritten_parametersFrom 0 data.values)

theorem readable_delete {table : String} {c : Option Condition} {b : Bound Statement}
    (plain : ∀ name ∈ (Query.delete table c).names, isPlainName name = true)
    (h : compile (.delete table c) = .ok b) : Readable b.query := by
  obtain ⟨⟨filter, bound⟩, hfilter, h⟩ := bind_eq_ok.mp h
  cases h
  obtain ⟨written, filled⟩ :=
    filter_facts (fun name hn => plain name (List.mem_cons_of_mem _ hn)) hfilter
  exact ⟨readStatement_delete (quotable_of_plain (plain table List.mem_cons_self)) written, filled⟩

theorem length_parametersFrom (first : Nat) (vs : List Value) :
    (parametersFrom first vs).length = vs.length := by
  induction vs generalizing first with
  | nil => rfl
  | cons v vs ih => rw [parametersFrom, List.length_cons, ih, List.length_cons]

theorem readable_update {table : String} {changes : Row} {c : Option Condition}
    {b : Bound Statement}
    (plain : ∀ name ∈ (Query.update table changes c).names, isPlainName name = true)
    (h : compile (.update table changes c) = .ok b) : Readable b.query := by
  have filled : changes.isEmpty = false := by
    cases empty : changes.isEmpty with
    | false => rfl
    | true =>
      rw [compile, empty] at h
      cases h
  rw [compile, filled] at h
  obtain ⟨⟨filter, bound⟩, hfilter, h⟩ := bind_eq_ok.mp h
  cases h
  have known : ∀ name ∈ changes.keys ++ c.elim [] Condition.names, isPlainName name = true :=
    fun name hn => plain name (List.mem_cons_of_mem _ hn)
  obtain ⟨written, full⟩ :=
    filter_facts (fun name hn => known name (List.mem_append.mpr (.inr hn))) hfilter
  have lengths : (parametersFrom 0 changes.values).length = changes.keys.length := by
    rw [length_parametersFrom, TextMap.values, TextMap.keys, List.length_map, List.length_map]
  have places : (changes.keys.zip (parametersFrom 0 changes.values)).map (·.2) =
      parametersFrom 0 changes.values := List.map_snd_zip (Nat.le_of_eq lengths)
  have names : (changes.keys.zip (parametersFrom 0 changes.values)).map (·.1) = changes.keys :=
    List.map_fst_zip (Nat.le_of_eq lengths.symm)
  have numbered := allWritten_parametersFrom 0 changes.values
  rw [Nat.zero_add] at numbered
  rw [← places] at numbered
  refine ⟨readStatement_update (quotable_of_plain (plain table List.mem_cons_self)) ?_ ?_ numbered
    written, full⟩
  · intro nothing
    rw [nothing, List.map_nil] at names
    have something := List.isEmpty_eq_false_iff.mp filled
    exact something (List.map_eq_nil_iff.mp names.symm)
  · intro s hs
    refine quotable_of_plain (known s.1 (List.mem_append.mpr (.inl ?_)))
    rw [← names]
    exact List.mem_map_of_mem hs

/-- A query with plain names that defines no columns compiles to a readable statement. -/
theorem readable_compile {q : Query} {b : Bound Statement} (kind : q.definesColumns = false)
    (plain : ∀ name ∈ q.names, isPlainName name = true) (h : compile q = .ok b) :
    Readable b.query := by
  cases q with
  | create table schema => cases kind
  | alter table alterations => cases kind
  | select s => exact readable_select plain h
  | insert table data => exact readable_insert plain h
  | update table changes c => exact readable_update plain h
  | delete table c => exact readable_delete plain h
  | dropTable table =>
    cases h
    have name := quotable_of_plain (plain table List.mem_cons_self)
    exact ⟨⟨_, rfl, readStatement_dropTable name true⟩, fun p hp => nomatch hp⟩
  | dropIndex table index =>
    cases h
    have name := quotable_of_plain (plain table List.mem_cons_self)
    have other := quotable_of_plain (plain index (List.mem_cons_of_mem _ List.mem_cons_self))
    exact ⟨⟨_, rfl, readStatement_dropIndex other name true⟩, fun p hp => nomatch hp⟩
  | createIndex table index columns unique =>
    cases h
    have name := quotable_of_plain (plain table List.mem_cons_self)
    have other := quotable_of_plain (plain index (List.mem_cons_of_mem _ List.mem_cons_self))
    have column : ∀ c ∈ columns, Quotable c := fun c hc =>
      quotable_of_plain (plain c (List.mem_cons_of_mem _ (List.mem_cons_of_mem _ hc)))
    exact ⟨⟨_, rfl, readStatement_createIndex other name column unique true⟩,
      fun p hp => nomatch hp⟩

/-- **The text of a compiled query can be read, and what is read comes to the same as the query on
every store.** -/
theorem compiled_text_runs_alike {q : Query} {b : Bound Statement}
    (kind : q.definesColumns = false) (plain : ∀ name ∈ q.names, isPlainName name = true)
    (h : compile q = .ok b) :
    ∃ text st, b.query.render Formatter.memory = .ok text ∧ readStatement text = .ok st ∧
      ∀ (s : Store) (config : Relational.Config),
        s.run config st b.params = s.run config b.query b.params := by
  obtain ⟨⟨text, rendered, read⟩, filled⟩ := readable_compile kind plain h
  exact ⟨text, b.query.reread, rendered, read, fun s config => run_reread filled s config b.params⟩

/-- An update whose condition is written with constants for the empty list and the empty condition,
and whose nested conjunction is read back flat. -/
def promotion : Query :=
  .update "staff" (TextMap.ofList [("grade", .int 3), ("note", .text "it's done; --")])
    (some
      [.or
          [[.field "age" (.operators [(.within, .list [])])],
            [],
            [.and
                [[.field "name" (.operators [(.like, .text "O%"), (.ne, .null)])],
                  [.field "grade" (.operators [(.notWithin, .list [.int 1, .null])])]]]],
        .not [.field "left" (.equals .null)]])

theorem compiled_text_runs_alike_promotion :
    promotion.definesColumns = false ∧ (∀ name ∈ promotion.names, isPlainName name = true) ∧
      ∃ b, compile promotion = .ok b ∧
        b.params = [.int 3, .text "it's done; --", .text "O%", .int 1, .null] ∧
        ∃ text st, b.query.render Formatter.memory = .ok text ∧ readStatement text = .ok st ∧
          ∀ (s : Store) (config : Relational.Config),
            s.run config st b.params = s.run config b.query b.params := by
  have plain : ∀ name ∈ promotion.names, isPlainName name = true := by decide
  exact ⟨rfl, plain, _, rfl, rfl, compiled_text_runs_alike rfl plain rfl⟩

end Sql

end Polystore
