import Polystore.Proofs.Sql.Reread
import Polystore.Proofs.Sql.Taken
import Polystore.Proofs.Statement.Operands
import Polystore.Sql.Read

/-!
# The parameters of a statement that was read

Question marks become parameters numbered from zero in the order of the text: in front those of the
values that are written, behind them those of the filter. One number is threaded through all the
readers. A reader that begins with one number and ends with another has put the numbers between them
into what it found; that is said of one place first, then of everything that is made of places.

The bodies of `WHERE` clauses are read one after the other and the last one is kept. An update and a
removal refuse a second one. A read does not: its first filter is lost then, with its numbers, and
the parameters that are left do not begin with zero.
-/

namespace Polystore

/-! ## Numbers in predicates -/

namespace Predicate

/-- Joining puts the numbers on the right behind those on the left. -/
theorem indices_join (conjunction : Bool) (left right : Predicate) :
    (Sql.Reader.join conjunction left right).indices = left.indices ++ right.indices := by
  have operands : (Sql.Reader.join conjunction left right).operands =
      left.operands ++ right.operands :=
    flatMap_join partOperands_eq_flatMap partOperands_eq_flatMap conjunction left right
  rw [indices, operands, List.filterMap_append]
  rfl

end Predicate

namespace Sql

open Operand

variable {a b : Nat}

theorem IsValue.consecutive {t : Token} {o : Operand} (h : IsValue a t o b) :
    Consecutive a b (o.leaves.filterMap index?) := by
  cases h with
  | word _ => exact .nil a
  | param _ => exact .single a
  | quoted _ => exact .nil a

theorem AreValues.consecutive {ts : List Token} {os : List Operand} (h : AreValues a ts os b) :
    Consecutive a b ((itemLeaves os).filterMap index?) := by
  induction h with
  | one value =>
    rw [itemLeaves, itemLeaves, List.append_nil]
    exact value.consecutive
  | more value _ ih =>
    rw [itemLeaves, List.filterMap_append]
    exact value.consecutive.append ih

theorem IsList.consecutive {ts : List Token} {o : Operand} (h : IsList a ts o b) :
    Consecutive a b (o.leaves.filterMap index?) := by
  cases h with
  | empty => exact .nil a
  | filled values => exact values.consecutive

theorem IsComparison.consecutive {ts : List Token} {p : Predicate} (h : IsComparison a ts p b) :
    Consecutive a b p.indices := by
  cases h with
  | symbol _ _ value _ => exact value.consecutive
  | settled _ _ value _ => exact value.consecutive
  | null => exact .nil a
  | like _ _ _ value => exact value.consecutive
  | within _ _ _ list => exact list.consecutive
  | between _ _ _ low _ high =>
    rw [Predicate.indices, Predicate.operands, List.filterMap_append]
    exact low.consecutive.append high.consecutive

/-- The numbers in what is joined already. -/
def Part.indices : Part → List Nat
  | .more joined => joined.indices
  | _ => []

/-- What is derived has the numbers between the one in front and the one behind. -/
theorem Derives.consecutive {part : Part} {ts : List Token} {p : Predicate}
    (h : Derives part a ts p b) :
    ∃ added, p.indices = part.indices ++ added ∧ Consecutive a b added := by
  induction h with
  | comparison comparison => exact ⟨_, rfl, comparison.consecutive⟩
  | group _ ih => exact ih
  | not _ _ ih => exact ih
  | whole _ _ ihTerm ihMore =>
    obtain ⟨first, same, numbers⟩ := ihTerm
    obtain ⟨others, same', numbers'⟩ := ihMore
    refine ⟨first ++ others, ?_, numbers.append numbers'⟩
    rw [same', Part.indices, same]
    rfl
  | done a p => exact ⟨[], (List.append_nil _).symm, .nil a⟩
  | @more a b c t ts us p q r conjunction _ _ _ ihTerm ihMore =>
    -- the term on the right is joined before the others are read
    obtain ⟨right, same, numbers⟩ := ihTerm
    obtain ⟨others, same', numbers'⟩ := ihMore
    refine ⟨right ++ others, ?_, numbers.append numbers'⟩
    rw [same', Part.indices, Predicate.indices_join, same, List.append_assoc]
    rfl

theorem consecutive_of_parsePredicate {body : List Char} {p : Predicate}
    (h : parsePredicate a body = .ok (p, b)) : Consecutive a b p.indices := by
  obtain ⟨ts, _, derives⟩ := parsePredicate_eq_ok.mp h
  obtain ⟨added, same, numbers⟩ := derives.consecutive
  rw [same]
  exact numbers

/-! ## Numbers of written values -/

theorem placesFrom_consecutive (first : Nat) (values : List (Option Value)) :
    Consecutive first (placesFrom first values).2
      ((itemLeaves (placesFrom first values).1).filterMap index?) := by
  induction values generalizing first with
  | nil => exact .nil first
  | cons value rest ih =>
    cases value with
    | some v => exact ih first
    | none => exact (Consecutive.single first).append (ih (first + 1))

theorem length_placesFrom (first : Nat) (values : List (Option Value)) :
    (placesFrom first values).1.length = values.length := by
  induction values generalizing first with
  | nil => rfl
  | cons value rest ih =>
    cases value with
    | some v => exact congrArg (· + 1) (ih first)
    | none => exact congrArg (· + 1) (ih (first + 1))

/-! ## Filters one after the other -/

/-- The bodies of the `WHERE` clauses among the clauses. -/
def filterBodies : List (String × List Char) → List (List Char)
  | [] => []
  | (clause, body) :: rest =>
    if clause = "where" then body :: filterBodies rest else filterBodies rest

/-- Bodies are read as filters one after the other, from one filter to another one; the numbers are
those of the next parameter in front of them and behind them. -/
inductive ReadsFilters : Nat → Option Predicate → List (List Char) → Option Predicate → Nat → Prop
  | done (a : Nat) (filter : Option Predicate) : ReadsFilters a filter [] filter a
  | next {a b c : Nat} {filter kept : Option Predicate} {body : List Char} {p : Predicate}
    {bodies : List (List Char)} :
    parsePredicate a body = .ok (p, b) → ReadsFilters b (some p) bodies kept c →
    ReadsFilters a filter (body :: bodies) kept c

/-- Where only one filter is accepted there is no clause of another kind and no second filter. -/
theorem readFilterFrom_eq_ok {statement : String} {text : List Char}
    {filter kept : Option Predicate} {clauses : List (String × List Char)}
    (h : readFilterFrom statement text a filter clauses = .ok kept) :
    (∃ b, ReadsFilters a filter (filterBodies clauses) kept b) ∧
      (filterBodies clauses).length ≤ 1 ∧ (filter.isSome = true → clauses = []) := by
  induction clauses generalizing a filter with
  | nil =>
    cases h
    exact ⟨⟨a, .done a _⟩, Nat.zero_le 1, fun _ => rfl⟩
  | cons clause rest ih =>
    obtain ⟨name, body⟩ := clause
    rw [readFilterFrom] at h
    by_cases refused : (decide (name ≠ "where") || filter.isSome) = true
    · rw [if_pos refused] at h
      cases h
    · rw [if_neg refused] at h
      obtain ⟨⟨p, b⟩, parsed, h⟩ := Outcome.bind_eq_ok.mp h
      -- there is a filter now, so this clause was the last one
      obtain ⟨⟨c, others⟩, _, last⟩ := ih h
      obtain rfl := last rfl
      obtain ⟨isWhere, fresh⟩ : name = "where" ∧ filter.isSome = false := by
        simpa using refused
      rw [filterBodies, if_pos isWhere]
      refine ⟨⟨c, .next parsed others⟩, Nat.le_refl 1, fun some => ?_⟩
      rw [fresh] at some
      cases some

/-- A clause of another kind is not read as a filter, and numbers no parameter. -/
theorem readSelectClauses_step {text body : List Char} {name : String} {s s' : SelectStatement}
    {rest : List (String × List Char)} (other : name ≠ "where")
    (h : readSelectClauses text a s ((name, body) :: rest) = .ok s') :
    ∃ t, readSelectClauses text a t rest = .ok s' ∧ t.filter = s.filter := by
  rw [readSelectClauses, if_neg other] at h
  by_cases isGroup : name = "group by"
  · rw [if_pos isGroup] at h
    obtain ⟨names, _, h⟩ := Outcome.bind_eq_ok.mp h
    exact ⟨_, h, rfl⟩
  rw [if_neg isGroup] at h
  by_cases isOrder : name = "order by"
  · rw [if_pos isOrder] at h
    obtain ⟨pieces, _, h⟩ := Outcome.bind_eq_ok.mp h
    obtain ⟨keys, _, h⟩ := Outcome.bind_eq_ok.mp h
    exact ⟨_, h, rfl⟩
  rw [if_neg isOrder] at h
  by_cases isLimit : name = "limit"
  · rw [if_pos isLimit] at h
    obtain ⟨n, _, h⟩ := Outcome.bind_eq_ok.mp h
    exact ⟨_, h, rfl⟩
  rw [if_neg isLimit] at h
  by_cases isOffset : name = "offset"
  · rw [if_pos isOffset] at h
    obtain ⟨n, _, h⟩ := Outcome.bind_eq_ok.mp h
    exact ⟨_, h, rfl⟩
  rw [if_neg isOffset] at h
  cases h

theorem readSelectClauses_eq_ok {text : List Char} {s s' : SelectStatement}
    {clauses : List (String × List Char)}
    (h : readSelectClauses text a s clauses = .ok s') :
    ∃ b, ReadsFilters a s.filter (filterBodies clauses) s'.filter b := by
  induction clauses generalizing a s with
  | nil =>
    rw [readSelectClauses] at h
    cases h
    exact ⟨a, .done a _⟩
  | cons clause rest ih =>
    obtain ⟨name, body⟩ := clause
    by_cases isWhere : name = "where"
    · rw [readSelectClauses, if_pos isWhere] at h
      obtain ⟨⟨p, b⟩, parsed, h⟩ := Outcome.bind_eq_ok.mp h
      obtain ⟨c, others⟩ := ih h
      rw [filterBodies, if_pos isWhere]
      exact ⟨c, .next parsed others⟩
    · obtain ⟨t, h, same⟩ := readSelectClauses_step isWhere h
      obtain ⟨c, others⟩ := ih h
      rw [filterBodies, if_neg isWhere, ← same]
      exact ⟨c, others⟩

/-! ## Heads -/

/-- The name of the table of an update, and what stands behind `SET`. -/
def takeUpdateHead (text : List Char) : Option (List Char × List Char) := do
  let (token, rest) ← takeIdentifier (← afterPhrase ["update"] text)
  some (token, ← (afterBlanks rest).bind (afterPhrase ["set"]))

/-- The name of the table of a removal, and what stands behind it. -/
def takeDeleteHead (text : List Char) : Option (List Char × List Char) := do
  takeIdentifier (← afterPhrase ["delete", "from"] text)

/-- What stands behind the head of a statement that may have a filter. -/
def clauseTail (text : List Char) : Option (List Char) :=
  match lowerWords text with
  | "select" :: _ => (takeSelectHead text).map (·.2.2)
  | "update" :: _ => (takeUpdateHead text).map (·.2)
  | "delete" :: "from" :: _ => (takeDeleteHead text).map (·.2)
  | _ => none

/-- The bodies of the `WHERE` clauses of a statement. -/
def whereClauses (sql : String) : List (List Char) :=
  match clauseTail (statementText sql.toList) with
  | some tail => filterBodies (splitClauses tail).2
  | none => []

theorem orInvalid_eq_ok {α : Type} {statement : String} {text : List Char} {found : Option α}
    {v : α} : orInvalid statement text found = .ok v ↔ found = some v := by
  cases found with
  | none => simp [orInvalid]
  | some w => simp [orInvalid]

/-! ## Statements -/

/-- The statement has numbered its parameters from zero: first those of the values that it writes,
then those of bodies that were read as filters one after the other. -/
def Numbers (st : Statement) (bodies : List (List Char)) : Prop :=
  ∃ a b, Consecutive 0 a st.givenIndices ∧ ReadsFilters a none bodies st.filter b

theorem readInsert_numbers {text : List Char} {st : Statement} (h : readInsert text = .ok st) :
    Numbers st [] := by
  obtain ⟨⟨token, columns, body⟩, _, h⟩ := Outcome.bind_eq_ok.mp h
  obtain ⟨values, _, h⟩ := Outcome.bind_eq_ok.mp h
  obtain ⟨names, _, h⟩ := Outcome.bind_eq_ok.mp h
  cases h
  exact ⟨_, _, placesFrom_consecutive 0 values, .done _ none⟩

theorem readSelect_numbers {text : List Char} {st : Statement} (h : readSelect text = .ok st) :
    ∃ s fields token tail, st = .select s ∧ takeSelectHead text = some (fields, token, tail) ∧
      Numbers st (filterBodies (splitClauses tail).2) := by
  obtain ⟨⟨fields, token, tail⟩, head, h⟩ := Outcome.bind_eq_ok.mp h
  dsimp only at h
  -- with a star in place of the fields or without, the rest is read alike
  split at h
  all_goals
    obtain ⟨names, _, h⟩ := Outcome.bind_eq_ok.mp h
    split at h
    · cases h
    · obtain ⟨s, clauses, h⟩ := Outcome.bind_eq_ok.mp h
      cases h
      obtain ⟨b, filters⟩ := readSelectClauses_eq_ok clauses
      exact ⟨s, fields, token, tail, rfl, orInvalid_eq_ok.mp head, 0, b, .nil 0, filters⟩

theorem readDelete_numbers {text : List Char} {st : Statement} (h : readDelete text = .ok st) :
    ∃ token tail, takeDeleteHead text = some (token, tail) ∧
      (filterBodies (splitClauses tail).2).length ≤ 1 ∧
      Numbers st (filterBodies (splitClauses tail).2) := by
  obtain ⟨⟨token, tail⟩, head, h⟩ := Outcome.bind_eq_ok.mp h
  obtain ⟨filter, read, h⟩ := Outcome.bind_eq_ok.mp h
  dsimp only at h
  split at h
  · cases h
  · cases h
    obtain ⟨⟨b, filters⟩, few, _⟩ := readFilterFrom_eq_ok read
    exact ⟨token, tail, orInvalid_eq_ok.mp head, few, 0, b, .nil 0, filters⟩

theorem readUpdate_numbers {text : List Char} {st : Statement} (h : readUpdate text = .ok st) :
    ∃ token tail, takeUpdateHead text = some (token, tail) ∧
      (filterBodies (splitClauses tail).2).length ≤ 1 ∧
      Numbers st (filterBodies (splitClauses tail).2) := by
  obtain ⟨⟨token, tail⟩, head, h⟩ := Outcome.bind_eq_ok.mp h
  obtain ⟨pieces, _, h⟩ := Outcome.bind_eq_ok.mp h
  obtain ⟨assignments, _, h⟩ := Outcome.bind_eq_ok.mp h
  have numbers := placesFrom_consecutive 0 (assignments.map (·.2))
  have length := length_placesFrom 0 (assignments.map (·.2))
  cases placed : placesFrom 0 (assignments.map (·.2)) with
  | mk places next =>
    rw [placed] at h numbers length
    dsimp only at h numbers length
    split at h
    · cases h
    · obtain ⟨filter, read, h⟩ := Outcome.bind_eq_ok.mp h
      cases h
      obtain ⟨⟨b, filters⟩, few, _⟩ := readFilterFrom_eq_ok read
      refine ⟨token, tail, orInvalid_eq_ok.mp head, few, next, b, ?_, filters⟩
      -- the columns are as many as the places
      have places : (((assignments.map (·.1)).zip places).map (·.2)) = places :=
        List.map_snd_zip (by simp [length])
      rw [Statement.givenIndices, Statement.given, places]
      exact numbers

/-- A statement that neither writes nor compares values has no parameters. -/
theorem numbers_of_plain {st : Statement} (given : st.given = []) (filter : st.filter = none) :
    Numbers st [] := by
  refine ⟨0, 0, ?_, ?_⟩
  · rw [Statement.givenIndices, given]
    exact .nil 0
  · rw [filter]
    exact .done 0 none

theorem readCreateTable_numbers {text : List Char} {st : Statement}
    (h : readCreateTable text = .ok st) : Numbers st [] := by
  obtain ⟨⟨ifNotExists, token, body⟩, _, h⟩ := Outcome.bind_eq_ok.mp h
  obtain ⟨pieces, _, h⟩ := Outcome.bind_eq_ok.mp h
  obtain ⟨parts, _, h⟩ := Outcome.bind_eq_ok.mp h
  obtain ⟨columns, _, h⟩ := Outcome.bind_eq_ok.mp h
  obtain ⟨columns, _, h⟩ := Outcome.bind_eq_ok.mp h
  cases h
  exact numbers_of_plain rfl rfl

theorem readCreateIndex_numbers {text : List Char} {st : Statement}
    (h : readCreateIndex text = .ok st) : Numbers st [] := by
  obtain ⟨⟨unique, ifNotExists, index, table, body⟩, _, h⟩ := Outcome.bind_eq_ok.mp h
  obtain ⟨columns, _, h⟩ := Outcome.bind_eq_ok.mp h
  cases h
  exact numbers_of_plain rfl rfl

theorem readDropTable_numbers {text : List Char} {st : Statement}
    (h : readDropTable text = .ok st) : Numbers st [] := by
  obtain ⟨⟨ifExists, token⟩, _, h⟩ := Outcome.bind_eq_ok.mp h
  cases h
  exact numbers_of_plain rfl rfl

theorem readDropIndex_numbers {text : List Char} {st : Statement}
    (h : readDropIndex text = .ok st) : Numbers st [] := by
  obtain ⟨⟨ifExists, index, table⟩, _, h⟩ := Outcome.bind_eq_ok.mp h
  cases h
  exact numbers_of_plain rfl rfl

theorem readAlterTable_numbers {text : List Char} {st : Statement}
    (h : readAlterTable text = .ok st) : Numbers st [] := by
  obtain ⟨⟨token, actions⟩, _, h⟩ := Outcome.bind_eq_ok.mp h
  obtain ⟨pieces, _, h⟩ := Outcome.bind_eq_ok.mp h
  obtain ⟨alterations, _, h⟩ := Outcome.bind_eq_ok.mp h
  split at h
  · cases h
  · cases h
    exact numbers_of_plain rfl rfl

section Statements

variable {sql : String} {st : Statement}

theorem whereClauses_of_tail {tail : List Char}
    (h : clauseTail (statementText sql.toList) = some tail) :
    whereClauses sql = filterBodies (splitClauses tail).2 := by
  rw [whereClauses, h]

theorem whereClauses_of_none (h : clauseTail (statementText sql.toList) = none) :
    whereClauses sql = [] := by
  rw [whereClauses, h]

theorem clauseTail_eq_none {text : List Char} {word : String} {rest : List String}
    (words : lowerWords text = word :: rest)
    (other : word ≠ "select" ∧ word ≠ "update" ∧ word ≠ "delete") : clauseTail text = none := by
  unfold clauseTail
  rw [words]
  split
  · rename_i same
    exact absurd (List.cons.inj same).1 other.1
  · rename_i same
    exact absurd (List.cons.inj same).1 other.2.1
  · rename_i same
    exact absurd (List.cons.inj same).1 other.2.2
  · rfl

/-- Every accepted text is a statement that has numbered its parameters from zero, and only a read
may have more than one filter. -/
theorem readStatement_numbers (h : readStatement sql = .ok st) :
    Numbers st (whereClauses sql) ∧
      ((∃ s, st = .select s) ∨ (whereClauses sql).length ≤ 1) := by
  have plain {word : String} {rest : List String}
      (words : lowerWords (statementText sql.toList) = word :: rest)
      (other : word ≠ "select" ∧ word ≠ "update" ∧ word ≠ "delete") (numbers : Numbers st []) :
      Numbers st (whereClauses sql) ∧
        ((∃ s, st = .select s) ∨ (whereClauses sql).length ≤ 1) := by
    rw [whereClauses_of_none (clauseTail_eq_none words other)]
    exact ⟨numbers, .inr (Nat.zero_le 1)⟩
  rw [readStatement] at h
  -- the first words tell which reader it was
  split at h
  · rename_i words
    exact plain words (by decide) (readCreateTable_numbers h)
  · rename_i words
    exact plain words (by decide) (readCreateIndex_numbers h)
  · rename_i words
    exact plain words (by decide) (readCreateIndex_numbers h)
  · rename_i words
    exact plain words (by decide) (readInsert_numbers h)
  · rename_i words
    obtain ⟨s, fields, token, tail, select, head, numbers⟩ := readSelect_numbers h
    have behind : clauseTail (statementText sql.toList) = some tail := by
      rw [clauseTail, words, head]
      rfl
    rw [whereClauses_of_tail behind]
    exact ⟨numbers, .inl ⟨s, select⟩⟩
  · rename_i words
    obtain ⟨token, tail, head, few, numbers⟩ := readUpdate_numbers h
    have behind : clauseTail (statementText sql.toList) = some tail := by
      rw [clauseTail, words, head]
      rfl
    rw [whereClauses_of_tail behind]
    exact ⟨numbers, .inr few⟩
  · rename_i words
    obtain ⟨token, tail, head, few, numbers⟩ := readDelete_numbers h
    have behind : clauseTail (statementText sql.toList) = some tail := by
      rw [clauseTail, words, head]
      rfl
    rw [whereClauses_of_tail behind]
    exact ⟨numbers, .inr few⟩
  · rename_i words
    exact plain words (by decide) (readAlterTable_numbers h)
  · rename_i words
    exact plain words (by decide) (readDropTable_numbers h)
  · rename_i words
    exact plain words (by decide) (readDropIndex_numbers h)
  · cases h

/-- **The parameters of an accepted text are numbered from zero in the order of the text, without a
gap, and its `WHERE` clause is the filter of the statement.** A read must not have a second one. -/
theorem parameters_read_in_order (read : readStatement sql = .ok st)
    (single : ∀ s, st = .select s → (whereClauses sql).length ≤ 1) :
    ∃ first next, st.givenIndices = List.range first ∧ st.indices = List.range next ∧
      ((whereClauses sql = [] ∧ st.filter = none) ∨
        ∃ body p, whereClauses sql = [body] ∧ st.filter = some p ∧
          parsePredicate first body = .ok (p, next)) := by
  obtain ⟨⟨first, next, given, filters⟩, kind⟩ := readStatement_numbers read
  have few : (whereClauses sql).length ≤ 1 := by
    rcases kind with ⟨s, select⟩ | few
    · exact single s select
    · exact few
  rw [Statement.indices_eq]
  -- of the bodies only their number counts from here on
  generalize whereClauses sql = bodies at filters few
  generalize st.filter = filter at filters
  cases filters with
  | done =>
    refine ⟨first, first, given.eq_range, ?_, .inl ⟨rfl, rfl⟩⟩
    exact (given.append (.nil first)).eq_range
  | next parsed others =>
    obtain rfl := List.eq_nil_of_length_eq_zero (Nat.le_zero.mp (Nat.le_of_succ_le_succ few))
    cases others
    refine ⟨first, next, given.eq_range, ?_, .inr ⟨_, _, rfl, rfl, parsed⟩⟩
    exact (given.append (consecutive_of_parsePredicate parsed)).eq_range

/-- A change of rows with parameters on both sides of `WHERE`. -/
def filteredUpdate : String := "UPDATE t SET a = ?, b = 1 WHERE c = ?"

/-- A read with one filter. -/
def filteredSelect : String := "SELECT * FROM t WHERE a IN (?, ?)"

theorem parameters_read_in_order_filtered :
    (∃ st, readStatement filteredUpdate = .ok st ∧ st.indices = [0, 1] ∧
      (∀ s, st = .select s → (whereClauses filteredUpdate).length ≤ 1) ∧
      ∃ first next, st.givenIndices = List.range first ∧ st.indices = List.range next ∧
        ((whereClauses filteredUpdate = [] ∧ st.filter = none) ∨
          ∃ body p, whereClauses filteredUpdate = [body] ∧ st.filter = some p ∧
            parsePredicate first body = .ok (p, next))) ∧
    ∃ st, readStatement filteredSelect = .ok st ∧ st.indices = [0, 1] ∧
      (∀ s, st = .select s → (whereClauses filteredSelect).length ≤ 1) ∧
      ∃ first next, st.givenIndices = List.range first ∧ st.indices = List.range next ∧
        ((whereClauses filteredSelect = [] ∧ st.filter = none) ∨
          ∃ body p, whereClauses filteredSelect = [body] ∧ st.filter = some p ∧
            parsePredicate first body = .ok (p, next)) := by
  constructor
  · have text : statementText filteredUpdate.toList = filteredUpdate.toList := by decide +kernel
    have reader : readStatement filteredUpdate = readUpdate filteredUpdate.toList := by
      rw [readStatement, text]
      rfl
    have numbers : (readUpdate filteredUpdate.toList).toOption.map
        (fun st => (st.indices, st.givenIndices)) = some ([0, 1], [0]) := by decide +kernel
    obtain ⟨st, read, indices⟩ := Outcome.exists_of_toOption numbers
    rw [← reader] at read
    have single : ∀ s, st = .select s → (whereClauses filteredUpdate).length ≤ 1 := by
      rintro s rfl
      -- a read writes no values
      cases (Prod.mk.inj indices).2
    exact ⟨st, read, (Prod.mk.inj indices).1, single, parameters_read_in_order read single⟩
  · have text : statementText filteredSelect.toList = filteredSelect.toList := by decide +kernel
    have reader : readStatement filteredSelect = readSelect filteredSelect.toList := by
      rw [readStatement, text]
      rfl
    have numbers : (readSelect filteredSelect.toList).toOption.map Statement.indices =
        some [0, 1] := by decide +kernel
    have one : (whereClauses filteredSelect).length ≤ 1 := by
      rw [whereClauses, text]
      decide +kernel
    obtain ⟨st, read, indices⟩ := Outcome.exists_of_toOption numbers
    rw [← reader] at read
    exact ⟨st, read, indices, fun _ _ => one, parameters_read_in_order read fun _ _ => one⟩

/-- A read with two filters. -/
def twiceFiltered : String := "SELECT * FROM t WHERE a = ? WHERE b = ?"

/-- The second filter of a read replaces the first one, whose parameter is gone then: the one that
is left has the number 1. -/
theorem second_filter_replaces_first :
    (∃ st, readStatement twiceFiltered = .ok st ∧ st.indices = [1] ∧
        st.filter.map Predicate.columns = some ["b"]) ∧
      ¬ ∀ sql st, readStatement sql = .ok st → ∃ n, st.indices = List.range n := by
  have text : statementText twiceFiltered.toList = twiceFiltered.toList := by decide +kernel
  have reader : readStatement twiceFiltered = readSelect twiceFiltered.toList := by
    rw [readStatement, text]
    rfl
  have left : (readSelect twiceFiltered.toList).toOption.map
      (fun st => (st.indices, st.filter.map Predicate.columns)) = some ([1], some ["b"]) := by
    decide +kernel
  obtain ⟨st, read, same⟩ := Outcome.exists_of_toOption left
  rw [← reader] at read
  obtain ⟨indices, columns⟩ := Prod.mk.inj same
  refine ⟨⟨st, read, indices, columns⟩, fun inOrder => ?_⟩
  obtain ⟨n, range⟩ := inOrder twiceFiltered st read
  rw [indices] at range
  have length : n = 1 := by
    have same := congrArg List.length range
    rw [List.length_range] at same
    exact same.symm
  rw [length] at range
  cases range

end Statements

end Sql

end Polystore
