import Polystore.Proofs.Condition.Meaning
import Polystore.Proofs.Outcome
import Polystore.Relational.Compile

/-!
# Compiled predicates mean their conditions

The predicate of a condition refers to its values by number, tests `null` by `IS NULL`, has a
constant for membership in an empty list and stands for a conjunction of one part by that part.
None of this changes what it holds of.

Parameters are the reason why the induction speaks of more than a condition by itself: a clause is
compiled with the number of its first parameter, and its predicates may be evaluated under any
parameters that hold its own values from that number on, with others before and behind.
-/

namespace Polystore

open Condition Outcome

namespace Operand

/-- Numbered parameters read the values that stand at their numbers. -/
theorem resolveItems_parametersFrom (pre items post : List Value) :
    resolveItems (pre ++ items ++ post) (Relational.parametersFrom pre.length items) =
      .ok items := by
  induction items generalizing pre with
  | nil => rfl
  | cons v items ih =>
    have h := ih (pre ++ [v])
    rw [List.length_append, List.length_singleton, List.append_assoc pre, List.singleton_append]
      at h
    rw [Relational.parametersFrom, resolveItems, h]
    simp [resolve]
    rfl

end Operand

namespace Predicate

variable {params : List Value} {caseSensitive : Bool} {row : Row} {a b : Bool}

theorem allHold_cons {p : Predicate} {ps : List Predicate}
    (hp : holds params caseSensitive row p = .ok a)
    (hps : allHold params caseSensitive row ps = .ok b) :
    allHold params caseSensitive row (p :: ps) = .ok (a && b) := by
  rw [allHold, hp]
  cases a with
  | false => rfl
  | true => exact hps

theorem anyHolds_cons {p : Predicate} {ps : List Predicate}
    (hp : holds params caseSensitive row p = .ok a)
    (hps : anyHolds params caseSensitive row ps = .ok b) :
    anyHolds params caseSensitive row (p :: ps) = .ok (a || b) := by
  rw [anyHolds, hp]
  cases a with
  | false => exact hps
  | true => rfl

theorem allHold_append {ps qs : List Predicate}
    (hps : allHold params caseSensitive row ps = .ok a)
    (hqs : allHold params caseSensitive row qs = .ok b) :
    allHold params caseSensitive row (ps ++ qs) = .ok (a && b) := by
  induction ps generalizing a with
  | nil =>
    obtain rfl : true = a := Except.ok.inj hps
    exact hqs
  | cons p ps ih =>
    rw [allHold] at hps
    obtain ⟨c, hp, hc⟩ := bind_eq_ok.mp hps
    rw [List.cons_append, allHold, hp]
    cases c with
    | false =>
      obtain rfl : false = a := Except.ok.inj hc
      rfl
    | true => exact ih hc

/-- A single part stands for the conjunction of it. -/
theorem allHold_singleton (p : Predicate) :
    allHold params caseSensitive row [p] = holds params caseSensitive row p := by
  rw [allHold]
  cases holds params caseSensitive row p with
  | error e => rfl
  | ok c => cases c <;> rfl

theorem holds_allOf (ps : List Predicate) :
    holds params caseSensitive row (allOf ps) = allHold params caseSensitive row ps := by
  match ps with
  | [] => rfl
  | [p] => exact (allHold_singleton p).symm
  | p :: q :: rest => rfl

theorem holds_nestedPredicate (ps : List Predicate) :
    holds params caseSensitive row (Relational.nestedPredicate ps) =
      allHold params caseSensitive row ps := by
  unfold Relational.nestedPredicate
  split
  · rename_i h
    rw [List.isEmpty_iff.mp h]
    rfl
  · exact holds_allOf ps

end Predicate

namespace Relational

open Predicate

/-- A compiled operator holds when the operator does, under any parameters that hold its values from
its number on. -/
theorem compileOperator_holds (pre post : List Value) {bound : List Value} {name : String}
    {op : Operator}
    {v : Value} {p : Predicate} (caseSensitive : Bool) (row : Row)
    (h : compileOperator pre.length name op v = .ok (p, bound)) :
    p.holds (pre ++ bound ++ post) caseSensitive row =
      .ok (op.means caseSensitive (row.at name) v) := by
  unfold compileOperator at h
  split at h
  · rename_i hl
    split at h
    · cases h
    · -- an empty list: nothing is bound and the answer is a constant
      rename_i hv
      cases h
      cases op with
      | within => simp [Predicate.holds, Operator.means, hv]
      | notWithin => simp [Predicate.holds, Operator.means, hv]
      | _ => cases hl
    · rename_i hv
      cases h
      have hlist : v.asList ≠ none := by
        rw [hv]
        exact Option.some_ne_none bound
      obtain rfl : v = .list bound := Value.eq_list_of_asList hv
      rw [Predicate.holds, Operand.resolve, Operand.resolveItems_parametersFrom]
      exact Comparison.holds_ofOperator caseSensitive _ fun _ => hlist
  · rename_i hl
    split at h
    · -- a comparison with `null`
      rename_i hn
      cases h
      rw [Bool.and_eq_true] at hn
      obtain rfl : v = .null := Value.eq_null_of_isNull hn.1
      cases op with
      | eq =>
        rw [Predicate.holds, Operator.means, Value.looseEq_null]
        cases (row.at name).isNull <;> rfl
      | ne =>
        rw [Predicate.holds, Operator.means, Value.looseEq_null]
        cases (row.at name).isNull <;> rfl
      | _ => cases hn.2
    · cases h
      have hv : (pre ++ [v] ++ post)[pre.length]? = some v := by simp
      rw [Predicate.holds, Operand.resolve, hv]
      exact Comparison.holds_ofOperator caseSensitive _ fun ht => absurd ht hl

theorem compileOperators_holds (pre post : List Value) {bound : List Value} {name : String}
    {ops : List (Operator × Value)} {ps : List Predicate} (caseSensitive : Bool) (row : Row)
    (h : compileOperators pre.length name ops = .ok (ps, bound)) :
    allHold (pre ++ bound ++ post) caseSensitive row ps =
      .ok (ops.all fun o => o.1.means caseSensitive (row.at name) o.2) := by
  induction ops generalizing pre bound ps with
  | nil =>
    cases h
    rfl
  | cons o ops ih =>
    obtain ⟨op, v⟩ := o
    rw [compileOperators] at h
    obtain ⟨⟨p, b⟩, hp, h⟩ := bind_eq_ok.mp h
    obtain ⟨⟨qs, more⟩, hq, h⟩ := bind_eq_ok.mp h
    cases h
    have first := compileOperator_holds pre (more ++ post) caseSensitive row hp
    have rest := ih (pre ++ b) (by rw [List.length_append]; exact hq)
    simp only [List.append_assoc] at first rest ⊢
    exact allHold_cons first rest

theorem compileTest_holds (pre post : List Value) {bound : List Value} {name : String}
    {test : FieldTest}
    {ps : List Predicate} (caseSensitive : Bool) (row : Row)
    (h : compileTest pre.length name test = .ok (ps, bound)) :
    allHold (pre ++ bound ++ post) caseSensitive row ps =
      .ok (test.means caseSensitive (row.at name)) := by
  cases test with
  | equals v =>
    have single := compileOperators_holds pre post caseSensitive row h
    rw [List.all_cons, List.all_nil, Bool.and_true] at single
    exact single
  | operators ops => exact compileOperators_holds pre post caseSensitive row h

mutual

theorem compileClause_holds (pre post : List Value) {bound : List Value} {clause : Clause}
    {ps : List Predicate}
    (caseSensitive : Bool) (row : Row)
    (h : compileClause pre.length clause = .ok (ps, bound)) :
    allHold (pre ++ bound ++ post) caseSensitive row ps =
      .ok (clauseMeans caseSensitive row clause) := by
  cases clause with
  | field name test => exact compileTest_holds pre post caseSensitive row h
  | and conditions =>
    obtain ⟨⟨parts, b⟩, hparts, h⟩ := bind_eq_ok.mp h
    cases h
    rw [allHold_singleton, holds, clauseMeans]
    exact (compileConditions_holds pre post caseSensitive row hparts).1
  | or conditions =>
    obtain ⟨⟨parts, b⟩, hparts, h⟩ := bind_eq_ok.mp h
    cases h
    rw [allHold_singleton, holds, clauseMeans]
    exact (compileConditions_holds pre post caseSensitive row hparts).2
  | not condition =>
    obtain ⟨⟨parts, b⟩, hparts, h⟩ := bind_eq_ok.mp h
    cases h
    rw [allHold_singleton, holds, holds_nestedPredicate, clauseMeans,
      compileClauses_holds pre post caseSensitive row hparts]
    rfl

/-- The predicates of clauses hold together when every clause does, under any parameters that hold
the values of the clauses from their number on. -/
theorem compileClauses_holds (pre post : List Value) {bound : List Value} {clauses : List Clause}
    {ps : List Predicate} (caseSensitive : Bool) (row : Row)
    (h : compileClauses pre.length clauses = .ok (ps, bound)) :
    allHold (pre ++ bound ++ post) caseSensitive row ps =
      .ok (means caseSensitive row clauses) := by
  cases clauses with
  | nil =>
    cases h
    rfl
  | cons clause rest =>
    rw [compileClauses] at h
    obtain ⟨⟨ps, b⟩, hp, h⟩ := bind_eq_ok.mp h
    obtain ⟨⟨qs, more⟩, hq, h⟩ := bind_eq_ok.mp h
    cases h
    have here := compileClause_holds pre (more ++ post) caseSensitive row hp
    have behind := compileClauses_holds (pre ++ b) post caseSensitive row
      (by rw [List.length_append]; exact hq)
    simp only [List.append_assoc] at here behind ⊢
    exact allHold_append here behind

theorem compileConditions_holds (pre post : List Value) {bound : List Value}
    {conditions : List (List Clause)}
    {ps : List Predicate} (caseSensitive : Bool) (row : Row)
    (h : compileConditions pre.length conditions = .ok (ps, bound)) :
    allHold (pre ++ bound ++ post) caseSensitive row ps =
        .ok (allMean caseSensitive row conditions) ∧
      anyHolds (pre ++ bound ++ post) caseSensitive row ps =
        .ok (anyMeans caseSensitive row conditions) := by
  cases conditions with
  | nil =>
    cases h
    exact ⟨rfl, rfl⟩
  | cons condition rest =>
    rw [compileConditions] at h
    obtain ⟨⟨parts, b⟩, hp, h⟩ := bind_eq_ok.mp h
    obtain ⟨⟨qs, more⟩, hq, h⟩ := bind_eq_ok.mp h
    cases h
    have here := compileClauses_holds pre (more ++ post) caseSensitive row hp
    obtain ⟨all, any⟩ := compileConditions_holds (pre ++ b) post caseSensitive row
      (by rw [List.length_append]; exact hq)
    rw [← holds_nestedPredicate] at here
    simp only [List.append_assoc] at here all any ⊢
    exact ⟨allHold_cons here all, anyHolds_cons here any⟩

end

/-- The predicate of a condition, under the values that it binds, means the condition; where it is
missing the condition has no clauses and holds. -/
theorem compileFrom_meets (pre post : List Value) {bound : List Value} {c : Condition}
    {p : Option Predicate}
    (caseSensitive : Bool) (row : Row) (h : compileFrom pre.length c = .ok (p, bound)) :
    meets (pre ++ bound ++ post) caseSensitive p row = .ok (means caseSensitive row c) := by
  obtain ⟨⟨parts, b⟩, hparts, h⟩ := bind_eq_ok.mp h
  have all := compileClauses_holds pre post caseSensitive row hparts
  cases h
  rw [← holds_allOf] at all
  split
  · rename_i empty
    rw [List.isEmpty_iff.mp empty] at all
    exact all
  · exact all

theorem compileCondition_meets {bound : List Value} {c : Condition} {p : Option Predicate}
    (caseSensitive : Bool) (row : Row) (h : compileCondition c = .ok (p, bound)) :
    meets bound caseSensitive p row = .ok (means caseSensitive row c) := by
  have all := compileFrom_meets [] [] caseSensitive row h
  rw [List.nil_append, List.append_nil] at all
  exact all

end Relational

end Polystore
