import Polystore.Proofs.Condition.Meaning
import Polystore.Proofs.Outcome
import Polystore.Relational.Compile

/-!
# The columns of a compiled condition

Before it looks at any row, the store of tables requires every column that a predicate reads. A
compiled predicate reads no column but the fields of its condition, so a condition on known columns
passes this check.
-/

namespace Polystore

open Condition Outcome

namespace Predicate

theorem partColumns_eq_flatMap (ps : List Predicate) : partColumns ps = ps.flatMap columns := by
  induction ps with
  | nil => rfl
  | cons p ps ih => rw [partColumns, ih, List.flatMap_cons]

theorem partColumns_append (ps qs : List Predicate) :
    partColumns (ps ++ qs) = partColumns ps ++ partColumns qs := by
  rw [partColumns_eq_flatMap, partColumns_eq_flatMap, partColumns_eq_flatMap, List.flatMap_append]

theorem columns_allOf (ps : List Predicate) : columns (allOf ps) = partColumns ps := by
  match ps with
  | [] => rfl
  | [p] => exact (List.append_nil _).symm
  | p :: q :: rest => rfl

theorem columns_nestedPredicate (ps : List Predicate) :
    columns (Relational.nestedPredicate ps) = partColumns ps := by
  unfold Relational.nestedPredicate
  split
  · rename_i empty
    rw [List.isEmpty_iff.mp empty]
    rfl
  · exact columns_allOf ps

end Predicate

namespace Relational

open Predicate

theorem columns_compileOperator {first : Nat} {name : String} {op : Operator} {v : Value}
    {p : Predicate} {bound : List Value} (h : compileOperator first name op v = .ok (p, bound)) :
    columns p ⊆ [name] := by
  unfold compileOperator at h
  split at h
  · split at h
    · cases h
    · cases h
      exact List.nil_subset _
    · cases h
      exact List.Subset.refl _
  · split at h
    · cases h
      exact List.Subset.refl _
    · cases h
      exact List.Subset.refl _

theorem columns_compileOperators {first : Nat} {name : String} {ops : List (Operator × Value)}
    {ps : List Predicate} {bound : List Value}
    (h : compileOperators first name ops = .ok (ps, bound)) : partColumns ps ⊆ [name] := by
  induction ops generalizing first ps bound with
  | nil =>
    cases h
    exact List.nil_subset _
  | cons o ops ih =>
    obtain ⟨op, v⟩ := o
    rw [compileOperators] at h
    obtain ⟨⟨p, b⟩, hp, h⟩ := bind_eq_ok.mp h
    obtain ⟨⟨qs, more⟩, hq, h⟩ := bind_eq_ok.mp h
    cases h
    exact List.append_subset.mpr ⟨columns_compileOperator hp, ih hq⟩

theorem columns_compileTest {first : Nat} {name : String} {test : FieldTest}
    {ps : List Predicate} {bound : List Value} (h : compileTest first name test = .ok (ps, bound)) :
    partColumns ps ⊆ [name] := by
  cases test with
  | equals v => exact columns_compileOperators h
  | operators ops => exact columns_compileOperators h

mutual

theorem columns_compileClause {first : Nat} {clause : Clause} {ps : List Predicate}
    {bound : List Value} (h : compileClause first clause = .ok (ps, bound)) :
    partColumns ps ⊆ clauseNames clause := by
  cases clause with
  | field name test => exact columns_compileTest h
  | and conditions =>
    obtain ⟨⟨parts, b⟩, hparts, h⟩ := bind_eq_ok.mp h
    cases h
    rw [partColumns, partColumns, columns, List.append_nil]
    exact columns_compileConditions hparts
  | or conditions =>
    obtain ⟨⟨parts, b⟩, hparts, h⟩ := bind_eq_ok.mp h
    cases h
    rw [partColumns, partColumns, columns, List.append_nil]
    exact columns_compileConditions hparts
  | not condition =>
    obtain ⟨⟨parts, b⟩, hparts, h⟩ := bind_eq_ok.mp h
    cases h
    rw [partColumns, partColumns, columns, columns_nestedPredicate, List.append_nil]
    exact columns_compileClauses hparts

/-- The predicates of clauses read only the fields of the clauses. -/
theorem columns_compileClauses {first : Nat} {clauses : List Clause} {ps : List Predicate}
    {bound : List Value} (h : compileClauses first clauses = .ok (ps, bound)) :
    partColumns ps ⊆ names clauses := by
  cases clauses with
  | nil =>
    cases h
    exact List.nil_subset _
  | cons clause rest =>
    rw [compileClauses] at h
    obtain ⟨⟨ps, b⟩, hp, h⟩ := bind_eq_ok.mp h
    obtain ⟨⟨qs, more⟩, hq, h⟩ := bind_eq_ok.mp h
    cases h
    rw [partColumns_append, names]
    exact List.append_subset.mpr
      ⟨List.subset_append_of_subset_left _ (columns_compileClause hp),
        List.subset_append_of_subset_right _ (columns_compileClauses hq)⟩

theorem columns_compileConditions {first : Nat} {conditions : List (List Clause)}
    {ps : List Predicate} {bound : List Value}
    (h : compileConditions first conditions = .ok (ps, bound)) :
    partColumns ps ⊆ namesOfAll conditions := by
  cases conditions with
  | nil =>
    cases h
    exact List.nil_subset _
  | cons condition rest =>
    rw [compileConditions] at h
    obtain ⟨⟨parts, b⟩, hp, h⟩ := bind_eq_ok.mp h
    obtain ⟨⟨qs, more⟩, hq, h⟩ := bind_eq_ok.mp h
    cases h
    rw [partColumns, columns_nestedPredicate, namesOfAll]
    exact List.append_subset.mpr
      ⟨List.subset_append_of_subset_left _ (columns_compileClauses hp),
        List.subset_append_of_subset_right _ (columns_compileConditions hq)⟩

end

/-- The predicate of a condition reads only the fields of the condition. -/
theorem columns_compileFrom {first : Nat} {c : Condition} {p : Predicate} {bound : List Value}
    (h : compileFrom first c = .ok (some p, bound)) : columns p ⊆ names c := by
  obtain ⟨⟨parts, b⟩, hparts, h⟩ := bind_eq_ok.mp h
  obtain ⟨hp, rfl⟩ := Prod.mk.inj (Except.ok.inj h)
  split at hp
  · cases hp
  · obtain rfl := Option.some.inj hp
    rw [columns_allOf]
    exact columns_compileClauses hparts

end Relational

end Polystore
