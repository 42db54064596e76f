import Polystore.Proofs.Sql.Written

/-!
# Compiled conditions can be written

The parameters of a compiled condition are numbered in the order in which its text shows them, and
an empty list never stays in it. On quotable fields a compiled condition can therefore be written,
and what is read back reads the same columns.
-/

namespace Polystore

open Condition Outcome Predicate

namespace Predicate

theorem PartsWritten.append {a b c : Nat} {ps qs : List Predicate} (hp : PartsWritten a ps b)
    (hq : PartsWritten b qs c) : PartsWritten a (ps ++ qs) c := by
  induction ps generalizing a with
  | nil =>
    cases hp
    exact hq
  | cons p ps ih =>
    obtain _ | ⟨first, rest⟩ := hp
    exact .cons first (ih rest)

theorem partsFilled_append {ps qs : List Predicate} (hp : partsFilled ps = true)
    (hq : partsFilled qs = true) : partsFilled (ps ++ qs) = true := by
  induction ps with
  | nil => exact hq
  | cons p ps ih =>
    rw [partsFilled, Bool.and_eq_true] at hp
    rw [List.cons_append, partsFilled, Bool.and_eq_true]
    exact ⟨hp.1, ih hp.2⟩

/-- The predicate can be written, and reads the same columns when it is read back. -/
structure Legible (a : Nat) (p : Predicate) (b : Nat) : Prop where
  written : p.Written a b
  filled : p.filled = true

/-- The predicates are legible one after the other. -/
structure PartsLegible (a : Nat) (ps : List Predicate) (b : Nat) : Prop where
  written : PartsWritten a ps b
  filled : partsFilled ps = true

theorem partsLegible_nil (a : Nat) : PartsLegible a [] a := ⟨.nil a, rfl⟩

theorem Legible.cons {a b c : Nat} {p : Predicate} {ps : List Predicate} (h : Legible a p b)
    (rest : PartsLegible b ps c) : PartsLegible a (p :: ps) c where
  written := .cons h.written rest.written
  filled := by
    rw [partsFilled, h.filled, rest.filled]
    rfl

theorem Legible.single {a b : Nat} {p : Predicate} (h : Legible a p b) : PartsLegible a [p] b :=
  h.cons (partsLegible_nil b)

theorem PartsLegible.append {a b c : Nat} {ps qs : List Predicate} (hp : PartsLegible a ps b)
    (hq : PartsLegible b qs c) : PartsLegible a (ps ++ qs) c :=
  ⟨hp.written.append hq.written, partsFilled_append hp.filled hq.filled⟩

theorem PartsLegible.allOf {a b : Nat} {ps : List Predicate} (h : PartsLegible a ps b) :
    Legible a (allOf ps) b := by
  match ps with
  | [] => exact ⟨.and h.written, h.filled⟩
  | [p] =>
    obtain ⟨written, filled⟩ := h
    obtain _ | ⟨first, rest⟩ := written
    cases rest
    rw [partsFilled, Bool.and_eq_true] at filled
    exact ⟨first, filled.1⟩
  | p :: q :: rest => exact ⟨.and h.written, h.filled⟩

theorem PartsLegible.nested {a b : Nat} {ps : List Predicate} (h : PartsLegible a ps b) :
    Legible a (Relational.nestedPredicate ps) b := by
  unfold Relational.nestedPredicate
  split
  · rename_i empty
    rw [List.isEmpty_iff.mp empty] at h
    obtain ⟨written, _⟩ := h
    cases written
    exact ⟨.literal a true, rfl⟩
  · exact h.allOf

end Predicate

namespace Relational

theorem allWritten_parametersFrom (first : Nat) (vs : List Value) :
    Operand.AllWritten first (parametersFrom first vs) (first + vs.length) := by
  induction vs generalizing first with
  | nil => exact .nil first
  | cons v vs ih =>
    have rest := ih (first + 1)
    rw [Nat.add_right_comm, Nat.add_assoc first vs.length 1] at rest
    exact .cons (.param first) rest

theorem legible_compileOperator {first : Nat} {name : String} {op : Operator} {v : Value}
    {p : Predicate} {bound : List Value} (quotable : Sql.Quotable name)
    (h : compileOperator first name op v = .ok (p, bound)) :
    Legible first p (first + bound.length) := by
  unfold compileOperator at h
  split at h
  · rename_i takesList
    split at h
    · cases h
    · cases h
      exact ⟨.literal first _, rfl⟩
    · rename_i items filled _
      cases h
      have places := allWritten_parametersFrom first bound
      -- an empty list has been compiled to a constant
      have notEmpty : (Operand.list (parametersFrom first bound)).isEmptyList = false := by
        cases bound with
        | nil => exact absurd rfl filled
        | cons w ws => rfl
      refine ⟨?_, ?_⟩
      · cases op with
        | within => exact .member false quotable places
        | notWithin => exact .member true quotable places
        | _ => cases takesList
      · rw [Predicate.filled, notEmpty]
        rfl
  · rename_i single
    split at h
    · cases h
      exact ⟨.isNull first _ quotable, rfl⟩
    · cases h
      refine ⟨.compare quotable ?_ ?_ (.param first), rfl⟩
      · cases op <;> first | exact Comparison.noConfusion | exact absurd rfl single
      · cases op <;> first | exact Comparison.noConfusion | exact absurd rfl single

theorem legible_compileOperators {first : Nat} {name : String} {ops : List (Operator × Value)}
    {ps : List Predicate} {bound : List Value} (quotable : Sql.Quotable name)
    (h : compileOperators first name ops = .ok (ps, bound)) :
    PartsLegible first ps (first + bound.length) := by
  induction ops generalizing first ps bound with
  | nil =>
    cases h
    exact partsLegible_nil first
  | cons o ops ih =>
    obtain ⟨op, v⟩ := o
    rw [compileOperators] at h
    obtain ⟨⟨p, b⟩, hp, h⟩ := bind_eq_ok.mp h
    obtain ⟨⟨qs, more⟩, hq, h⟩ := bind_eq_ok.mp h
    cases h
    rw [List.length_append, ← Nat.add_assoc]
    exact (legible_compileOperator quotable hp).cons (ih hq)

theorem legible_compileTest {first : Nat} {name : String} {test : FieldTest}
    {ps : List Predicate} {bound : List Value} (quotable : Sql.Quotable name)
    (h : compileTest first name test = .ok (ps, bound)) :
    PartsLegible first ps (first + bound.length) := by
  cases test with
  | equals v => exact legible_compileOperators quotable h
  | operators ops => exact legible_compileOperators quotable h

mutual

theorem legible_compileClause {first : Nat} {clause : Clause} {ps : List Predicate}
    {bound : List Value} (quotable : ∀ name ∈ clauseNames clause, Sql.Quotable name)
    (h : compileClause first clause = .ok (ps, bound)) :
    PartsLegible first ps (first + bound.length) := by
  cases clause with
  | field name test => exact legible_compileTest (quotable name (List.mem_singleton.mpr rfl)) h
  | and conditions =>
    obtain ⟨⟨parts, b⟩, hparts, h⟩ := bind_eq_ok.mp h
    cases h
    have inner := legible_compileConditions quotable hparts
    exact Legible.single ⟨.and inner.written, inner.filled⟩
  | or conditions =>
    obtain ⟨⟨parts, b⟩, hparts, h⟩ := bind_eq_ok.mp h
    cases h
    have inner := legible_compileConditions quotable hparts
    exact Legible.single ⟨.or inner.written, inner.filled⟩
  | not condition =>
    obtain ⟨⟨parts, b⟩, hparts, h⟩ := bind_eq_ok.mp h
    cases h
    have inner := (legible_compileClauses quotable hparts).nested
    exact Legible.single ⟨.not inner.written, inner.filled⟩

/-- The predicates of clauses can be written one after the other. -/
theorem legible_compileClauses {first : Nat} {clauses : List Clause} {ps : List Predicate}
    {bound : List Value} (quotable : ∀ name ∈ names clauses, Sql.Quotable name)
    (h : compileClauses first clauses = .ok (ps, bound)) :
    PartsLegible first ps (first + bound.length) := by
  cases clauses with
  | nil =>
    cases h
    exact partsLegible_nil first
  | cons clause rest =>
    rw [compileClauses] at h
    obtain ⟨⟨ps, b⟩, hp, h⟩ := bind_eq_ok.mp h
    obtain ⟨⟨qs, more⟩, hq, h⟩ := bind_eq_ok.mp h
    cases h
    rw [names] at quotable
    rw [List.length_append, ← Nat.add_assoc]
    have head := legible_compileClause
      (fun name hn => quotable name (List.mem_append.mpr (.inl hn))) hp
    exact head.append (legible_compileClauses
      (fun name hn => quotable name (List.mem_append.mpr (.inr hn))) hq)

theorem legible_compileConditions {first : Nat} {conditions : List (List Clause)}
    {ps : List Predicate} {bound : List Value}
    (quotable : ∀ name ∈ namesOfAll conditions, Sql.Quotable name)
    (h : compileConditions first conditions = .ok (ps, bound)) :
    PartsLegible first ps (first + bound.length) := by
  cases conditions with
  | nil =>
    cases h
    exact partsLegible_nil first
  | cons condition rest =>
    rw [compileConditions] at h
    obtain ⟨⟨parts, b⟩, hp, h⟩ := bind_eq_ok.mp h
    obtain ⟨⟨qs, more⟩, hq, h⟩ := bind_eq_ok.mp h
    cases h
    rw [namesOfAll] at quotable
    rw [List.length_append, ← Nat.add_assoc]
    have head := legible_compileClauses
      (fun name hn => quotable name (List.mem_append.mpr (.inl hn))) hp
    exact head.nested.cons (legible_compileConditions
      (fun name hn => quotable name (List.mem_append.mpr (.inr hn))) hq)

end

/-- The predicate of a condition is legible; a condition without clauses has none. -/
theorem legible_compileFilter {first : Nat} {c : Option Condition} {filter : Option Predicate}
    {bound : List Value} (quotable : ∀ name ∈ c.elim [] names, Sql.Quotable name)
    (h : compileFilter first c = .ok (filter, bound)) :
    ∀ p ∈ filter, Legible first p (first + bound.length) := by
  cases c with
  | none =>
    cases h
    intro p hp
    cases hp
  | some c =>
    rw [compileFilter] at h
    obtain ⟨⟨parts, b⟩, hparts, h⟩ := bind_eq_ok.mp h
    obtain ⟨rfl, rfl⟩ := Prod.mk.inj (Except.ok.inj h)
    intro p hp
    split at hp
    · cases hp
    · obtain rfl := Option.some.inj hp
      exact (legible_compileClauses quotable hparts).allOf

end Relational

end Polystore
