import Polystore.Document.Filter
import Polystore.Proofs.Condition.Meaning
import Polystore.Proofs.Outcome
import Polystore.Relational.Compile

/-!
# Where compiling a condition fails

Two stores compile conditions, each into a form of its own, and both refuse an operand that should
be a list and is none. The first such operator, in reading order and at any depth, decides what is
said: `checkUses` walks the operators of a condition in this order, and the verdict of either
compiler is its verdict.
-/

namespace Polystore

namespace Condition

/-- The error of an operator whose operand should be a list and is none. -/
def Use.fault (u : Use) : Error := ExecutionError.notAnArray (u.field ++ " " ++ u.op.key)

/-- The first fault among operators is an error. -/
def checkUses : List Use → Outcome Unit
  | [] => .ok ()
  | u :: rest => if u.isFaulty then .error u.fault else checkUses rest

theorem checkUses_append (us vs : List Use) :
    checkUses (us ++ vs) = (do checkUses us; checkUses vs) := by
  induction us with
  | nil => rfl
  | cons u us ih =>
    rw [List.cons_append, checkUses, checkUses, ih]
    split <;> rfl

theorem checkUses_eq_ok {us : List Use} (h : ∀ u ∈ us, u.isFaulty = false) :
    checkUses us = .ok () := by
  induction us with
  | nil => rfl
  | cons u us ih =>
    rw [checkUses, h u List.mem_cons_self]
    exact ih fun v hv => h v (List.mem_cons_of_mem _ hv)

theorem checkUses_eq_error {us : List Use} (h : ∃ u ∈ us, u.isFaulty = true) :
    ∃ e, checkUses us = .error e := by
  induction us with
  | nil => obtain ⟨u, hu, _⟩ := h; cases hu
  | cons u us ih =>
    rw [checkUses]
    split
    · exact ⟨_, rfl⟩
    · rename_i hu
      obtain ⟨v, hv, hf⟩ := h
      rcases List.mem_cons.mp hv with rfl | hv
      · exact absurd hf hu
      · exact ih ⟨v, hv, hf⟩

end Condition

open Condition Outcome

namespace Relational

theorem verdict_compileOperator (first : Nat) (name : String) (op : Operator) (v : Value) :
    verdict (compileOperator first name op v) = checkUses [⟨name, op, v⟩] := by
  unfold compileOperator
  rw [checkUses, checkUses, Use.isFaulty]
  split
  · rename_i h
    cases hv : v.asList with
    | none => simp [h]; rfl
    | some items => cases items <;> simp [h] <;> rfl
  · rename_i h
    split <;> simp [h] <;> rfl

theorem verdict_compileOperators (first : Nat) (name : String) (ops : List (Operator × Value)) :
    verdict (compileOperators first name ops) =
      checkUses (ops.map fun o => ⟨name, o.1, o.2⟩) := by
  induction ops generalizing first with
  | nil => rfl
  | cons o ops ih =>
    obtain ⟨op, v⟩ := o
    rw [compileOperators, List.map_cons, ← List.singleton_append, checkUses_append]
    refine verdict_bind (verdict_compileOperator first name op v) fun pb => ?_
    rw [← ih (first + pb.2.length)]
    exact verdict_map _ _

theorem verdict_compileTest (first : Nat) (name : String) (test : FieldTest) :
    verdict (compileTest first name test) = checkUses (usesOfTest name test) := by
  cases test with
  | equals v => exact verdict_compileOperators first name [(.eq, v)]
  | operators ops => exact verdict_compileOperators first name ops

mutual

theorem verdict_compileClause (first : Nat) (clause : Clause) :
    verdict (compileClause first clause) = checkUses (clauseUses clause) := by
  cases clause with
  | field name test => exact verdict_compileTest first name test
  | and conditions =>
    rw [compileClause, clauseUses, ← verdict_compileConditions first conditions]
    exact verdict_map _ _
  | or conditions =>
    rw [compileClause, clauseUses, ← verdict_compileConditions first conditions]
    exact verdict_map _ _
  | not condition =>
    rw [compileClause, clauseUses, ← verdict_compileClauses first condition]
    exact verdict_map _ _

theorem verdict_compileClauses (first : Nat) (clauses : List Clause) :
    verdict (compileClauses first clauses) = checkUses (uses clauses) := by
  cases clauses with
  | nil => rfl
  | cons clause rest =>
    rw [compileClauses, uses, checkUses_append]
    refine verdict_bind (verdict_compileClause first clause) fun pb => ?_
    rw [← verdict_compileClauses (first + pb.2.length) rest]
    exact verdict_map _ _

theorem verdict_compileConditions (first : Nat) (conditions : List (List Clause)) :
    verdict (compileConditions first conditions) = checkUses (usesOfAll conditions) := by
  cases conditions with
  | nil => rfl
  | cons condition rest =>
    rw [compileConditions, usesOfAll, checkUses_append]
    refine verdict_bind (verdict_compileClauses first condition) fun pb => ?_
    rw [← verdict_compileConditions (first + pb.2.length) rest]
    exact verdict_map _ _

end

theorem verdict_compileFrom (first : Nat) (c : Condition) :
    verdict (compileFrom first c) = checkUses (uses c) := by
  rw [← verdict_compileClauses first c]
  exact verdict_map _ _

end Relational

namespace Document.Filter

theorem checkOperands_eq (name : String) (ops : List (Operator × Value)) :
    checkOperands name ops = checkUses (ops.map fun o => ⟨name, o.1, o.2⟩) := by
  induction ops with
  | nil => rfl
  | cons o ops ih =>
    obtain ⟨op, v⟩ := o
    rw [checkOperands, List.map_cons, checkUses, ih]
    rfl

theorem verdict_ofTest (name : String) (test : FieldTest) :
    verdict (ofClause (.field name test)) = checkUses (usesOfTest name test) := by
  have uses_eq : usesOfTest name test = (operatorsOf test).map fun o => ⟨name, o.1, o.2⟩ := by
    cases test <;> rfl
  rw [ofClause, checkOperands_eq, ← uses_eq]
  cases checkUses (usesOfTest name test) <;> rfl

mutual

theorem verdict_ofClause (clause : Clause) :
    verdict (ofClause clause) = checkUses (clauseUses clause) := by
  cases clause with
  | field name test => exact verdict_ofTest name test
  | and conditions =>
    rw [ofClause, clauseUses, ← verdict_ofConditions conditions, verdict_map]
  | or conditions =>
    rw [ofClause, clauseUses, ← verdict_ofConditions conditions, verdict_map]
  | not condition =>
    rw [ofClause, clauseUses, ← verdict_ofClauses condition, verdict_map]

theorem verdict_ofClauses (clauses : List Clause) :
    verdict (ofClauses clauses) = checkUses (uses clauses) := by
  cases clauses with
  | nil => rfl
  | cons clause rest =>
    rw [ofClauses, uses, checkUses_append]
    refine verdict_bind (verdict_ofClause clause) fun f => ?_
    rw [← verdict_ofClauses rest]
    exact verdict_map _ _

theorem verdict_ofConditions (conditions : List (List Clause)) :
    verdict (ofConditions conditions) = checkUses (usesOfAll conditions) := by
  cases conditions with
  | nil => rfl
  | cons condition rest =>
    rw [ofConditions, usesOfAll, checkUses_append]
    refine verdict_bind (verdict_ofClauses condition) fun parts => ?_
    rw [← verdict_ofConditions rest]
    exact verdict_map _ _

end

theorem verdict_ofCondition (c : Condition) :
    verdict (ofCondition c) = checkUses (uses c) := by
  rw [ofCondition, verdict_map, verdict_ofClauses]

end Document.Filter

end Polystore
