import Polystore.Document.Store
import Polystore.Proofs.Condition.Faults
import Polystore.Proofs.Condition.Predicates

/-!
# Both compiled forms of a condition mean the condition

A filter on documents holds its values itself, but it reads fields by path: where the name of a
field has a dot it means something else than the predicate of a table. Without dots a path is the
field itself, and the filter means the condition as the predicate does.
-/

namespace Polystore

open Condition Outcome

namespace Document

/-! ## Paths without dots -/

theorem segments_of_dotFree {cs : List Char} (h : '.' ∉ cs) (current : List Char) :
    segments current cs = [String.ofList (current.reverse ++ cs)] := by
  induction cs generalizing current with
  | nil => rw [segments, List.append_nil]
  | cons c cs ih =>
    rw [List.mem_cons, not_or] at h
    have hc : (c == '.') = false := beq_eq_false_iff_ne.mpr fun e => h.1 e.symm
    rw [segments, hc]
    show segments (c :: current) cs = _
    rw [ih h.2, List.reverse_cons, List.append_assoc, List.singleton_append]

/-- A path without dots leads to the field of this name. -/
theorem lookupPath_of_dotFree {name : String} (h : '.' ∉ name.toList) (document : Row) :
    lookupPath document name = document.at name := by
  rw [lookupPath, segments_of_dotFree h, List.reverse_nil, List.nil_append, String.ofList_toList,
    Row.at]
  dsimp only
  cases document.get? name <;> rfl

namespace Filter

variable {caseSensitive : Bool} {document : Row} {a b : Bool}

/-! ## What filters hold of -/

theorem meetsAll_cons {f : Filter} {fs : List Filter}
    (hf : meets caseSensitive document f = .ok a)
    (hfs : meetsAll caseSensitive document fs = .ok b) :
    meetsAll caseSensitive document (f :: fs) = .ok (a && b) := by
  rw [meetsAll, hf]
  cases a with
  | false => rfl
  | true => exact hfs

theorem meetsAny_cons {f : Filter} {fs : List Filter}
    (hf : meets caseSensitive document f = .ok a)
    (hfs : meetsAny caseSensitive document fs = .ok b) :
    meetsAny caseSensitive document (f :: fs) = .ok (a || b) := by
  rw [meetsAny, hf]
  cases a with
  | false => exact hfs
  | true => rfl

/-- A single part stands for all parts. -/
theorem meets_allOf (fs : List Filter) :
    meets caseSensitive document (allOf fs) = meetsAll caseSensitive document fs := by
  match fs with
  | [] => rfl
  | [f] =>
    rw [allOf, meetsAll]
    cases meets caseSensitive document f with
    | error e => rfl
    | ok c => cases c <;> rfl
  | f :: g :: rest => rfl

/-- Operators whose operands are in order hold of a value when they mean to. -/
theorem operatorsHold_eq {name : String} {ops : List (Operator × Value)} (caseSensitive : Bool)
    (actual : Value) (h : checkOperands name ops = .ok ()) :
    operatorsHold caseSensitive actual ops =
      .ok (ops.all fun o => o.1.means caseSensitive actual o.2) := by
  induction ops with
  | nil => rfl
  | cons o ops ih =>
    obtain ⟨op, v⟩ := o
    rw [checkOperands] at h
    split at h
    · cases h
    · rename_i hop
      have sound : op.takesList = true → v.asList ≠ none := by
        intro ht hn
        rw [ht, hn] at hop
        exact hop rfl
      rw [operatorsHold, Comparison.holds_ofOperator caseSensitive actual sound, List.all_cons]
      cases op.means caseSensitive actual v with
      | false => rfl
      | true => exact ih h

theorem ofTest_meets {name : String} {test : FieldTest} {f : Filter} (caseSensitive : Bool)
    (document : Row) (dotFree : '.' ∉ name.toList) (h : ofClause (.field name test) = .ok f) :
    meets caseSensitive document f = .ok (test.means caseSensitive (document.at name)) := by
  obtain ⟨_, checked, h⟩ := bind_eq_ok.mp h
  cases h
  rw [meets, lookupPath_of_dotFree dotFree, operatorsHold_eq _ _ checked]
  cases test with
  | equals v => rw [operatorsOf, List.all_cons, List.all_nil, Bool.and_true]; rfl
  | operators ops => rfl

mutual

theorem ofClause_meets {clause : Clause} {f : Filter} (caseSensitive : Bool) (document : Row)
    (dotFree : ∀ name ∈ clauseNames clause, '.' ∉ name.toList) (h : ofClause clause = .ok f) :
    meets caseSensitive document f = .ok (clauseMeans caseSensitive document clause) := by
  cases clause with
  | field name test =>
    exact ofTest_meets caseSensitive document (dotFree name List.mem_cons_self) h
  | and conditions =>
    obtain ⟨fs, hfs, rfl⟩ := map_eq_ok.mp h
    exact (ofConditions_meets caseSensitive document dotFree hfs).1
  | or conditions =>
    obtain ⟨fs, hfs, rfl⟩ := map_eq_ok.mp h
    exact (ofConditions_meets caseSensitive document dotFree hfs).2
  | not condition =>
    obtain ⟨fs, hfs, rfl⟩ := map_eq_ok.mp h
    rw [meets, meets_allOf, ofClauses_meets caseSensitive document dotFree hfs]
    rfl

/-- The filters of clauses hold together when every clause does. -/
theorem ofClauses_meets {clauses : List Clause} {fs : List Filter} (caseSensitive : Bool)
    (document : Row) (dotFree : ∀ name ∈ names clauses, '.' ∉ name.toList)
    (h : ofClauses clauses = .ok fs) :
    meetsAll caseSensitive document fs = .ok (means caseSensitive document clauses) := by
  cases clauses with
  | nil =>
    cases h
    rfl
  | cons clause rest =>
    rw [ofClauses] at h
    obtain ⟨f, hf, h⟩ := bind_eq_ok.mp h
    obtain ⟨fs, hfs, h⟩ := bind_eq_ok.mp h
    cases h
    rw [names] at dotFree
    exact meetsAll_cons
      (ofClause_meets caseSensitive document
        (fun name hn => dotFree name (List.mem_append_left _ hn)) hf)
      (ofClauses_meets caseSensitive document
        (fun name hn => dotFree name (List.mem_append_right _ hn)) hfs)

theorem ofConditions_meets {conditions : List (List Clause)} {fs : List Filter}
    (caseSensitive : Bool) (document : Row)
    (dotFree : ∀ name ∈ namesOfAll conditions, '.' ∉ name.toList)
    (h : ofConditions conditions = .ok fs) :
    meetsAll caseSensitive document fs = .ok (allMean caseSensitive document conditions) ∧
      meetsAny caseSensitive document fs = .ok (anyMeans caseSensitive document conditions) := by
  cases conditions with
  | nil =>
    cases h
    exact ⟨rfl, rfl⟩
  | cons condition rest =>
    rw [ofConditions] at h
    obtain ⟨parts, hparts, h⟩ := bind_eq_ok.mp h
    obtain ⟨fs, hfs, h⟩ := bind_eq_ok.mp h
    cases h
    rw [namesOfAll] at dotFree
    have here := ofClauses_meets caseSensitive document
      (fun name hn => dotFree name (List.mem_append_left _ hn)) hparts
    obtain ⟨all, any⟩ := ofConditions_meets caseSensitive document
      (fun name hn => dotFree name (List.mem_append_right _ hn)) hfs
    rw [← meets_allOf] at here
    exact ⟨meetsAll_cons here all, meetsAny_cons here any⟩

end

theorem ofCondition_meets {c : Condition} {f : Filter} (caseSensitive : Bool) (document : Row)
    (dotFree : c.DotFree) (h : ofCondition c = .ok f) :
    meets caseSensitive document f = .ok (means caseSensitive document c) := by
  obtain ⟨fs, hfs, rfl⟩ := map_eq_ok.mp h
  rw [meets_allOf]
  exact ofClauses_meets caseSensitive document dotFree hfs

end Filter

end Document

namespace Condition

open Document

/-! ## The two compiled forms -/

/-- Neither compiler fails on a condition whose operands are in order. -/
theorem exists_compiled {c : Condition} (h : ∀ u ∈ uses c, u.isFaulty = false) :
    ∃ p bound f, Relational.compileCondition c = .ok (p, bound) ∧ Filter.ofCondition c = .ok f := by
  have checked := checkUses_eq_ok h
  obtain ⟨⟨p, bound⟩, hp⟩ :=
    exists_ok_of_verdict ((Relational.verdict_compileFrom 0 c).trans checked)
  obtain ⟨f, hf⟩ := exists_ok_of_verdict ((Filter.verdict_ofCondition c).trans checked)
  exact ⟨p, bound, f, hp, hf⟩

/-- **Both compilers are right about a condition.** They fail on the same conditions with the same
error, and they fail exactly when an operator at any depth should have a list and has none. What
they make of any other condition answers on every row what the condition means there. -/
theorem compiled_forms_agree (c : Condition) (dotFree : c.DotFree) :
    (∀ e, Relational.compileCondition c = .error e ↔ Filter.ofCondition c = .error e) ∧
      ((∃ e, Relational.compileCondition c = .error e) ↔ ∃ u ∈ uses c, u.isFaulty = true) ∧
      ((∀ u ∈ uses c, u.isFaulty = false) →
        ∃ p bound f, Relational.compileCondition c = .ok (p, bound) ∧
          Filter.ofCondition c = .ok f ∧
          ∀ (caseSensitive : Bool) (row : Row),
            meets bound caseSensitive p row = .ok (means caseSensitive row c) ∧
              f.meets caseSensitive row = .ok (means caseSensitive row c)) := by
  refine ⟨?_, ?_, ?_⟩
  · intro e
    have verdicts := (Relational.verdict_compileFrom 0 c).trans (Filter.verdict_ofCondition c).symm
    exact eq_error_iff_of_verdict verdicts
  · constructor
    · rintro ⟨e, he⟩
      by_cases faulty : ∃ u ∈ uses c, u.isFaulty = true
      · exact faulty
      · have sound : ∀ u ∈ uses c, u.isFaulty = false :=
          fun u hu => Bool.eq_false_iff.mpr fun hf => faulty ⟨u, hu, hf⟩
        obtain ⟨p, bound, f, hp, _⟩ := exists_compiled sound
        rw [hp] at he
        cases he
    · intro faulty
      obtain ⟨e, he⟩ := checkUses_eq_error faulty
      exact ⟨e, eq_error_iff_verdict.mpr ((Relational.verdict_compileFrom 0 c).trans he)⟩
  · intro sound
    obtain ⟨p, bound, f, hp, hf⟩ := exists_compiled sound
    exact ⟨p, bound, f, hp, hf, fun caseSensitive row =>
      ⟨Relational.compileCondition_meets caseSensitive row hp,
        Filter.ofCondition_meets caseSensitive row dotFree hf⟩⟩

/-- A condition with every oddity of the compilers: an empty list, `null`, conjunctions of no and of
one part, and values bound on both sides of a negation. -/
def layered : Condition :=
  [.field "age" (.operators [(.gte, .int 18), (.notWithin, .list []), (.ne, .null)]),
    .not [.or [[], [.field "name" (.equals (.text "Ada"))]]],
    .or [[.and []], [.field "tag" (.operators [(.within, .list [.int 1, .text "a"])])]]]

theorem compiled_forms_agree_layered :
    layered.DotFree ∧ (∀ u ∈ uses layered, u.isFaulty = false) ∧
      ∃ p bound f, Relational.compileCondition layered = .ok (p, bound) ∧
        Filter.ofCondition layered = .ok f ∧
        ∀ (caseSensitive : Bool) (row : Row),
          meets bound caseSensitive p row = .ok (means caseSensitive row layered) ∧
            f.meets caseSensitive row = .ok (means caseSensitive row layered) :=
  ⟨by decide, by decide, (compiled_forms_agree layered (by decide)).2.2 (by decide)⟩

end Condition

end Polystore
