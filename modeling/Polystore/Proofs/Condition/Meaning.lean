import Polystore.Condition.Basic
import Polystore.Statement.Holds

/-!
# What a condition means

Two stores compile conditions, each into a form of its own. Neither form is the meaning of a
condition: this file gives that meaning directly, on a row, by recursion on the clauses. A missing
field reads as `null`, a bare value is loose equality, a set of operators asks that every one of
them holds, and the three joining clauses are what their names say, also of no conditions at all.

Beside the meaning stand two views of a condition that say nothing about rows: the names of its
fields, and its operators in reading order, each with its operand.
-/

namespace Polystore

namespace Value

theorem eq_null_of_isNull {v : Value} (h : v.isNull = true) : v = .null := by
  cases v with
  | null => rfl
  | _ => cases h

theorem eq_list_of_asList {v : Value} {items : List Value} (h : v.asList = some items) :
    v = .list items := by
  cases v with
  | list xs => rw [Option.some.inj h]
  | _ => cases h

/-- Only `null` equals `null`. -/
theorem looseEq_null (v : Value) : v.looseEq .null = v.isNull := by
  cases v <;> simp [looseEq, isNull]

end Value

/-- Whether an operator holds between the value of a field and its operand. An operand that should
be a list and is none holds no value. -/
def Operator.means (caseSensitive : Bool) (op : Operator) (actual operand : Value) : Bool :=
  match op with
  | .eq => actual.looseEq operand
  | .ne => !actual.looseEq operand
  | .gt => actual.isOrdered Ordering.isGT operand
  | .gte => actual.isOrdered Ordering.isGE operand
  | .lt => actual.isOrdered Ordering.isLT operand
  | .lte => actual.isOrdered Ordering.isLE operand
  | .within => (operand.asList.getD []).any actual.looseEq
  | .notWithin => !(operand.asList.getD []).any actual.looseEq
  | .like => (actual.likeMatch caseSensitive operand).getD false
  | .notLike => ((actual.likeMatch caseSensitive operand).map (!·)).getD false

/-- Whether the value of a field passes a test. -/
def FieldTest.means (caseSensitive : Bool) (actual : Value) : FieldTest → Bool
  | .equals v => actual.looseEq v
  | .operators ops => ops.all fun o => o.1.means caseSensitive actual o.2

namespace Condition

mutual

/-- Whether a clause holds of a row. -/
def clauseMeans (caseSensitive : Bool) (row : Row) : Clause → Bool
  | .field name test => test.means caseSensitive (row.at name)
  | .and conditions => allMean caseSensitive row conditions
  | .or conditions => anyMeans caseSensitive row conditions
  | .not condition => !means caseSensitive row condition

/-- Whether a condition holds of a row: every clause does. -/
def means (caseSensitive : Bool) (row : Row) : List Clause → Bool
  | [] => true
  | clause :: rest => clauseMeans caseSensitive row clause && means caseSensitive row rest

/-- Whether every condition of a list holds of a row. -/
def allMean (caseSensitive : Bool) (row : Row) : List (List Clause) → Bool
  | [] => true
  | condition :: rest => means caseSensitive row condition && allMean caseSensitive row rest

/-- Whether some condition of a list holds of a row. -/
def anyMeans (caseSensitive : Bool) (row : Row) : List (List Clause) → Bool
  | [] => false
  | condition :: rest => means caseSensitive row condition || anyMeans caseSensitive row rest

end

/-! ## The fields of a condition -/

mutual

/-- The names of the fields that a clause tests, at any depth. -/
def clauseNames : Clause → List String
  | .field name _ => [name]
  | .and conditions => namesOfAll conditions
  | .or conditions => namesOfAll conditions
  | .not condition => names condition

/-- The names of the fields that a condition tests, at any depth. -/
def names : List Clause → List String
  | [] => []
  | clause :: rest => clauseNames clause ++ names rest

/-- The names of the fields that the conditions of a list test, at any depth. -/
def namesOfAll : List (List Clause) → List String
  | [] => []
  | condition :: rest => names condition ++ namesOfAll rest

end

/-- No name of a field leads through a path. -/
def DotFree (c : Condition) : Prop := ∀ name ∈ names c, '.' ∉ name.toList

instance (c : Condition) : Decidable c.DotFree :=
  inferInstanceAs (Decidable (∀ name ∈ names c, '.' ∉ name.toList))

/-! ## The operators of a condition -/

/-- An operator on a field, with its operand. -/
structure Use where
  field : String
  op : Operator
  operand : Value

/-- Whether the operand should be a list and is none. -/
def Use.isFaulty (u : Use) : Bool := u.op.takesList && u.operand.asList.isNone

/-- The operators that a test of a field uses. -/
def usesOfTest (name : String) : FieldTest → List Use
  | .equals v => [⟨name, .eq, v⟩]
  | .operators ops => ops.map fun o => ⟨name, o.1, o.2⟩

mutual

/-- The operators that a clause uses, from left to right. -/
def clauseUses : Clause → List Use
  | .field name test => usesOfTest name test
  | .and conditions => usesOfAll conditions
  | .or conditions => usesOfAll conditions
  | .not condition => uses condition

/-- The operators that a condition uses, from left to right. -/
def uses : List Clause → List Use
  | [] => []
  | clause :: rest => clauseUses clause ++ uses rest

/-- The operators that the conditions of a list use, from left to right. -/
def usesOfAll : List (List Clause) → List Use
  | [] => []
  | condition :: rest => uses condition ++ usesOfAll rest

end

end Condition

/-! ## The comparison that an operator stands for -/

/-- A comparison whose operand is in order settles what the operator means. -/
theorem Comparison.holds_ofOperator {op : Operator} {v : Value} (caseSensitive : Bool)
    (actual : Value) (h : op.takesList = true → v.asList ≠ none) :
    (Comparison.ofOperator op).holds caseSensitive actual v =
      .ok (op.means caseSensitive actual v) := by
  cases op with
  | within =>
    obtain ⟨items, hv⟩ := Option.ne_none_iff_exists'.mp (h rfl)
    simp [Comparison.ofOperator, Comparison.holds, Operator.means, hv]
  | notWithin =>
    obtain ⟨items, hv⟩ := Option.ne_none_iff_exists'.mp (h rfl)
    simp [Comparison.ofOperator, Comparison.holds, Operator.means, hv]
  | _ => rfl

end Polystore
