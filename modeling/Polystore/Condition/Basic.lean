import Polystore.Value.Basic

/-!
# Conditions

A condition on a row is a conjunction of clauses. A clause tests one field, by a bare value that it
shall equal or by a set of operators that shall all hold, or it joins further conditions by *and*,
*or* or *not*. The empty condition holds of every row.
-/

namespace Polystore

/-- What a field is tested by. -/
inductive Operator where
  | eq
  | ne
  | gt
  | gte
  | lt
  | lte
  | within
  | notWithin
  | like
  | notLike
deriving DecidableEq

namespace Operator

/-- All operators. -/
def all : List Operator :=
  [.eq, .ne, .gt, .gte, .lt, .lte, .within, .notWithin, .like, .notLike]

/-- The key under which an operator stands in a document. -/
def key : Operator → String
  | .eq => "$eq"
  | .ne => "$ne"
  | .gt => "$gt"
  | .gte => "$gte"
  | .lt => "$lt"
  | .lte => "$lte"
  | .within => "$in"
  | .notWithin => "$nin"
  | .like => "$like"
  | .notLike => "$nlike"

/-- The operator of a key. -/
def ofKey? (s : String) : Option Operator := all.find? (·.key = s)

@[simp] theorem ofKey?_key (op : Operator) : ofKey? op.key = some op := by
  cases op <;> decide

/-- Whether the operand of the operator is a list. -/
def takesList : Operator → Bool
  | .within | .notWithin => true
  | _ => false

end Operator

/-- The test of one field. -/
inductive FieldTest where
  /-- The field equals a value. -/
  | equals (v : Value)
  /-- Every operator holds of the field. -/
  | operators (ops : List (Operator × Value))

/-- One part of a condition. -/
inductive Clause where
  /-- A test of one field. -/
  | field (name : String) (test : FieldTest)
  /-- All conditions hold. -/
  | and (conditions : List (List Clause))
  /-- One of the conditions holds. -/
  | or (conditions : List (List Clause))
  /-- The condition does not hold. -/
  | not (condition : List Clause)

/-- A conjunction of clauses. -/
abbrev Condition := List Clause

namespace Condition

/-- The operators with one of them set; an earlier operand of it is replaced. -/
def setOperator (op : Operator) (v : Value) : List (Operator × Value) → List (Operator × Value)
  | [] => [(op, v)]
  | (o, w) :: rest => if o = op then (o, v) :: rest else (o, w) :: setOperator op v rest

/-- The clauses with an operator added to the first set of operators on a field, or with a new set
behind them when the field has none. -/
def addOperator (name : String) (op : Operator) (v : Value) : Condition → Condition
  | [] => [.field name (.operators [(op, v)])]
  | .field f (.operators ops) :: rest =>
    if f = name then .field f (.operators (setOperator op v ops)) :: rest
    else .field f (.operators ops) :: addOperator name op v rest
  | clause :: rest => clause :: addOperator name op v rest

/-! ## Building conditions step by step -/

/-- One more clause: the field equals a value. -/
def eq (c : Condition) (name : String) (v : Value) : Condition :=
  c ++ [.field name (.equals v)]

/-- One more operator on a field. -/
def op (c : Condition) (name : String) (op : Operator) (v : Value) : Condition :=
  addOperator name op v c

/-- One more clause: all of some conditions. -/
def and (c : Condition) (conditions : List Condition) : Condition := c ++ [.and conditions]

/-- One more clause: one of some conditions. -/
def or (c : Condition) (conditions : List Condition) : Condition := c ++ [.or conditions]

/-- One more clause: not a condition. -/
def not (c : Condition) (condition : Condition) : Condition := c ++ [.not condition]

end Condition

end Polystore
