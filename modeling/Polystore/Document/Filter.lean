import Polystore.Condition.Codec
import Polystore.Error

/-!
# Filters on documents

What a condition becomes for a store of documents: one filter for each clause, joined when there
are several. A bare value becomes an equality. Operands that must be lists are checked here, so a
compiled filter is always applicable.
-/

namespace Polystore.Document

/-- A filter on documents. -/
inductive Filter where
  /-- Every document meets it. -/
  | all
  /-- The operators hold of one field. -/
  | field (name : String) (ops : List (Operator × Value))
  | and (parts : List Filter)
  | or (parts : List Filter)
  | not (inner : Filter)

namespace Filter

/-- The operators that a test stands for. -/
def operatorsOf : FieldTest → List (Operator × Value)
  | .equals v => [(.eq, v)]
  | .operators ops => ops

/-- Every operator that needs a list must have one. -/
def checkOperands (name : String) : List (Operator × Value) → Outcome Unit
  | [] => .ok ()
  | (op, v) :: rest =>
    if op.takesList && v.asList.isNone then
      .error (ExecutionError.notAnArray (name ++ " " ++ op.key))
    else checkOperands name rest

/-- The filter that all parts make together. -/
def allOf : List Filter → Filter
  | [] => .all
  | [f] => f
  | parts => .and parts

mutual

/-- The filter of a clause. -/
def ofClause : Clause → Outcome Filter
  | .field name test => do
    let ops := operatorsOf test
    checkOperands name ops
    .ok (.field name ops)
  | .and conditions => (ofConditions conditions).map .and
  | .or conditions => (ofConditions conditions).map .or
  | .not condition => (ofClauses condition).map fun parts => .not (allOf parts)

/-- The filters of clauses. -/
def ofClauses : List Clause → Outcome (List Filter)
  | [] => .ok []
  | clause :: rest => do
    let f ← ofClause clause
    let fs ← ofClauses rest
    .ok (f :: fs)

/-- The filters of conditions. -/
def ofConditions : List (List Clause) → Outcome (List Filter)
  | [] => .ok []
  | condition :: rest => do
    let parts ← ofClauses condition
    let fs ← ofConditions rest
    .ok (allOf parts :: fs)

end

/-- The filter of a condition. -/
def ofCondition (c : Condition) : Outcome Filter := (ofClauses c).map allOf

/-- The filter of a condition that may be missing. -/
def ofConditions? : Option Condition → Outcome Filter
  | some c => ofCondition c
  | none => .ok .all

mutual

/-- A filter as a document. -/
def toJson : Filter → Json
  | .all => .object []
  | .field name ops => .object [(name, (FieldTest.operators ops).toJson)]
  | .and parts => .object [("$and", .array (partsToJson parts))]
  | .or parts => .object [("$or", .array (partsToJson parts))]
  | .not inner => .object [("$not", toJson inner)]

/-- The parts of a filter as documents. -/
def partsToJson : List Filter → List Json
  | [] => []
  | f :: rest => toJson f :: partsToJson rest

end

end Filter

end Polystore.Document
