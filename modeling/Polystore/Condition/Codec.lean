import Polystore.Condition.Basic
import Polystore.Error
import Polystore.Json.Fields

/-!
# Conditions as documents

A condition is an object. The keys `$and`, `$or` and `$not` join conditions, every other key with a
dollar in front is an error, and the rest name fields. A field whose value is an object with
dollar keys only, and at least one, has a set of operators; any other value is the one it equals.
-/

namespace Polystore

namespace FieldTest

/-- A test as a document. -/
def toJson : FieldTest → Json
  | .equals v => v.toJson
  | .operators ops =>
    .object (ops.foldl (fun fields o => Json.setField o.1.key o.2.toJson fields) [])

/-- The operators of an object, in its order. -/
def readOperators : List (String × Json) → Outcome (List (Operator × Value))
  | [] => .ok []
  | (key, operand) :: rest =>
    match Operator.ofKey? key with
    | none => .error (SyntaxError.unknownOperator key)
    | some op => do
      let ops ← readOperators rest
      .ok ((op, Value.ofJson operand) :: ops)

/-- Whether a key has a dollar in front. -/
def isDollarKey (key : String) : Bool := ['$'].isPrefixOf key.toList

/-- The test that a document describes. -/
def ofJson : Json → Outcome FieldTest
  | .object fields =>
    if fields.isEmpty || !fields.all (isDollarKey ·.1) then
      .ok (.equals (.json (.object fields)))
    else (readOperators fields).map .operators
  | j => .ok (.equals (Value.ofJson j))

end FieldTest

namespace Condition

mutual

/-- The fields of an object, with that of a clause set. -/
def putClause (fields : List (String × Json)) : Clause → List (String × Json)
  | .field name test => Json.setField name test.toJson fields
  | .and conditions => Json.setField "$and" (.array (listToJson conditions)) fields
  | .or conditions => Json.setField "$or" (.array (listToJson conditions)) fields
  | .not condition => Json.setField "$not" (.object (putClauses [] condition)) fields

/-- The fields of an object, with those of clauses set one after the other. -/
def putClauses (fields : List (String × Json)) : List Clause → List (String × Json)
  | [] => fields
  | clause :: rest => putClauses (putClause fields clause) rest

/-- The documents of conditions. -/
def listToJson : List (List Clause) → List Json
  | [] => []
  | condition :: rest => .object (putClauses [] condition) :: listToJson rest

end

/-- A condition as a document. Of two clauses under one key the later one stands in the earlier
place. -/
def toJson (c : Condition) : Json := .object (putClauses [] c)

/-- The error of a condition that is not an object. -/
def notAnObject : Error := SyntaxError.malformedCondition "condition must be an object"

/-- The error of a key that should hold several conditions. -/
def notAList (key : String) : Error :=
  SyntaxError.malformedCondition s!"{key} expects an array of conditions"

/-- The clause of a field that joins no conditions. -/
def testClause (key : String) (value : Json) : Outcome Clause :=
  if FieldTest.isDollarKey key then .error (SyntaxError.unknownOperator key)
  else (FieldTest.ofJson value).map (.field key)

mutual

/-- The condition that a document describes. -/
def ofJson : Json → Outcome Condition
  | .object fields => clausesOf fields
  | _ => .error notAnObject

/-- The clauses of the fields of an object. -/
def clausesOf : List (String × Json) → Outcome (List Clause)
  | [] => .ok []
  | (key, value) :: rest => do
    let clause ← clauseOf key value
    let clauses ← clausesOf rest
    .ok (clause :: clauses)

/-- The clause of one field of an object. -/
def clauseOf (key : String) : Json → Outcome Clause
  | .array items =>
    if key = "$and" then (conditionsOf items).map .and
    else if key = "$or" then (conditionsOf items).map .or
    else if key = "$not" then .error notAnObject
    else testClause key (.array items)
  | .object fields =>
    if key = "$and" || key = "$or" then .error (notAList key)
    else if key = "$not" then (clausesOf fields).map .not
    else testClause key (.object fields)
  | value =>
    if key = "$and" || key = "$or" then .error (notAList key)
    else if key = "$not" then .error notAnObject
    else testClause key value

/-- The conditions that documents describe. -/
def conditionsOf : List Json → Outcome (List Condition)
  | [] => .ok []
  | j :: rest => do
    let condition ← ofJson j
    let conditions ← conditionsOf rest
    .ok (condition :: conditions)

end

end Condition

end Polystore
