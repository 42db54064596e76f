import Polystore.Condition.Basic

/-!
# The key that a query is about

An entry of a bucket is found by its key alone. The key of a query is the scalar under the field
`key`, else that under the field `id`, and `default` when there is neither. Conditions are searched
before data, clause by clause, through conjunctions and disjunctions but not through negations;
where a field holds an object, the object is searched for the name at any depth.
-/

namespace Polystore.KeyValue

/-- The key of queries that name none. -/
def defaultKey : String := "default"

/-- The fields that can hold the key, the first of them first. -/
def keyFields : List String := ["key", "id"]

/-- The text of a scalar document as a key; arrays and `null` are no keys. -/
def scalarText (j : Json) : Option String :=
  match Value.ofJson j with
  | .null => none
  | .list _ => none
  | .json _ => none
  | v => some v.keyText

mutual

/-- The key in an object: under the name itself, where an object is searched in turn, else in the
first field that holds one. -/
def keyInJson (name : String) : Json → Option String
  | .object fields => (keyUnderName name fields).or (keyInFields name fields)
  | _ => none

/-- The key under a name among fields. -/
def keyUnderName (name : String) : List (String × Json) → Option String
  | [] => none
  | (k, j) :: rest =>
    if k = name then (scalarText j).or (keyInJson name j) else keyUnderName name rest

/-- The key in the first of the fields that hold one. -/
def keyInFields (name : String) : List (String × Json) → Option String
  | [] => none
  | (_, j) :: rest => (keyInJson name j).or (keyInFields name rest)

end

/-- The key that a value is: a scalar is one, an object is searched. -/
def scalarKey (name : String) : Value → Option String
  | .null => none
  | .list _ => none
  | .json j => keyInJson name j
  | v => some v.keyText

/-- The key that the first equality among operators gives. -/
def keyInOperators (name : String) (ops : List (Operator × Value)) : Option String :=
  match ops.find? (·.1 = .eq) with
  | some (_, v) => scalarKey name v
  | none => none

/-- The key that the test of a field gives. -/
def keyInTest (name field : String) (test : FieldTest) : Option String :=
  if field = name then
    match test with
    | .equals v => scalarKey name v
    | .operators ops => keyInOperators name ops
  else
    match test with
    | .equals (.json j) => keyInJson name j
    | _ => none

mutual

/-- The key that a clause gives. -/
def keyInClause (name : String) : Clause → Option String
  | .field field test => keyInTest name field test
  | .and conditions => keyInConditions name conditions
  | .or conditions => keyInConditions name conditions
  | .not _ => none

/-- The key in the first of the clauses that give one. -/
def keyInClauses (name : String) : List Clause → Option String
  | [] => none
  | clause :: rest => (keyInClause name clause).or (keyInClauses name rest)

/-- The key in the first of the conditions that give one. -/
def keyInConditions (name : String) : List (List Clause) → Option String
  | [] => none
  | condition :: rest => (keyInClauses name condition).or (keyInConditions name rest)

end

/-- The key in the first value that is an object with one. -/
def keyInValues (name : String) : List Value → Option String
  | [] => none
  | .json j :: rest => (keyInJson name j).or (keyInValues name rest)
  | _ :: rest => keyInValues name rest

/-- The key in a row: under the name itself, else in the first object that has one. -/
def keyInRow (name : String) (row : Row) : Option String :=
  ((row.get? name).bind (scalarKey name)).or (keyInValues name row.values)

/-- The key under one of some names, the conditions before the data for each of them. -/
def keyUnder (conditions : Option Condition) (data : Option Row) : List String → Option String
  | [] => none
  | name :: rest =>
    (conditions.bind (keyInClauses name)).or <|
      (data.bind (keyInRow name)).or (keyUnder conditions data rest)

/-- The key that a query is about. -/
def extractKey (conditions : Option Condition) (data : Option Row) : String :=
  (keyUnder conditions data keyFields).getD defaultKey

end Polystore.KeyValue
