import Polystore.Statement.Basic

/-!
# From queries to statements

A query becomes a statement that refers to its values by parameters, numbered in the order in which
the text of the statement shows them. `null` is tested by `IS NULL` and membership in an empty list
is a constant; neither binds anything.

Every function takes the number of the first parameter that is still free and gives, beside what it
makes, the values that it binds from there on.
-/

namespace Polystore.Relational

/-- The parameters of values, from a number on. -/
def parametersFrom (first : Nat) : List Value → List Operand
  | [] => []
  | _ :: rest => .param first :: parametersFrom (first + 1) rest

/-- The error of an operator on a field that needs a list and has none. -/
def notAList (name : String) (op : Operator) : Error :=
  ExecutionError.notAnArray (name ++ " " ++ op.key)

/-- The predicate of one operator on a field. -/
def compileOperator (first : Nat) (name : String) (op : Operator) (v : Value) :
    Outcome (Predicate × List Value) :=
  if op.takesList then
    match v.asList with
    | none => .error (notAList name op)
    | some [] => .ok (.literal (op == .notWithin), [])
    | some items => .ok (.compare name (.ofOperator op) (.list (parametersFrom first items)), items)
  else if v.isNull && (op == .eq || op == .ne) then .ok (.isNull name (op == .ne), [])
  else .ok (.compare name (.ofOperator op) (.param first), [v])

/-- The predicates of the operators on a field. -/
def compileOperators (first : Nat) (name : String) :
    List (Operator × Value) → Outcome (List Predicate × List Value)
  | [] => .ok ([], [])
  | (op, v) :: rest => do
    let (p, bound) ← compileOperator first name op v
    let (ps, more) ← compileOperators (first + bound.length) name rest
    .ok (p :: ps, bound ++ more)

/-- The predicates of the test of a field. -/
def compileTest (first : Nat) (name : String) : FieldTest → Outcome (List Predicate × List Value)
  | .equals v => compileOperators first name [(.eq, v)]
  | .operators ops => compileOperators first name ops

/-- The predicate of parts that shall all hold inside another predicate; of no parts it is true. -/
def nestedPredicate (parts : List Predicate) : Predicate :=
  if parts.isEmpty then .literal true else .allOf parts

mutual

/-- The predicates of a clause. -/
def compileClause (first : Nat) : Clause → Outcome (List Predicate × List Value)
  | .field name test => compileTest first name test
  | .and conditions => do
    let (parts, bound) ← compileConditions first conditions
    .ok ([.and parts], bound)
  | .or conditions => do
    let (parts, bound) ← compileConditions first conditions
    .ok ([.or parts], bound)
  | .not condition => do
    let (parts, bound) ← compileClauses first condition
    .ok ([.not (nestedPredicate parts)], bound)

/-- The predicates of clauses, one after the other. -/
def compileClauses (first : Nat) : List Clause → Outcome (List Predicate × List Value)
  | [] => .ok ([], [])
  | clause :: rest => do
    let (ps, bound) ← compileClause first clause
    let (qs, more) ← compileClauses (first + bound.length) rest
    .ok (ps ++ qs, bound ++ more)

/-- One predicate for each of some conditions. -/
def compileConditions (first : Nat) : List (List Clause) → Outcome (List Predicate × List Value)
  | [] => .ok ([], [])
  | condition :: rest => do
    let (parts, bound) ← compileClauses first condition
    let (ps, more) ← compileConditions (first + bound.length) rest
    .ok (nestedPredicate parts :: ps, bound ++ more)

end

/-- The predicate of a condition, if it has clauses, and the values that it binds. -/
def compileFrom (first : Nat) (c : Condition) : Outcome (Option Predicate × List Value) := do
  let (parts, bound) ← compileClauses first c
  .ok (if parts.isEmpty then none else some (.allOf parts), bound)

/-- The predicate of a condition by itself. -/
def compileCondition (c : Condition) : Outcome (Option Predicate × List Value) := compileFrom 0 c

/-- The predicate of a condition that may be missing. -/
def compileFilter (first : Nat) : Option Condition → Outcome (Option Predicate × List Value)
  | some c => compileFrom first c
  | none => .ok (none, [])

/-- The statement of a query and the values that it binds. -/
def compile : Query → Outcome (Bound Statement)
  | .create table schema => .ok ⟨.createTable table schema true, []⟩
  | .select s => do
    let (filter, bound) ← compileFilter 0 s.conditions
    .ok ⟨.select
      { table := s.table, fields := s.fields.getD [], filter, groupBy := s.groupings
        orderBy := s.orderings, limit := s.limit, offset := s.offset }, bound⟩
  | .insert table data =>
    .ok ⟨.insert table data.keys (parametersFrom 0 data.values), data.values⟩
  | .update table changes conditions => do
    if changes.isEmpty then
      throw (.shape <| .invalidStatement "UPDATE" ("no columns to set on " ++ table))
    let values := changes.values
    let (filter, bound) ← compileFilter values.length conditions
    .ok ⟨.update table (changes.keys.zip (parametersFrom 0 values)) filter, values ++ bound⟩
  | .delete table conditions => do
    let (filter, bound) ← compileFilter 0 conditions
    .ok ⟨.delete table filter, bound⟩
  | .alter table alterations =>
    if alterations.isEmpty then
      .error (.shape <| .invalidStatement "ALTER TABLE" ("no alterations for " ++ table))
    else .ok ⟨.alterTable table alterations, []⟩
  | .dropTable table => .ok ⟨.dropTable table true, []⟩
  | .dropIndex table index => .ok ⟨.dropIndex table index true, []⟩
  | .createIndex table index columns unique =>
    .ok ⟨.createIndex table index columns unique true, []⟩

end Polystore.Relational
