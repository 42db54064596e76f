import Polystore.Error
import Polystore.Query.Basic

/-!
# Statements

What a relational store executes: nine kinds of statement on one table each. Values stand in a
statement either as literals or as references to a list of parameters that is given when the
statement runs.
-/

namespace Polystore

/-- A place for a value. -/
inductive Operand where
  /-- The parameter of this index, counted from zero. -/
  | param (index : Nat)
  /-- A value itself. -/
  | literal (v : Value)
  /-- A list of places. -/
  | list (items : List Operand)

namespace Operand

mutual

/-- The value of a place under given parameters. -/
def resolve (params : List Value) : Operand → Outcome Value
  | .param index =>
    match params[index]? with
    | some v => .ok v
    | none => .error (ExecutionError.missingParameter index)
  | .literal v => .ok v
  | .list items => (resolveItems params items).map .list

/-- The values of the places of a list. -/
def resolveItems (params : List Value) : List Operand → Outcome (List Value)
  | [] => .ok []
  | item :: rest => do
    let v ← resolve params item
    let vs ← resolveItems params rest
    .ok (v :: vs)

end

end Operand

/-- How a column is compared with a place. -/
inductive Comparison where
  | eq
  | notEq
  | gt
  | gte
  | lt
  | lte
  | like
  | notLike
  | within
  | notWithin
deriving DecidableEq

namespace Comparison

/-- All comparisons. -/
def all : List Comparison :=
  [.eq, .notEq, .gt, .gte, .lt, .lte, .like, .notLike, .within, .notWithin]

/-- How a statement spells the comparison. -/
def spelling : Comparison → String
  | .eq => "="
  | .notEq => "!="
  | .gt => ">"
  | .gte => ">="
  | .lt => "<"
  | .lte => "<="
  | .like => "LIKE"
  | .notLike => "NOT LIKE"
  | .within => "IN"
  | .notWithin => "NOT IN"

/-- The comparison of a symbol; two of them have a second symbol. -/
def ofSymbol? (s : String) : Option Comparison :=
  if s = "=" || s = "==" then some .eq
  else if s = "!=" || s = "<>" then some .notEq
  else if s = ">" then some .gt
  else if s = ">=" then some .gte
  else if s = "<" then some .lt
  else if s = "<=" then some .lte
  else none

/-- The name of the comparison in documents. -/
def name : Comparison → String
  | .eq => "eq"
  | .notEq => "not_eq"
  | .gt => "gt"
  | .gte => "gte"
  | .lt => "lt"
  | .lte => "lte"
  | .like => "like"
  | .notLike => "not_like"
  | .within => "in"
  | .notWithin => "not_in"

/-- The comparison of a name. -/
def ofName? (s : String) : Option Comparison := all.find? (·.name = s)

/-- The comparison that an operator of a condition stands for. -/
def ofOperator : Operator → Comparison
  | .eq => .eq
  | .ne => .notEq
  | .gt => .gt
  | .gte => .gte
  | .lt => .lt
  | .lte => .lte
  | .within => .within
  | .notWithin => .notWithin
  | .like => .like
  | .notLike => .notLike

end Comparison

/-- A truth-valued expression over the columns of one row. -/
inductive Predicate where
  | compare (column : String) (op : Comparison) (operand : Operand)
  | isNull (column : String) (negated : Bool)
  | between (column : String) (low high : Operand) (negated : Bool)
  | and (parts : List Predicate)
  | or (parts : List Predicate)
  | not (inner : Predicate)
  | literal (truth : Bool)

/-- The conjunction of predicates; a single one stands for itself. -/
def Predicate.allOf : List Predicate → Predicate
  | [p] => p
  | parts => .and parts

/-- A read of one table. -/
structure SelectStatement where
  table : String
  /-- The columns to show; none show all. -/
  fields : List String
  filter : Option Predicate
  groupBy : List String
  orderBy : List SortKey
  limit : Option UInt64
  offset : Option UInt64

/-- One statement. -/
inductive Statement where
  | createTable (table : String) (columns : List ColumnDef) (ifNotExists : Bool)
  | createIndex (table index : String) (columns : List String) (unique ifNotExists : Bool)
  | insert (table : String) (columns : List String) (values : List Operand)
  | select (s : SelectStatement)
  | update (table : String) (assignments : List (String × Operand)) (filter : Option Predicate)
  | delete (table : String) (filter : Option Predicate)
  | alterTable (table : String) (alterations : List Alteration)
  | dropTable (table : String) (ifExists : Bool)
  | dropIndex (table index : String) (ifExists : Bool)

namespace Statement

/-- The table that a statement is about. -/
def table : Statement → String
  | .createTable t _ _ => t
  | .createIndex t _ _ _ _ => t
  | .insert t _ _ => t
  | .select s => s.table
  | .update t _ _ => t
  | .delete t _ => t
  | .alterTable t _ => t
  | .dropTable t _ => t
  | .dropIndex t _ _ => t

/-- The words that a statement starts with. -/
def keyword : Statement → String
  | .createTable _ _ _ => "CREATE TABLE"
  | .createIndex _ _ _ _ _ => "CREATE INDEX"
  | .insert _ _ _ => "INSERT"
  | .select _ => "SELECT"
  | .update _ _ _ => "UPDATE"
  | .delete _ _ => "DELETE"
  | .alterTable _ _ => "ALTER TABLE"
  | .dropTable _ _ => "DROP TABLE"
  | .dropIndex _ _ _ => "DROP INDEX"

/-- Whether a statement only reads. -/
def isRead : Statement → Bool
  | .select _ => true
  | _ => false

end Statement

end Polystore
