import Polystore.Formatter
import Polystore.Statement.Basic

/-!
# The text of statements

Every statement has a text in the tokens of a formatter. Parameters are numbered by their index, so
the text does not depend on who binds them. Parts of conjunctions and disjunctions stand in
parentheses; empty ones, and tests for membership in an empty list, are the constants `1=1` and
`1=0`.
-/

namespace Polystore

namespace Operand

mutual

/-- The text of a place. -/
def render (f : Formatter) : Operand → Outcome String
  | .param index => .ok (f.placeholder (index + 1))
  | .literal v => f.literal v
  | .list items => do
    let parts ← renderItems f items
    .ok ("(" ++ Text.joined ", " parts ++ ")")

/-- The texts of the places of a list. -/
def renderItems (f : Formatter) : List Operand → Outcome (List String)
  | [] => .ok []
  | item :: rest => do
    let part ← render f item
    let parts ← renderItems f rest
    .ok (part :: parts)

end

/-- Whether the place is an empty list. -/
def isEmptyList : Operand → Bool
  | .list [] => true
  | _ => false

end Operand

namespace Predicate

/-- The text of a truth value. -/
def constantText (truth : Bool) : String := if truth then "1=1" else "1=0"

/-- The texts of parts in parentheses with a word between them. -/
def joinedParts (word : String) (truth : Bool) (parts : List String) : String :=
  if parts.isEmpty then constantText truth
  else Text.joined word (parts.map fun p => "(" ++ p ++ ")")

mutual

/-- The text of a predicate. -/
def render (f : Formatter) : Predicate → Outcome String
  | .compare column op operand =>
    if op == .within && operand.isEmptyList then .ok (constantText false)
    else if op == .notWithin && operand.isEmptyList then .ok (constantText true)
    else do
      let value ← operand.render f
      .ok (f.quoteName column ++ " " ++ op.spelling ++ " " ++ value)
  | .isNull column negated =>
    .ok (f.quoteName column ++ (if negated then " IS NOT NULL" else " IS NULL"))
  | .between column low high negated => do
    let lowText ← low.render f
    let highText ← high.render f
    .ok (f.quoteName column ++ (if negated then " NOT BETWEEN " else " BETWEEN ") ++ lowText ++
      " AND " ++ highText)
  | .and parts => (renderParts f parts).map (joinedParts " AND " true)
  | .or parts => (renderParts f parts).map (joinedParts " OR " false)
  | .not inner => (render f inner).map fun text => "NOT (" ++ text ++ ")"
  | .literal truth => .ok (constantText truth)

/-- The texts of the parts of a predicate. -/
def renderParts (f : Formatter) : List Predicate → Outcome (List String)
  | [] => .ok []
  | p :: rest => do
    let part ← render f p
    let parts ← renderParts f rest
    .ok (part :: parts)

end

/-- The clause of a filter, with a blank in front. -/
def whereClause (f : Formatter) : Option Predicate → Outcome String
  | none => .ok ""
  | some p => (p.render f).map (" WHERE " ++ ·)

end Predicate

namespace Direction

/-- The keyword of a direction. -/
def keyword : Direction → String
  | .ascending => "ASC"
  | .descending => "DESC"

end Direction

namespace Formatter

/-- The declaration of a column. -/
def columnDef (f : Formatter) (d : ColumnDef) : Outcome String := do
  let c := d.column
  let head := f.quoteName d.name ++ " " ++ f.columnType c ++
    (if c.primary then " PRIMARY KEY" else "") ++
    (if c.autoIncrement then " " ++ f.autoIncrement else "") ++
    (if c.unique && !c.primary then " UNIQUE" else "") ++
    (if !c.nullable && !c.primary then " NOT NULL" else "")
  match c.default with
  | none => .ok head
  | some v => do
    let text ← f.defaultValue v
    .ok (head ++ " DEFAULT " ++ text)

/-- The making of a table. -/
def createTable (f : Formatter) (table : String) (columns : List ColumnDef) (ifNotExists : Bool) :
    Outcome String := do
  let defs ← columns.mapM f.columnDef
  .ok ("CREATE TABLE " ++ (if ifNotExists then "IF NOT EXISTS " else "") ++ f.quoteName table ++
    " (" ++ Text.joined ", " defs ++ ")")

/-- One change of a table. -/
def alteration (f : Formatter) : Alteration → Outcome String
  | .add name column => (f.columnDef ⟨name, column⟩).map ("ADD COLUMN " ++ ·)
  | .drop name => .ok ("DROP COLUMN " ++ f.quoteName name)
  | .modify name column =>
    .ok ("ALTER COLUMN " ++ f.quoteName name ++ " TYPE " ++ f.columnType column)

/-- The change of a table. -/
def alterTable (f : Formatter) (table : String) (alterations : List Alteration) :
    Outcome String := do
  let actions ← alterations.mapM f.alteration
  .ok ("ALTER TABLE " ++ f.quoteName table ++ " " ++ Text.joined ", " actions)

/-- The removal of a table. -/
def dropTable (f : Formatter) (table : String) (ifExists : Bool) : String :=
  "DROP TABLE " ++ (if ifExists then "IF EXISTS " else "") ++ f.quoteName table

/-- The removal of an index. -/
def dropIndex (f : Formatter) (table index : String) (ifExists : Bool) : String :=
  "DROP INDEX " ++ (if ifExists then "IF EXISTS " else "") ++ f.quoteName index ++ " ON " ++
    f.quoteName table

/-- The making of an index. -/
def createIndex (f : Formatter) (table index : String) (columns : List String)
    (unique ifNotExists : Bool) : String :=
  "CREATE " ++ (if unique then "UNIQUE " else "") ++ "INDEX " ++
    (if ifNotExists then "IF NOT EXISTS " else "") ++ f.quoteName index ++ " ON " ++
    f.quoteName table ++ " (" ++ f.names columns ++ ")"

end Formatter

namespace SelectStatement

/-- A key to sort by. -/
def sortKeyText (f : Formatter) (k : SortKey) : String :=
  f.quoteName k.field ++ " " ++ k.direction.keyword

/-- The text of a read. -/
def render (f : Formatter) (s : SelectStatement) : Outcome String := do
  let fields := if s.fields.isEmpty then "*" else f.names s.fields
  let filter ← Predicate.whereClause f s.filter
  let groups := if s.groupBy.isEmpty then "" else " GROUP BY " ++ f.names s.groupBy
  let orders := if s.orderBy.isEmpty then ""
    else " ORDER BY " ++ Text.joined ", " (s.orderBy.map (sortKeyText f))
  let paging := f.paging s.limit s.offset
  .ok ("SELECT " ++ fields ++ " FROM " ++ f.quoteName s.table ++ filter ++ groups ++ orders ++
    (if s.limit.isNone && s.offset.isNone then "" else " " ++ paging))

end SelectStatement

namespace Statement

/-- A column with its new value. -/
def assignmentText (f : Formatter) (a : String × Operand) : Outcome String :=
  (a.2.render f).map fun value => f.quoteName a.1 ++ " = " ++ value

/-- The text of a statement. -/
def render (f : Formatter) : Statement → Outcome String
  | .createTable table columns ifNotExists => f.createTable table columns ifNotExists
  | .createIndex table index columns unique ifNotExists =>
    .ok (f.createIndex table index columns unique ifNotExists)
  | .insert table columns values => do
    let texts ← values.mapM (Operand.render f)
    .ok ("INSERT INTO " ++ f.quoteName table ++ " (" ++ f.names columns ++ ") VALUES (" ++
      Text.joined ", " texts ++ ")")
  | .select s => s.render f
  | .update table assignments filter => do
    let sets ← assignments.mapM (assignmentText f)
    let tail ← Predicate.whereClause f filter
    .ok ("UPDATE " ++ f.quoteName table ++ " SET " ++ Text.joined ", " sets ++ tail)
  | .delete table filter => do
    let tail ← Predicate.whereClause f filter
    .ok ("DELETE FROM " ++ f.quoteName table ++ tail)
  | .alterTable table alterations => f.alterTable table alterations
  | .dropTable table ifExists => .ok (f.dropTable table ifExists)
  | .dropIndex table index ifExists => .ok (f.dropIndex table index ifExists)

end Statement

end Polystore
