import Polystore.Sql.Clauses
import Polystore.Sql.Declaration
import Polystore.Sql.Where

/-!
# Reading statements

The text of a statement is told by its first words. What is read is the statement itself; nothing
is executed from the text. Question marks stand for parameters and are numbered from the left; a
semicolon at the end does not count.
-/

namespace Polystore.Sql

/-- What a reader finds, or the error of a text that is no statement of a kind. -/
def orInvalid {α : Type} (statement : String) (text : List Char) : Option α → Outcome α
  | some a => .ok a
  | none => .error (invalidStatement statement text)

/-- A text with an optional phrase in front: the reader is tried behind the phrase first, and on the
whole text if that fails. The flag says whether the phrase was there. -/
def withOptional {α : Type} (words : List String) (read : List Char → Option α)
    (cs : List Char) : Option (Bool × α) :=
  match (afterPhrase words cs).bind read with
  | some a => some (true, a)
  | none => (read cs).map fun a => (false, a)

/-- The places of values whose parameters are numbered from `first`, and the next number. -/
def placesFrom (first : Nat) : List (Option Value) → List Operand × Nat
  | [] => ([], first)
  | some v :: rest =>
    let (places, next) := placesFrom first rest
    (.literal v :: places, next)
  | none :: rest =>
    let (places, next) := placesFrom (first + 1) rest
    (.param first :: places, next)

/-! ## Tables -/

/-- What a table is made of, while its declaration is read. -/
structure TableParts where
  columns : List ColumnDef
  primary : List String
  unique : List String

/-- The body of a constraint on the table: its words and a list in parentheses. -/
def constraintBody (words : List String) (piece : List Char) : Option (List Char) :=
  (afterWords words piece).bind parenthesized

/-- The parts of a table with one more piece of its declaration. -/
def TableParts.addPiece (parts : TableParts) (piece : List Char) : Outcome TableParts :=
  match constraintBody ["primary", "key"] piece with
  | some body => do
    let names ← nameList body
    .ok { parts with primary := parts.primary ++ names }
  | none =>
    match constraintBody ["unique"] piece with
    | some body => do
      let names ← nameList body
      if names.length ≠ 1 then
        throw (.unsupported "multi-column UNIQUE constraint; create a unique index instead")
      .ok { parts with unique := parts.unique ++ names }
    | none => do
      let d ← parseColumnDef "CREATE TABLE" piece
      .ok { parts with columns := parts.columns ++ [d] }

/-- The columns with the first one of a name changed; `none` when there is no such column. -/
def changeColumn (change : Column → Column) (name : String) :
    List ColumnDef → Option (List ColumnDef)
  | [] => none
  | d :: rest =>
    if d.name = name then some ({ d with column := change d.column } :: rest)
    else (changeColumn change name rest).map (d :: ·)

/-- The making of a table. -/
def readCreateTable (text : List Char) : Outcome Statement := do
  let (ifNotExists, token, body) ← orInvalid "CREATE TABLE" text <| do
    let rest ← afterPhrase ["create", "table"] text
    withOptional ["if", "not", "exists"] (fun cs => do
      let (token, rest) ← takeIdentifier cs
      some (token, ← parenthesized rest)) rest
  let pieces ← splitTopLevel ',' body
  let parts ← pieces.foldlM TableParts.addPiece ⟨[], [], []⟩
  let columns ← parts.primary.foldlM (fun columns name =>
    orInvalid "CREATE TABLE" text (changeColumn Column.asPrimary name columns)) parts.columns
  let columns ← parts.unique.foldlM (fun columns name =>
    orInvalid "CREATE TABLE" text (changeColumn Column.asUnique name columns)) columns
  .ok (.createTable (nameOf token) columns ifNotExists)

/-- The name of an index and of its table, with what stands behind them. -/
def takeIndexOn (cs : List Char) : Option (List Char × List Char × List Char) := do
  let (index, rest) ← takeIdentifier cs
  let rest ← (afterBlanks rest).bind (afterPhrase ["on"])
  let (table, rest) ← takeIdentifier rest
  some (index, table, rest)

/-- The making of an index. -/
def readCreateIndex (text : List Char) : Outcome Statement := do
  let (unique, ifNotExists, index, table, body) ← orInvalid "CREATE INDEX" text <| do
    let rest ← afterPhrase ["create"] text
    withOptional ["unique"] (fun cs => do
      let rest ← afterPhrase ["index"] cs
      withOptional ["if", "not", "exists"] (fun cs => do
        let (index, table, rest) ← takeIndexOn cs
        some (index, table, ← parenthesized rest)) rest) rest
  let columns ← nameList body
  .ok (.createIndex (nameOf table) (nameOf index) columns unique ifNotExists)

/-- The removal of a table. -/
def readDropTable (text : List Char) : Outcome Statement := do
  let (ifExists, token) ← orInvalid "DROP TABLE" text <| do
    let rest ← afterPhrase ["drop", "table"] text
    withOptional ["if", "exists"] (fun cs => do
      let (token, rest) ← takeIdentifier cs
      if rest.isEmpty then some token else none) rest
  .ok (.dropTable (nameOf token) ifExists)

/-- The removal of an index. -/
def readDropIndex (text : List Char) : Outcome Statement := do
  let (ifExists, index, table) ← orInvalid "DROP INDEX" text <| do
    let rest ← afterPhrase ["drop", "index"] text
    withOptional ["if", "exists"] (fun cs => do
      let (index, table, rest) ← takeIndexOn cs
      if rest.isEmpty then some (index, table) else none) rest
  .ok (.dropIndex (nameOf table) (nameOf index) ifExists)

/-! ## Changes of columns -/

/-- What stands behind `ADD`, and behind `COLUMN` if that is there. -/
def addedColumn (piece : List Char) : Option (List Char) := do
  let rest ← afterPhrase ["add"] piece
  let (_, spec) ← withOptional ["column"] (fun cs => if cs.isEmpty then none else some cs) rest
  some spec

/-- The name behind `DROP`, and behind `COLUMN` if that is there. -/
def droppedColumn (piece : List Char) : Option (List Char) := do
  let rest ← afterPhrase ["drop"] piece
  let (_, token) ← withOptional ["column"] (fun cs => do
    let (token, rest) ← takeIdentifier cs
    if rest.isEmpty then some token else none) rest
  some token

/-- A type behind the words that may stand in front of it. -/
def typeText (cs : List Char) : Option (List Char) :=
  let whole := if cs.isEmpty then none else some cs
  let behind := fun words => (afterPhrase words cs).filter (!·.isEmpty)
  (behind ["set", "data", "type"]).or ((behind ["type"]).or whole)

/-- The name and the type behind `ALTER` or `MODIFY`, and behind `COLUMN` if that is there. -/
def modifiedColumn (piece : List Char) : Option (List Char × List Char) := do
  let rest ← (afterPhrase ["alter"] piece).or (afterPhrase ["modify"] piece)
  let (_, found) ← withOptional ["column"] (fun cs => do
    let (token, rest) ← takeIdentifier cs
    let spec ← (afterBlanks rest).bind typeText
    some (token, spec)) rest
  some found

/-- One change of a table. -/
def readAlteration (text piece : List Char) : Outcome Alteration :=
  match addedColumn piece with
  | some spec => (parseColumnDef "ALTER TABLE" spec).map fun d => .add d.name d.column
  | none =>
    match droppedColumn piece with
    | some token => .ok (.drop (nameOf token))
    | none =>
      match modifiedColumn piece with
      | some (token, spec) => (parseColumn "ALTER TABLE" spec).map (.modify (nameOf token))
      | none => .error (invalidStatement "ALTER TABLE" text)

/-- The change of a table. -/
def readAlterTable (text : List Char) : Outcome Statement := do
  let (token, actions) ← orInvalid "ALTER TABLE" text <| do
    let rest ← afterPhrase ["alter", "table"] text
    let (token, rest) ← takeIdentifier rest
    some (token, ← afterBlanks rest)
  let pieces ← splitTopLevel ',' actions
  let alterations ← pieces.mapM (readAlteration text)
  if alterations.isEmpty then throw (invalidStatement "ALTER TABLE" text)
  .ok (.alterTable (nameOf token) alterations)

/-! ## Rows -/

/-- The addition of a row. -/
def readInsert (text : List Char) : Outcome Statement := do
  let (token, columns, body) ← orInvalid "INSERT" text <| do
    let rest ← afterPhrase ["insert", "into"] text
    let (token, rest) ← takeIdentifier rest
    let rest ← afterMark '(' rest
    let columns := rest.takeWhile (· ≠ ')')
    let rest ← afterMark ')' (rest.dropWhile (· ≠ ')'))
    let rest ← afterWord "values".toList (Text.trimStart rest)
    some (token, columns, ← parenthesized rest)
  let values ← parseValues body
  let columns ← nameList columns
  .ok (.insert (nameOf token) columns (placesFrom 0 values).1)

/-- The predicate of the one clause that may follow, with the number of the next parameter. -/
def readFilterFrom (statement : String) (text : List Char) (first : Nat)
    (filter : Option Predicate) : List (String × List Char) → Outcome (Option Predicate)
  | [] => .ok filter
  | (clause, body) :: rest => do
    if clause ≠ "where" || filter.isSome then throw (invalidStatement statement text)
    let (p, next) ← parsePredicate first body
    readFilterFrom statement text next (some p) rest

/-- The removal of rows. -/
def readDelete (text : List Char) : Outcome Statement := do
  let (token, tail) ← orInvalid "DELETE" text <| do
    takeIdentifier (← afterPhrase ["delete", "from"] text)
  let (head, clauses) := splitClauses tail
  let filter ← readFilterFrom "DELETE" text 0 none clauses
  if !head.isEmpty then throw (invalidStatement "DELETE" text)
  .ok (.delete (nameOf token) filter)

/-- A column and the value that it receives. -/
def readAssignment (piece : List Char) : Outcome (String × Option Value) :=
  orInvalid "UPDATE" piece <| do
    let (token, rest) ← takeIdentifier piece
    let value ← (afterMark '=' rest).map Text.trimStart
    if value.isEmpty then none else some (nameOf token, parseValue value)

/-- The change of rows. The parameters of the new values come before those of the filter. -/
def readUpdate (text : List Char) : Outcome Statement := do
  let (token, tail) ← orInvalid "UPDATE" text <| do
    let (token, rest) ← takeIdentifier (← afterPhrase ["update"] text)
    some (token, ← (afterBlanks rest).bind (afterPhrase ["set"]))
  let (head, clauses) := splitClauses tail
  let pieces ← splitTopLevel ',' head
  let assignments ← pieces.mapM readAssignment
  if assignments.isEmpty then throw (invalidStatement "UPDATE" text)
  let (places, next) := placesFrom 0 (assignments.map (·.2))
  let filter ← readFilterFrom "UPDATE" text next none clauses
  .ok (.update (nameOf token) ((assignments.map (·.1)).zip places) filter)

/-! ## Reads -/

/-- Behind a blank: the word `FROM`, the name of a table, and the rest. -/
def afterFrom (cs : List Char) : Option (List Char × List Char) := do
  takeIdentifier (← (afterBlanks cs).bind (afterPhrase ["from"]))

/-- The shortest list of fields with a table behind it: the fields, the table and the rest. `seen`
holds the fields so far, last character first. -/
def takeFields (seen : List Char) : List Char → Option (List Char × List Char × List Char)
  | [] => none
  | c :: rest =>
    match afterFrom (c :: rest) with
    | some (token, tail) => some (seen.reverse, token, tail)
    | none => takeFields (c :: seen) rest

/-- The head of a read. Without any fields, two blanks are needed in front of `FROM`. -/
def takeSelectHead (text : List Char) : Option (List Char × List Char × List Char) := do
  let behind ← afterWord "select".toList text
  let rest ← afterBlanks behind
  (takeFields [] rest).or <| do
    let found ← match behind with
      | _ :: second => afterFrom second
      | [] => none
    some ([], found)

/-- One field to sort by. -/
def readSortKey (piece : List Char) : Outcome SortKey :=
  orInvalid "SELECT" piece <| do
    let (token, rest) ← takeIdentifier piece
    let word ← if rest.isEmpty then some [] else afterBlanks rest
    let isWord := fun (w : String) => afterWord w.toList word == some []
    if rest.isEmpty || isWord "asc" || isWord "desc" then
      let direction := if Text.asciiLower (String.ofList word) = "desc" then Direction.descending
        else Direction.ascending
      some ⟨nameOf token, direction⟩
    else none

/-- A number of rows. -/
def readCount (text body : List Char) : Outcome UInt64 :=
  orInvalid "SELECT" text ((Text.readNatBelow (2 ^ 64) (Text.trim body)).map UInt64.ofNat)

/-- A read with the clauses that follow its head. Of clauses of one kind the last one counts, except
that fields to sort by add up. -/
def readSelectClauses (text : List Char) (first : Nat) (s : SelectStatement) :
    List (String × List Char) → Outcome SelectStatement
  | [] => .ok s
  | (clause, body) :: rest =>
    if clause = "where" then do
      let (p, next) ← parsePredicate first body
      readSelectClauses text next { s with filter := some p } rest
    else if clause = "group by" then do
      let names ← nameList body
      readSelectClauses text first { s with groupBy := names } rest
    else if clause = "order by" then do
      let pieces ← splitTopLevel ',' body
      let keys ← pieces.mapM readSortKey
      readSelectClauses text first { s with orderBy := s.orderBy ++ keys } rest
    else if clause = "limit" then do
      let n ← readCount text body
      readSelectClauses text first { s with limit := some n } rest
    else if clause = "offset" then do
      let n ← readCount text body
      readSelectClauses text first { s with offset := some n } rest
    else .error (invalidStatement "SELECT" text)

/-- The read of rows. -/
def readSelect (text : List Char) : Outcome Statement := do
  let (fields, token, tail) ← orInvalid "SELECT" text (takeSelectHead text)
  let shown := Text.trim fields
  let names ← if shown = ['*'] then .ok [] else nameList shown
  let (head, clauses) := splitClauses tail
  if !head.isEmpty then throw (invalidStatement "SELECT" text)
  let s ← readSelectClauses text 0
    { table := nameOf token, fields := names, filter := none, groupBy := [], orderBy := []
      limit := none, offset := none } clauses
  .ok (.select s)

/-! ## Statements -/

/-- A text without blanks at its ends and without a semicolon behind. -/
def statementText (cs : List Char) : List Char :=
  let text := Text.trim cs
  if text.getLast? == some ';' then Text.trim text.dropLast else text

/-- The statement that a text spells. -/
def readStatement (sql : String) : Outcome Statement :=
  let text := statementText sql.toList
  match lowerWords text with
  | "create" :: "table" :: _ => readCreateTable text
  | "create" :: "index" :: _ => readCreateIndex text
  | "create" :: "unique" :: "index" :: _ => readCreateIndex text
  | "insert" :: "into" :: _ => readInsert text
  | "select" :: _ => readSelect text
  | "update" :: _ => readUpdate text
  | "delete" :: "from" :: _ => readDelete text
  | "alter" :: "table" :: _ => readAlterTable text
  | "drop" :: "table" :: _ => readDropTable text
  | "drop" :: "index" :: _ => readDropIndex text
  | _ => .error (SyntaxError.unsupportedStatement sql)

end Polystore.Sql
