import Polystore.Config
import Polystore.Relational.Compile
import Polystore.Sql.Read
import Polystore.Statement.Render

/-!
# Backends

A backend executes queries in its own data model. Three of them keep their data in memory and lose
them with every connection and disconnection; the fourth only writes down the statements that it is
given.
-/

namespace Polystore

/-- The data models. -/
inductive DataModel where
  | relational
  | document
  | keyValue
deriving DecidableEq

namespace DataModel

/-- The name of a data model. -/
def name : DataModel → String
  | .relational => "relational"
  | .document => "document"
  | .keyValue => "key-value"

/-- Whether schemas are created when a database is set up. The other models make their containers
when something is first put into them. -/
def isEager : DataModel → Bool
  | .relational => true
  | _ => false

end DataModel

/-- Tables in memory. -/
structure TableBackend where
  config : Relational.Config
  connected : Bool
  store : Relational.Store

/-- Documents in memory. -/
structure DocumentBackend where
  config : Document.Config
  connected : Bool
  store : Document.Store
  /-- The fresh identities, in the order in which they are given out. -/
  freshId : Nat → String
  /-- How many identities have been given out. -/
  issued : Nat

/-- Keyed entries in memory. -/
structure EntryBackend where
  config : KeyValue.Config
  connected : Bool
  store : KeyValue.Store

/-- A list of statements in the tokens of a formatter, each with its parameters. -/
structure JournalBackend where
  name : String
  formatter : Formatter
  written : List (Bound String)

/-! ## Tables -/

namespace TableBackend

/-- The name of the backend. -/
def name : String := "memory"

/-- A backend that is not connected. -/
def new (config : Relational.Config) : TableBackend := ⟨config, false, .empty⟩

/-- Execute a statement. -/
def execute (b : TableBackend) (statement : Statement) (params : List Value) :
    Outcome Result × TableBackend :=
  if b.connected then
    let (outcome, store) := b.store.run b.config statement params
    (outcome, { b with store })
  else (.error (ExecutionError.notConnected name), b)

/-- Execute the statement that a text spells. -/
def executeSql (b : TableBackend) (sql : String) (params : List Value) :
    Outcome Result × TableBackend :=
  match Sql.readStatement sql with
  | .ok statement => b.execute statement params
  | .error e => (.error e, b)

/-- Something to be read from a connected store. -/
def read {α : Type} (b : TableBackend) (f : Relational.Store → Outcome α) : Outcome α :=
  if b.connected then f b.store else .error (ExecutionError.notConnected name)

end TableBackend

/-! ## Documents -/

namespace DocumentBackend

/-- The name of the backend. -/
def name : String := "memory-document"

/-- A backend that is not connected. -/
def new (config : Document.Config) (freshId : Nat → String) : DocumentBackend :=
  ⟨config, false, .empty, freshId, 0⟩

/-- Whether a command, if it succeeds, gives out a fresh identity. -/
def issues (b : DocumentBackend) (command : Document.Command) : Bool :=
  match command.operation with
  | .insertOne document => Document.lacksId b.config document
  | _ => false

/-- Execute a command. -/
def execute (b : DocumentBackend) (command : Document.Command) :
    Outcome Result × DocumentBackend :=
  if b.connected then
    let (outcome, store) := b.store.run b.config (b.freshId b.issued) command
    let issued := if outcome.isOk && b.issues command then b.issued + 1 else b.issued
    (outcome, { b with store, issued })
  else (.error (ExecutionError.notConnected name), b)

end DocumentBackend

/-! ## Entries -/

namespace EntryBackend

/-- The name of the backend. -/
def name : String := "memory-kv"

/-- A backend that is not connected. -/
def new (config : KeyValue.Config) : EntryBackend := ⟨config, false, .empty⟩

/-- Execute a command. -/
def execute (b : EntryBackend) (command : KeyValue.Command) : Outcome Result × EntryBackend :=
  if b.connected then
    let (outcome, store) := b.store.run b.config command
    (outcome, { b with store })
  else (.error (ExecutionError.notConnected name), b)

end EntryBackend

/-! ## Journals -/

namespace JournalBackend

/-- Write a statement down. One that has no text is refused. -/
def execute (b : JournalBackend) (statement : Statement) (params : List Value) :
    Outcome Result × JournalBackend :=
  match statement.render b.formatter with
  | .ok text => (.ok Result.done, { b with written := b.written ++ [⟨text, params⟩] })
  | .error e => (.error e, b)

end JournalBackend

/-! ## All backends -/

/-- A backend. -/
inductive Backend where
  | tables (b : TableBackend)
  | documents (b : DocumentBackend)
  | entries (b : EntryBackend)
  | journal (b : JournalBackend)

namespace Backend

/-- The name of a backend. -/
def name : Backend → String
  | .tables _ => TableBackend.name
  | .documents _ => DocumentBackend.name
  | .entries _ => EntryBackend.name
  | .journal b => b.name

/-- The data model of a backend. -/
def model : Backend → DataModel
  | .tables _ => .relational
  | .documents _ => .document
  | .entries _ => .keyValue
  | .journal _ => .relational

/-- Whether a backend is connected. A journal always is. -/
def isConnected : Backend → Bool
  | .tables b => b.connected
  | .documents b => b.connected
  | .entries b => b.connected
  | .journal _ => true

/-- The backend without its data, connected or not. -/
def reset (connected : Bool) : Backend → Backend
  | .tables b => .tables { b with connected, store := .empty }
  | .documents b => .documents { b with connected, store := .empty }
  | .entries b => .entries { b with connected, store := .empty }
  | .journal b => .journal b

/-- Run something on a part and put the part back into the whole. -/
def within {α β : Type} (wrap : β → Backend) (r : Outcome α × β) : Outcome α × Backend :=
  (r.1, wrap r.2)

/-- Compile a query for the data model of the backend and execute it. -/
def execute (backend : Backend) (q : Query) : Outcome Result × Backend :=
  match backend with
  | .tables b =>
    match Relational.compile q with
    | .ok built => within .tables (b.execute built.query built.params)
    | .error e => (.error e, backend)
  | .documents b =>
    match Document.compile q with
    | .ok built => within .documents (b.execute built.query)
    | .error e => (.error e, backend)
  | .entries b =>
    match KeyValue.compile q with
    | .ok built => within .entries (b.execute built.query)
    | .error e => (.error e, backend)
  | .journal b =>
    match Relational.compile q with
    | .ok built => within .journal (b.execute built.query built.params)
    | .error e => (.error e, backend)

/-- The formatter of a backend that has statements with a text. -/
def formatter? : Backend → Option Formatter
  | .tables _ => some .memory
  | .journal b => some b.formatter
  | _ => none

end Backend

/-- The text of a query in the tokens of a formatter, with its parameters. -/
def buildSql (f : Formatter) (q : Query) : Outcome (Bound String) := do
  let built ← Relational.compile q
  let text ← built.query.render f
  .ok ⟨text, built.params⟩

end Polystore
