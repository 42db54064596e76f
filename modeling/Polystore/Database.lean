import Polystore.Backend
import Polystore.Column.Codec

/-!
# Databases

A database is a backend together with the schemas of its tables. Setting it up connects it, unless
it is connected, and creates its tables where the data model wants them beforehand.
-/

namespace Polystore

/-- A backend with the schemas of its tables. -/
structure Database where
  backend : Backend
  schemas : Schemas

namespace Database

/-- Execute a query. -/
def execute (db : Database) (q : Query) : Outcome Result × Database :=
  let (outcome, backend) := db.backend.execute q
  (outcome, { db with backend })

/-- Connect. The data in memory are gone then. -/
def connect (db : Database) : Database := { db with backend := db.backend.reset true }

/-- Disconnect. The data in memory are gone then. -/
def disconnect (db : Database) : Database := { db with backend := db.backend.reset false }

/-- Give everything up, which is to disconnect. -/
def dispose (db : Database) : Database := db.disconnect

/-- Whether the database is connected. -/
def isConnected (db : Database) : Bool := db.backend.isConnected

/-- Whether the database answers. -/
def isHealthy (db : Database) : Bool := db.isConnected

/-- Create tables, one after the other, up to the first that cannot be created. -/
def createAll (db : Database) : List (String × Schema) → Outcome Unit × Database
  | [] => (.ok (), db)
  | (table, schema) :: rest =>
    match db.execute (.create table schema) with
    | (.ok _, next) => next.createAll rest
    | (.error e, next) => (.error e, next)

/-- Connect where that is needed, and create the tables of all schemas by ascending names where the
data model wants them beforehand. -/
def setUp (db : Database) : Outcome Unit × Database :=
  let db := if db.isConnected then db else db.connect
  if db.backend.model.isEager then db.createAll db.schemas.entries else (.ok (), db)

end Database

/-! ## Models -/

/-- The name of a table, collection or bucket, for queries about that one alone. -/
structure Model where
  name : String
deriving DecidableEq

/-- The model of a name. Asking twice gives the same one. -/
def Database.model (_ : Database) (name : String) : Model := ⟨name⟩

namespace Model

/-- A condition, if it says anything. -/
def nonEmpty (c : Condition) : Option Condition := if c.isEmpty then none else some c

/-- What is made of the result of an execution. -/
def mapResult {α : Type} (f : Result → α) (r : Outcome Result × Database) :
    Outcome α × Database :=
  (r.1.map f, r.2)

/-- The rows of a selection, whose table is replaced by that of the model. -/
def select (m : Model) (db : Database) (s : Selection) : Outcome (List Row) × Database :=
  mapResult (·.rows) (db.execute (.select { s with table := m.name }))

/-- The rows that meet a condition. -/
def find (m : Model) (db : Database) (c : Condition) : Outcome (List Row) × Database :=
  m.select db { Selection.everything m.name with conditions := nonEmpty c }

/-- The first row that meets a condition. -/
def findOne (m : Model) (db : Database) (c : Condition) : Outcome (Option Row) × Database :=
  let (outcome, db) :=
    m.select db { Selection.everything m.name with conditions := nonEmpty c, limit := some 1 }
  (outcome.map (·.head?), db)

/-- Add a row. -/
def create (m : Model) (db : Database) (data : Row) : Outcome Result × Database :=
  db.execute (.insert m.name data)

/-- Change the rows that meet a condition, and count them. -/
def update (m : Model) (db : Database) (c : Condition) (changes : Row) :
    Outcome Nat × Database :=
  mapResult (·.affected) (db.execute (.update m.name changes (nonEmpty c)))

/-- Remove the rows that meet a condition, and count them. -/
def remove (m : Model) (db : Database) (c : Condition) : Outcome Nat × Database :=
  mapResult (·.affected) (db.execute (.delete m.name (nonEmpty c)))

/-- Count the rows that meet a condition. -/
def count (m : Model) (db : Database) (c : Condition) : Outcome Nat × Database :=
  let (outcome, db) := m.find db c
  (outcome.map (·.length), db)

end Model

end Polystore
