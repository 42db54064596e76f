import Polystore.Document.Store
import Polystore.KeyValue.Store
import Polystore.Relational.Store

/-!
# Configurations

Every kind of store has a configuration of its own. It can be read from a record, in which members
that are missing have their usual values.
-/

namespace Polystore

namespace Relational.Config

/-- A configuration as a document. -/
def encode (c : Config) : Json :=
  .object [("enforce_unique", .bool c.enforceUnique),
    ("case_sensitive_like", .bool c.caseSensitiveLike)]

/-- The configuration that a document describes. -/
def decode? : Json → Option Config :=
  Json.record? do
    let enforceUnique ← Members.defaulted "enforce_unique" Json.asBool? standard.enforceUnique
    let caseSensitiveLike ←
      Members.defaulted "case_sensitive_like" Json.asBool? standard.caseSensitiveLike
    return { enforceUnique, caseSensitiveLike }

end Relational.Config

namespace Document.Config

/-- A configuration as a document. -/
def encode (c : Config) : Json :=
  .object [("id_field", .text c.idField), ("case_sensitive_like", .bool c.caseSensitiveLike)]

/-- The configuration that a document describes. -/
def decode? : Json → Option Config :=
  Json.record? do
    let idField ← Members.defaulted "id_field" Json.asText? standard.idField
    let caseSensitiveLike ←
      Members.defaulted "case_sensitive_like" Json.asBool? standard.caseSensitiveLike
    return { idField, caseSensitiveLike }

end Document.Config

namespace KeyValue.Config

/-- The configuration that a document describes. -/
def decode? : Json → Option Config :=
  Json.record? do
    let maxEntries ← Members.optional "max_entries_per_bucket" (Json.asNatBelow? (2 ^ 64))
    return { maxEntries }

end KeyValue.Config

/-- The kinds of configuration. -/
inductive ConfigKind where
  | relational
  | document
  | keyValue
  | journal
deriving DecidableEq

namespace ConfigKind

/-- The name of a kind in messages. -/
def name : ConfigKind → String
  | .relational => "relational"
  | .document => "document"
  | .keyValue => "key-value"
  | .journal => "journal"

end ConfigKind

/-- A configuration of some store. -/
inductive Config where
  | relational (c : Relational.Config)
  | document (c : Document.Config)
  | keyValue (c : KeyValue.Config)
  /-- A journal of statements has nothing to configure. -/
  | journal

namespace Config

/-- The kind of a configuration. -/
def kind : Config → ConfigKind
  | .relational _ => .relational
  | .document _ => .document
  | .keyValue _ => .keyValue
  | .journal => .journal

/-- The usual configuration of a kind. -/
def standard : ConfigKind → Config
  | .relational => .relational .standard
  | .document => .document .standard
  | .keyValue => .keyValue .standard
  | .journal => .journal

/-- The configuration of a kind that a document describes. -/
def decode? (kind : ConfigKind) (j : Json) : Option Config :=
  match kind with
  | .relational => (Relational.Config.decode? j).map .relational
  | .document => (Document.Config.decode? j).map .document
  | .keyValue => (KeyValue.Config.decode? j).map .keyValue
  | .journal => j.record? (pure .journal)

end Config

end Polystore
