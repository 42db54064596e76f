import Polystore.Database

/-!
# The registry

The registry knows databases by name. Behind a name stands the kind of configuration that is
accepted and a way of making a backend from it. A later registration of a name replaces an earlier
one.
-/

namespace Polystore

/-- What stands behind a name. -/
structure Recipe where
  /-- The kind of configuration that is accepted. -/
  accepts : ConfigKind
  /-- The backend of a configuration. -/
  make : Config → Outcome Backend

/-- Recipes by name. -/
abbrev Registry := TextMap Recipe

namespace Recipe

/-- The backend of a configuration as it stands. Documents receive the given identities, journals
the given name. -/
def backendOf (freshId : Nat → String) (journal : String) : Config → Backend
  | .relational c => .tables (.new c)
  | .document c => .documents (.new c freshId)
  | .keyValue c => .entries (.new c)
  | .journal => .journal ⟨journal, .numbered, []⟩

/-- The recipe that takes configurations of a kind as they stand. -/
def plain (freshId : Nat → String) (journal : String) (kind : ConfigKind) : Recipe :=
  { accepts := kind
    make := fun config => .ok (backendOf freshId journal config) }

/-- The recipe with a change of the configuration, or a refusal of it, in front. -/
def after (adjust : Config → Outcome Config) (r : Recipe) : Recipe :=
  { r with make := fun config => (adjust config).bind r.make }

end Recipe

namespace Registry

/-- The registry of the three backends in memory. -/
def standard (freshId : Nat → String) : Registry :=
  TextMap.ofList
    [(TableBackend.name, .plain freshId "" .relational),
      (DocumentBackend.name, .plain freshId "" .document),
      (EntryBackend.name, .plain freshId "" .keyValue)]

/-- The registry with a recipe behind a name. -/
def register (r : Registry) (name : String) (recipe : Recipe) : Registry := r.insert name recipe

/-- The recipe behind a name. -/
def recipe (r : Registry) (name : String) : Outcome Recipe :=
  match r.get? name with
  | some found => .ok found
  | none => .error (RegistryError.notRegistered name)

/-- A database that is not set up, made of a configuration of the accepted kind. -/
def create (r : Registry) (name : String) (config : Config) (schemas : Schemas) :
    Outcome Database := do
  let found ← recipe r name
  if config.kind ≠ found.accepts then
    throw (.registry <| .configMismatch name found.accepts.name)
  let backend ← found.make config
  .ok { backend, schemas }

/-- A database that is not set up, made of a configuration that a document describes. -/
def createFromJson (r : Registry) (name : String) (config : Json) (schemas : Schemas) :
    Outcome Database := do
  let found ← recipe r name
  match Config.decode? found.accepts config with
  | some c => create r name c schemas
  | none => .error (RegistryError.invalidConfig name)

end Registry

end Polystore
