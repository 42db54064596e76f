import Polystore.KeyValue.Compile

/-!
# The store of keyed entries

The store holds buckets by name, and every bucket holds entries by key. A bucket comes into being
with the first entry that is put into it, even when the entry then finds no room.
-/

namespace Polystore.KeyValue

/-- How entries are kept. -/
structure Config where
  /-- How many entries a bucket may hold. -/
  maxEntries : Option Nat
deriving DecidableEq

/-- Buckets are unbounded. -/
def Config.standard : Config := ⟨none⟩

/-- The entries by key. -/
abbrev Bucket := TextMap Row

/-- The buckets by name. -/
abbrev Store := TextMap Bucket

/-- Something that reads and writes the store and may fail. -/
abbrev Step (α : Type) := ExceptT Error (StateM Store) α

/-- What a step comes to, with the store behind it. -/
def Step.outcome {α : Type} (step : Step α) (s : Store) : Outcome α × Store := step.run.run s

/-- The bucket of a name, which must be there. -/
def Step.bucket (name : String) : Step Bucket := do
  match (← get).get? name with
  | some b => pure b
  | none => throw (.execution <| .bucketNotFound name)

/-- The bucket of a name, made now if it is not there. -/
def Step.openBucket (name : String) : Step Bucket := do
  match (← get).get? name with
  | some b => pure b
  | none =>
    modify (·.insert name TextMap.empty)
    pure TextMap.empty

/-- Whether a bucket has no room for a key. -/
def Config.isFull (config : Config) (bucket : Bucket) (key : String) : Bool :=
  match config.maxEntries with
  | some max => !bucket.contains key && max ≤ bucket.size
  | none => false

/-- An entry cut down to some fields. -/
def projected (fields : List String) (entry : Row) : Row :=
  if fields.isEmpty then entry else entry.filter fun name _ => fields.contains name

/-- Put an entry in place of the one that is there. -/
def set (config : Config) (name key : String) (value : Row) : Step Result := do
  -- a bucket that is made here stays, also when it has no room
  let b ← Step.openBucket name
  if config.isFull b key then
    let max := String.ofList (Text.natDigits (config.maxEntries.getD 0))
    throw (.execution <| .constraintViolation name ("bucket is full (" ++ max ++ " entries)"))
  modify (·.insert name (b.insert key value))
  pure { rows := [], affected := 1, insertId := some (.text key) }

/-- Put fields into an entry that is there. -/
def merge (name key : String) (patch : Row) : Step Result := do
  let b ← Step.bucket name
  match b.get? key with
  | some entry =>
    modify (·.insert name (b.insert key (entry.union patch)))
    pure (Result.ofAffected 1)
  | none => pure (Result.ofAffected 0)

/-- Remove an entry. -/
def delete (name key : String) : Step Result := do
  let b ← Step.bucket name
  modify (·.insert name (b.erase key))
  pure (Result.ofAffected (if b.contains key then 1 else 0))

/-- Run a command. -/
def apply (config : Config) (command : Command) : Step Result :=
  let name := command.bucket
  match command.operation with
  | .createBucket => do
    let _ ← Step.openBucket name
    pure Result.done
  | .get key fields => do
    let b ← Step.bucket name
    pure (Result.ofRows ((b.get? key).map (projected fields)).toList)
  | .set key value => set config name key value
  | .merge key patch => merge name key patch
  | .delete key => delete name key
  | .dropBucket => do
    modify (·.erase name)
    pure Result.done
  | .noop => pure Result.done

namespace Store

/-- The store without buckets. -/
def empty : Store := TextMap.empty

/-- What a command comes to, with the store behind it. -/
def run (s : Store) (config : Config) (command : Command) : Outcome Result × Store :=
  (apply config command).outcome s

/-- How many entries a bucket has. -/
def entryCount (s : Store) (name : String) : Outcome Nat :=
  match s.get? name with
  | some b => .ok b.size
  | none => .error (.execution <| .bucketNotFound name)

end Store

end Polystore.KeyValue
