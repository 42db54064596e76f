import Polystore.KeyValue.Store
import Polystore.Proofs.Steps

/-!
# What a command on entries does

A command looks at one bucket, and only at that one. `Effect` lists what it comes to and what store
it leaves: an answer with the bucket changed or not, or one of the two refusals there are. A bucket
that is not there is refused before anything is written. A bucket without room is refused after it
has been opened, and this is the only refusal that can leave a trace.
-/

namespace Polystore.KeyValue

open Steps

/-! ## Buckets -/

/-- The entries under a name; a bucket that is not there has none. -/
def Store.entriesOf (s : Store) (name : String) : Bucket := (s.get? name).getD TextMap.empty

namespace Store

theorem entriesOf_of_get? {s : Store} {name : String} {b : Bucket} (found : s.get? name = some b) :
    s.entriesOf name = b := by
  rw [entriesOf, found]
  rfl

theorem entriesOf_of_missing {s : Store} {name : String} (missing : s.get? name = none) :
    s.entriesOf name = TextMap.empty := by
  rw [entriesOf, missing]
  rfl

end Store

/-- The refusal of a bucket that has no room. -/
def Config.overflow (config : Config) (name : String) : Error :=
  .execution <| .constraintViolation name
    ("bucket is full (" ++ String.ofList (Text.natDigits (config.maxEntries.getD 0)) ++ " entries)")

/-- Whether an operation is about the entries of a bucket that must be there. -/
def Operation.needsBucket : Operation → Bool
  | .get _ _ => true
  | .merge _ _ => true
  | .delete _ => true
  | _ => false

/-! ## The effects -/

/-- What an operation on the bucket of a name comes to, and the store behind it. -/
inductive Effect (config : Config) (s : Store) (name : String) :
    Operation → Outcome Result → Store → Prop
  | made : Effect config s name .createBucket (.ok Result.done) (s.insert name (s.entriesOf name))
  | got {key : String} {fields : List String} {b : Bucket} (found : s.get? name = some b) :
      Effect config s name (.get key fields)
        (.ok (Result.ofRows ((b.get? key).map (projected fields)).toList)) s
  | put {key : String} {value : Row} (room : config.isFull (s.entriesOf name) key = false) :
      Effect config s name (.set key value)
        (.ok { rows := [], affected := 1, insertId := some (.text key) })
        (s.insert name ((s.entriesOf name).insert key value))
  | refused {key : String} {value : Row} (full : config.isFull (s.entriesOf name) key = true) :
      Effect config s name (.set key value) (.error (config.overflow name))
        (s.insert name (s.entriesOf name))
  | merged {key : String} {patch entry : Row} {b : Bucket} (found : s.get? name = some b)
      (held : b.get? key = some entry) :
      Effect config s name (.merge key patch) (.ok (Result.ofAffected 1))
        (s.insert name (b.insert key (entry.union patch)))
  | mergedNothing {key : String} {patch : Row} {b : Bucket} (found : s.get? name = some b)
      (free : b.get? key = none) :
      Effect config s name (.merge key patch) (.ok (Result.ofAffected 0)) s
  | deleted {key : String} {b : Bucket} (found : s.get? name = some b) :
      Effect config s name (.delete key)
        (.ok (Result.ofAffected (if b.contains key then 1 else 0))) (s.insert name (b.erase key))
  | dropped : Effect config s name .dropBucket (.ok Result.done) (s.erase name)
  | nothing : Effect config s name .noop (.ok Result.done) s
  | missing {operation : Operation} (needs : operation.needsBucket = true)
      (missing : s.get? name = none) :
      Effect config s name operation (.error (.execution (.bucketNotFound name))) s

/-- A bucket that is opened is there afterwards, with the entries that it had. -/
theorem Step.run_openBucket (name : String) (s : Store) :
    (openBucket name).run.run s = (.ok (s.entriesOf name), s.insert name (s.entriesOf name)) := by
  rw [openBucket, run_get_bind, Store.entriesOf]
  cases found : s.get? name with
  | none => rfl
  | some b => exact congrArg (Prod.mk _) (TextMap.insert_of_get? found).symm

theorem Step.run_bucket {name : String} {s : Store} {b : Bucket} (found : s.get? name = some b) :
    (bucket name).run.run s = (.ok b, s) := by
  rw [bucket, run_get_bind, found]
  rfl

theorem Step.run_bucket_of_missing {name : String} {s : Store} (missing : s.get? name = none) :
    (bucket name).run.run s = (.error (.execution (.bucketNotFound name)), s) := by
  rw [bucket, run_get_bind, missing]
  rfl

variable (config : Config) (s : Store) (name : String)

theorem set_effect (key : String) (value : Row) :
    Effect config s name (.set key value) ((set config name key value).outcome s).1
      ((set config name key value).outcome s).2 := by
  rw [Step.outcome, set, run_bind_ok (Step.run_openBucket name s)]
  cases full : config.isFull (s.entriesOf name) key with
  | true => exact .refused full
  | false =>
    -- the bucket is written twice, once as it is opened and once with the entry
    have written : (s.insert name (s.entriesOf name)).insert name
        ((s.entriesOf name).insert key value) =
          s.insert name ((s.entriesOf name).insert key value) := TextMap.insert_insert ..
    have done : Effect config s name (.set key value) _ _ := .put full
    rw [← written] at done
    exact done

theorem merge_effect (key : String) (patch : Row) :
    Effect config s name (.merge key patch) ((merge name key patch).outcome s).1
      ((merge name key patch).outcome s).2 := by
  rw [Step.outcome, merge]
  cases found : s.get? name with
  | none =>
    rw [run_bind, Step.run_bucket_of_missing found]
    exact .missing rfl found
  | some b =>
    rw [run_bind_ok (Step.run_bucket found)]
    cases held : b.get? key with
    | none => exact .mergedNothing found held
    | some entry => exact .merged found held

theorem delete_effect (key : String) :
    Effect config s name (.delete key) ((delete name key).outcome s).1
      ((delete name key).outcome s).2 := by
  rw [Step.outcome, delete]
  cases found : s.get? name with
  | none =>
    rw [run_bind, Step.run_bucket_of_missing found]
    exact .missing rfl found
  | some b =>
    rw [run_bind_ok (Step.run_bucket found)]
    exact .deleted found

/-- **Every command has one of the effects**, whether it is answered or refused. -/
theorem run_effect (operation : Operation) :
    Effect config s name operation (s.run config ⟨name, operation⟩).1
      (s.run config ⟨name, operation⟩).2 := by
  cases operation with
  | createBucket =>
    rw [Store.run, Step.outcome, apply, run_bind_ok (Step.run_openBucket name s)]
    exact .made
  | get key fields =>
    rw [Store.run, Step.outcome, apply]
    cases found : s.get? name with
    | none =>
      rw [run_bind, Step.run_bucket_of_missing found]
      exact .missing rfl found
    | some b =>
      rw [run_bind_ok (Step.run_bucket found)]
      exact .got found
  | set key value => exact set_effect config s name key value
  | merge key patch => exact merge_effect config s name key patch
  | delete key => exact delete_effect config s name key
  | dropBucket => exact .dropped
  | noop => exact .nothing

end Polystore.KeyValue
