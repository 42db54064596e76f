import Mathlib
import Polystore.Backend
import Polystore.Proofs.KeyValue.Effect

/-!
# A refused command leaves the entries alone

A bucket that is not there is refused before anything is written. A bucket without room is refused
after it has been opened, which leaves no trace when it was there. A bucket that comes into being in
this way has no entry, so it has no room only where buckets may hold no entry at all: there, and
nowhere else, every entry that is refused by a missing bucket leaves an empty bucket behind.
-/

namespace Polystore

namespace KeyValue

/-- An empty bucket has no room only where buckets may hold nothing. -/
theorem Config.isFull_empty {config : Config} {key : String} :
    config.isFull TextMap.empty key = true ↔ config.maxEntries = some 0 := by
  rw [isFull]
  cases limit : config.maxEntries with
  | none => simp
  | some max =>
    have free : (TextMap.empty : Bucket).contains key = false := rfl
    have none : (TextMap.empty : Bucket).size = 0 := rfl
    simp only [free, none, Bool.not_false, Bool.true_and, decide_eq_true_eq, Option.some.injEq]
    omega

/-- A command puts an entry into a bucket that is not there, where buckets may hold nothing. -/
def Command.OpensInVain (config : Config) (s : Store) (command : Command) : Prop :=
  config.maxEntries = some 0 ∧ s.get? command.bucket = none ∧
    ∃ key value, command.operation = .set key value

/-- A command that is refused has changed nothing, or it has opened a bucket in vain. -/
theorem Store.run_of_error {s : Store} {config : Config} {command : Command} {e : Error}
    (h : (s.run config command).1 = .error e) :
    (¬command.OpensInVain config s ∧ (s.run config command).2 = s) ∨
      (command.OpensInVain config s ∧
        (s.run config command).2 = s.insert command.bucket TextMap.empty) := by
  obtain ⟨name, operation⟩ := command
  have effect := run_effect config s name operation
  generalize (s.run config ⟨name, operation⟩).1 = o at h effect
  generalize (s.run config ⟨name, operation⟩).2 = s' at effect ⊢
  subst h
  cases effect with
  | @refused key value full =>
    cases found : s.get? name with
    | some b =>
      refine .inl ⟨?_, ?_⟩
      · rintro ⟨_, missing, _⟩
        have missing : s.get? name = none := missing
        rw [missing] at found
        cases found
      · rw [Store.entriesOf_of_get? found, TextMap.insert_of_get? found]
    | none =>
      rw [Store.entriesOf_of_missing found] at full ⊢
      exact .inr ⟨⟨Config.isFull_empty.mp full, found, key, value, rfl⟩, rfl⟩
  | missing needs absent =>
    refine .inl ⟨?_, rfl⟩
    rintro ⟨_, _, key, value, same⟩
    have same : operation = .set key value := same
    subst same
    cases needs

end KeyValue

open KeyValue

/-- **A backend of entries that refuses a command is as it was**, whatever it may hold: it has the
same buckets with the same entries. Where buckets may hold nothing, an entry for a bucket that is
not there leaves that bucket behind, empty. -/
theorem EntryBackend.refusal_leaves_entries {b : EntryBackend} {command : KeyValue.Command}
    {e : Error} (connected : b.connected = true) (h : (b.execute command).1 = .error e) :
    (¬command.OpensInVain b.config b.store → (b.execute command).2 = b) ∧
      (command.OpensInVain b.config b.store → (b.execute command).2 =
        { b with store := b.store.insert command.bucket TextMap.empty }) := by
  unfold EntryBackend.execute at h ⊢
  rw [if_pos connected] at h ⊢
  have failed : (b.store.run b.config command).1 = .error e := h
  show (_ → { b with store := (b.store.run b.config command).2 } = b) ∧
    (_ → { b with store := (b.store.run b.config command).2 } = _)
  rcases Store.run_of_error failed with ⟨opened, kept⟩ | ⟨opened, made⟩
  · rw [kept]
    exact ⟨fun _ => rfl, fun vain => absurd vain opened⟩
  · rw [made]
    exact ⟨fun notVain => absurd opened notVain, fun _ => rfl⟩

/-- A connected backend, and how many entries its buckets may hold. -/
def cacheOf (max : Nat) (store : KeyValue.Store) : EntryBackend := ⟨⟨some max⟩, true, store⟩

/-- A cache with one entry. -/
def hits : KeyValue.Store :=
  TextMap.empty.insert "hits"
    (TextMap.empty.insert "a" (TextMap.ofList [("key", .text "a"), ("count", .int 1)]))

/-- One more entry for the cache. -/
def hitPut : KeyValue.Command := ⟨"hits", .set "b" (TextMap.ofList [("key", .text "b")])⟩

theorem EntryBackend.refusal_leaves_entries_hits :
    ((cacheOf 1 hits).execute hitPut).1 =
        .error (ExecutionError.constraintViolation "hits" "bucket is full (1 entries)") ∧
      ((cacheOf 1 hits).execute hitPut).2 = cacheOf 1 hits := by
  have failed : ((cacheOf 1 hits).execute hitPut).1 =
      .error (ExecutionError.constraintViolation "hits" "bucket is full (1 entries)") := by
    cbv
  refine ⟨failed, (EntryBackend.refusal_leaves_entries rfl failed).1 ?_⟩
  rintro ⟨limit, _⟩
  cases limit

/-- **A bucket is opened for an entry that it has no room for.** Where buckets may hold nothing, the
first entry for a bucket is refused, and the bucket is there from then on. -/
theorem EntryBackend.refused_entry_opens_bucket :
    ((cacheOf 0 .empty).execute hitPut).1 =
        .error (ExecutionError.constraintViolation "hits" "bucket is full (0 entries)") ∧
      (cacheOf 0 .empty).store.contains "hits" = false ∧
      ((cacheOf 0 .empty).execute hitPut).2.store.contains "hits" = true ∧
      ((cacheOf 0 .empty).execute hitPut).2 ≠ cacheOf 0 .empty := by
  have missing : (cacheOf 0 .empty).store.contains "hits" = false := rfl
  have there : ((cacheOf 0 .empty).execute hitPut).2.store.contains "hits" = true := by
    cbv
  refine ⟨by cbv, missing, there, fun same => ?_⟩
  rw [same, missing] at there
  cases there

end Polystore
