import Mathlib
import Polystore.Backend
import Polystore.Proofs.KeyValue.Effect
import Polystore.Proofs.Value.Scalars

/-!
# Entries and their keys

An entry is kept under the key of the query that put it there, and most entries say in a field `key`
of their own what that key is. Nothing holds the two together but the queries themselves. A query
that brings a scalar under `key` is about that key, unless it has conditions that give another one;
then the field of the entry changes while the entry stays where it is. So the entry that is found
under a key has this key, or a change that was aimed at the key has given its field the value that
it holds.
-/

namespace Polystore

namespace KeyValue

/-! ## Keys of queries -/

theorem scalarKey_of_isScalar {v : Value} (h : v.isScalar = true) (name : String) :
    scalarKey name v = some v.keyText := by
  cases v with
  | null => cases h
  | list items => cases h
  | json j => cases h
  | _ => rfl

theorem keyInRow_of_isScalar {row : Row} {name : String} {v : Value}
    (held : row.get? name = some v) (h : v.isScalar = true) :
    keyInRow name row = some v.keyText := by
  rw [keyInRow, held, Option.bind_some, scalarKey_of_isScalar h]
  rfl

/-- The key that conditions give under `key` comes before all others. -/
theorem extractKey_of_condition {conditions : Option Condition} {key : String}
    (given : conditions.bind (keyInClauses "key") = some key) (data : Option Row) :
    extractKey conditions data = key := by
  rw [extractKey, keyFields, keyUnder, given]
  rfl

/-- Behind conditions that give no key, data with a scalar under `key` are about that scalar. -/
theorem extractKey_of_data {conditions : Option Condition} {data : Row} {v : Value}
    (free : conditions.bind (keyInClauses "key") = none) (held : data.get? "key" = some v)
    (scalar : v.isScalar = true) : extractKey conditions (some data) = v.keyText := by
  rw [extractKey, keyFields, keyUnder, free, Option.bind_some, keyInRow_of_isScalar held scalar]
  rfl

/-! ## Entries in step with their keys -/

/-- A change in the history was aimed at a key and set the field `key` to a value. -/
def SetByChange (history : List Query) (table key : String) (w : Value) : Prop :=
  ∃ changes conditions, Query.update table changes (some conditions) ∈ history ∧
    keyInClauses "key" conditions = some key ∧ changes.get? "key" = some w

/-- What an entry holds under `key`, if it is a scalar, is the key of the entry or was set by a
change of it. -/
def EntryKeyed (history : List Query) (table key : String) (entry : Row) : Prop :=
  ∀ w, entry.get? "key" = some w → w.isScalar = true →
    w.keyText = key ∨ SetByChange history table key w

/-- All entries of all buckets are in step with their keys. -/
def Store.Keyed (history : List Query) (s : Store) : Prop :=
  s.Each fun table b => b.Each (EntryKeyed history table)

variable {history longer : List Query} {table key : String} {entry : Row} {s : Store}

theorem SetByChange.mono {w : Value} (more : history ⊆ longer)
    (h : SetByChange history table key w) : SetByChange longer table key w := by
  obtain ⟨changes, conditions, asked, aimed, set⟩ := h
  exact ⟨changes, conditions, more asked, aimed, set⟩

theorem EntryKeyed.mono (more : history ⊆ longer) (h : EntryKeyed history table key entry) :
    EntryKeyed longer table key entry :=
  fun w held scalar => (h w held scalar).imp_right (SetByChange.mono more)

/-- Data are in step with the key that they are put under. -/
theorem entryKeyed_of_set {q : Query} {data : Row} (asked : operationOf q = .set key data)
    (history : List Query) (table : String) : EntryKeyed history table key data := by
  cases q with
  | insert _ given =>
    cases asked
    exact fun w held scalar => .inl (extractKey_of_data rfl held scalar).symm
  | _ => cases asked

/-- A change in the history keeps the entry that it is about in step with its key: what it sets
under `key` is the key that it is about, unless its conditions give that key. -/
theorem EntryKeyed.union {q : Query} {changes : Row}
    (h : EntryKeyed history q.table key entry) (asked : operationOf q = .merge key changes)
    (mem : q ∈ history) : EntryKeyed history q.table key (entry.union changes) := by
  cases q with
  | update table given conditions =>
    cases asked
    intro w held scalar
    rw [TextMap.get?_union] at held
    cases set : changes.get? "key" with
    | none =>
      rw [set, Option.none_or] at held
      exact h w held scalar
    | some w' =>
      -- the change is about what it sets, unless its conditions say which entry they are about
      rw [set, Option.some_or] at held
      obtain rfl := Option.some.inj held
      cases aimed : conditions.bind (keyInClauses "key") with
      | none => exact .inl (extractKey_of_data aimed set scalar).symm
      | some key =>
        obtain ⟨c, rfl, given⟩ := Option.bind_eq_some_iff.mp aimed
        rw [extractKey_of_condition aimed]
        exact .inr ⟨changes, c, mem, given, set⟩
  | _ => cases asked

namespace Store.Keyed

theorem mono (h : s.Keyed history) (more : history ⊆ longer) : s.Keyed longer :=
  h.imp fun _ _ entries => entries.imp fun _ _ keyed => keyed.mono more

theorem entriesOf (h : s.Keyed history) (table : String) :
    (s.entriesOf table).Each (EntryKeyed history table) :=
  h.getD table (TextMap.each_empty _)

/-- One query, answered or refused, keeps the entries in step with their keys. -/
theorem run (h : s.Keyed history) (config : Config) {q : Query} (mem : q ∈ history) :
    (s.run config ⟨q.table, operationOf q⟩).2.Keyed history := by
  have effect := run_effect config s q.table (operationOf q)
  generalize (s.run config ⟨q.table, operationOf q⟩).1 = o at effect
  generalize (s.run config ⟨q.table, operationOf q⟩).2 = s' at effect ⊢
  generalize asked : operationOf q = operation at effect
  cases effect with
  | made => exact h.insert (h.entriesOf q.table)
  | got => exact h
  | put => exact h.insert ((h.entriesOf q.table).insert (entryKeyed_of_set asked history q.table))
  | refused => exact h.insert (h.entriesOf q.table)
  | @merged key changes entry b found held =>
    have there := h q.table b found
    exact h.insert (there.insert ((there key entry held).union asked mem))
  | mergedNothing => exact h
  | @deleted key b found => exact h.insert ((h q.table b found).erase key)
  | dropped => exact h.erase q.table
  | nothing => exact h
  | missing => exact h

end Store.Keyed

end KeyValue

/-! ## Runs of queries -/

namespace Backend

/-- The backend behind a query, whether it is answered or refused. -/
def after (b : Backend) (q : Query) : Backend := (b.execute q).2

/-- The backend behind queries, one after the other. -/
def afterAll (b : Backend) (queries : List Query) : Backend := queries.foldl after b

theorem afterAll_concat (b : Backend) (queries : List Query) (q : Query) :
    b.afterAll (queries ++ [q]) = (b.afterAll queries).after q := by
  rw [afterAll, List.foldl_append]
  rfl

end Backend

/-- A backend of entries that has just been connected. -/
def EntryBackend.opened (config : KeyValue.Config) : Backend :=
  (Backend.entries (.new config)).reset true

namespace KeyValue

/-- After any queries the entries are in step with their keys. -/
theorem exists_keyed_afterAll (config : Config) (history : List Query) :
    ∃ s : Store, (EntryBackend.opened config).afterAll history = .entries ⟨config, true, s⟩ ∧
      s.Keyed history := by
  induction history using List.reverseRecOn with
  | nil => exact ⟨.empty, rfl, TextMap.each_empty _⟩
  | append_singleton history q ih =>
    obtain ⟨s, reached, keyed⟩ := ih
    refine ⟨(s.run config ⟨q.table, operationOf q⟩).2, ?_, ?_⟩
    · rw [Backend.afterAll_concat, reached]
      rfl
    · have longer := keyed.mono (List.subset_append_left history [q])
      exact longer.run config (List.mem_append_right history List.mem_cons_self)

/-- **The entry that is found under a key has this key**, if it has a scalar under `key` at all,
or a change whose conditions gave this key has set the field to the scalar that it holds. -/
theorem selected_entry_has_key {config : Config} {history : List Query} {selection : Selection}
    {v : Value} {r : Result} (asked : selection.conditions = some [.field "key" (.equals v)])
    (scalar : v.isScalar = true)
    (answered : (((EntryBackend.opened config).afterAll history).execute (.select selection)).1 =
      .ok r) :
    ∀ entry ∈ r.rows, ∀ w, entry.get? "key" = some w → w.isScalar = true →
      w.keyText = v.keyText ∨ SetByChange history selection.table v.keyText w := by
  obtain ⟨s, reached, keyed⟩ := exists_keyed_afterAll config history
  have aimed : extractKey selection.conditions none = v.keyText := by
    refine extractKey_of_condition ?_ none
    rw [asked, Option.bind_some, keyInClauses, keyInClause, keyInTest, if_pos rfl,
      scalarKey_of_isScalar scalar]
    rfl
  have effect := run_effect config s selection.table (operationOf (.select selection))
  have answered : (s.run config ⟨selection.table, operationOf (.select selection)⟩).1 = .ok r := by
    rw [reached] at answered
    exact answered
  rw [answered, operationOf, aimed] at effect
  intro entry mem w held isScalar
  generalize (s.run config _).2 = s' at effect
  cases effect with
  | @got _ _ b found =>
    obtain ⟨stored, at_key, rfl⟩ := Option.map_eq_some_iff.mp (Option.mem_toList.mp mem)
    refine keyed selection.table b found v.keyText stored at_key w ?_ isScalar
    -- showing some fields only takes the others away
    rw [projected] at held
    split at held
    · exact held
    · exact TextMap.get?_of_filter held

/-- Two visitors. One is counted again, by the key of the entry and with the key among the data, and
the other is taken out. -/
def visits : List Query :=
  [.insert "visits" (TextMap.ofList [("key", .text "7"), ("count", .int 1)]),
    .insert "visits" (TextMap.ofList [("id", .text "ada")]),
    .update "visits" (TextMap.ofList [("key", .int 7), ("count", .int 2)])
      (some [.field "key" (.equals (.int 7))]),
    .delete "visits" (some [.field "id" (.equals (.text "ada"))])]

/-- The entry of a key, asked for by nothing else. -/
def entryOf (table : String) (v : Value) : Selection :=
  (Selection.everything table).filtered [.field "key" (.equals v)]

theorem selected_entry_has_key_visits :
    let answer := (((EntryBackend.opened .standard).afterAll visits).execute
      (.select (entryOf "visits" (.text "7")))).1
    let entry : Row := TextMap.ofList [("key", .int 7), ("count", .int 2)]
    answer = .ok (Result.ofRows [entry]) ∧ entry.get? "key" = some (.int 7) ∧
      ((Value.int 7).keyText = (Value.text "7").keyText ∨
        SetByChange visits "visits" (Value.text "7").keyText (.int 7)) := by
  intro answer entry
  have answered : answer = .ok (Result.ofRows [entry]) := by
    cbv
  have held : entry.get? "key" = some (.int 7) := by
    cbv
  exact ⟨answered, held,
    selected_entry_has_key rfl rfl answered entry List.mem_cons_self _ held rfl⟩

/-- **A change can part an entry from its key.** Its conditions say which entry it is about, its
data set the field `key` of this entry, and the entry is found under the key that it no longer holds. -/
theorem changed_entry_loses_key :
    let history : List Query :=
      [.insert "visits" (TextMap.ofList [("key", .text "ada"), ("count", .int 1)]),
        .update "visits" (TextMap.ofList [("key", .text "bob")])
          (some [.field "key" (.equals (.text "ada"))])]
    let entry : Row := TextMap.ofList [("key", .text "bob"), ("count", .int 1)]
    (((EntryBackend.opened .standard).afterAll history).execute
        (.select (entryOf "visits" (.text "ada")))).1 = .ok (Result.ofRows [entry]) ∧
      entry.get? "key" = some (.text "bob") ∧ (Value.text "bob").isScalar = true ∧
      (Value.text "bob").keyText ≠ (Value.text "ada").keyText := by
  refine ⟨by cbv, by cbv, rfl, ?_⟩
  decide

end KeyValue

end Polystore
