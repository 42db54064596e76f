import Polystore.Proofs.KeyValue.Keyed

/-!
# The key of a row and of its condition

A row can be turned into the condition that asks for each of its fields by name. What is put under
the key of the row should be found by the condition, but the two are searched in different orders.
In a row the field that is called `key` comes first, and only then the objects in other fields are
searched for the name. In a condition the clauses are searched one after the other, and an object in
a clause in front comes first. So the condition is about another entry exactly when such an object
holds another key.
-/

namespace Polystore

/-- The condition that asks for every field of a row: a bare equality for each, by ascending names. -/
def Condition.ofRow (row : Row) : Condition := row.entries.map fun b => .field b.1 (.equals b.2)

namespace KeyValue

/-! ## One value -/

/-- The key inside of a value, if it is an object. -/
def keyInside (name : String) : Value → Option String
  | .json j => keyInJson name j
  | _ => none

/-- The key inside of a value is the one that the value is. -/
theorem scalarKey_of_keyInside {name key : String} {v : Value} (h : keyInside name v = some key) :
    scalarKey name v = some key := by
  cases v with
  | json j => exact h
  | _ => cases h

/-- A clause gives the key that its value is under the name, and the one inside of it elsewhere. -/
theorem keyInClause_equals (name field : String) (v : Value) :
    keyInClause name (.field field (.equals v)) =
      if field = name then scalarKey name v else keyInside name v := by
  rw [keyInClause, keyInTest]
  split
  · rfl
  · cases v <;> rfl

@[simp] theorem keyInValues_nil (name : String) : keyInValues name [] = none := rfl

@[simp] theorem keyInValues_cons (name : String) (v : Value) (vs : List Value) :
    keyInValues name (v :: vs) = (keyInside name v).or (keyInValues name vs) := by
  cases v <;> simp [keyInside, keyInValues]

theorem keyInValues_eq_none_iff {name : String} {vs : List Value} :
    keyInValues name vs = none ↔ ∀ v ∈ vs, keyInside name v = none := by
  induction vs with
  | nil => simp
  | cons v vs ih => simp [Option.or_eq_none_iff, ih]

/-! ## Rows and their conditions -/

/-- The key in the objects of the fields in front of a name. -/
def keyBefore (name : String) (row : Row) : Option String :=
  keyInValues name ((row.entries.filter fun b => decide (b.1 < name)).map (·.2))

/-- An object in a field in front of the name holds another key than the row has. -/
def Overtakes (name : String) (row : Row) : Prop :=
  ∃ key, keyBefore name row = some key ∧ keyInRow name row ≠ some key

/-- An object in front of `key` holds another key, or, where there is no `key`, one in front of
`id`. -/
def Misleads (row : Row) : Prop :=
  Overtakes "key" row ∨ keyInRow "key" row = none ∧ Overtakes "id" row

variable {name : String} {row : Row}

/-- Behind the name, nothing comes between the two searches. -/
theorem keyInClauses_behind {entries : List (String × Value)}
    (behind : ∀ b ∈ entries, name < b.1) :
    keyInClauses name (entries.map fun b => .field b.1 (.equals b.2)) =
      keyInValues name (entries.map (·.2)) := by
  induction entries with
  | nil => rfl
  | cons b rest ih =>
    rw [List.forall_mem_cons] at behind
    have other : b.1 ≠ name := fun same => String.lt_irrefl name (same ▸ behind.1)
    rw [List.map_cons, List.map_cons, keyInClauses, keyInClause_equals, if_neg other, ih behind.2,
      keyInValues_cons]

theorem keyInClauses_entries {entries : List (String × Value)} (ascending : Ascending entries) :
    keyInClauses name (entries.map fun b => .field b.1 (.equals b.2)) =
      (keyInValues name ((entries.filter fun b => decide (b.1 < name)).map (·.2))).or
        (((TextMap.find name entries).bind (scalarKey name)).or
          (keyInValues name (entries.map (·.2)))) := by
  induction entries with
  | nil => rfl
  | cons b rest ih =>
    obtain ⟨field, v⟩ := b
    obtain ⟨above, ascending⟩ := List.pairwise_cons.mp ascending
    by_cases front : field < name
    · have other : field ≠ name := fun same => String.lt_irrefl name (same ▸ front)
      rw [List.map_cons, keyInClauses, keyInClause_equals, if_neg other, ih ascending,
        List.filter_cons_of_pos (by simpa using front), TextMap.find, if_neg other]
      cases inside : keyInside name v <;> simp [inside]
    · -- from here on there is no field in front of the name
      have behind : ∀ b ∈ rest, name < b.1 := fun b hb =>
        lt_of_le_of_lt (not_lt.mp front) (above b hb)
      have none : rest.filter (fun b => decide (b.1 < name)) = [] := by
        refine List.filter_eq_nil_iff.mpr fun b hb => ?_
        rw [decide_eq_true_eq]
        exact lt_asymm (behind b hb)
      rw [List.filter_cons_of_neg (by simpa using front), none, List.map_nil, keyInValues_nil,
        Option.none_or, List.map_cons, keyInClauses, keyInClause_equals, keyInClauses_behind behind,
        TextMap.find]
      by_cases same : field = name
      · rw [if_pos same, if_pos same, Option.bind_some, List.map_cons, keyInValues_cons]
        -- an object under the name itself is searched by both
        cases inside : keyInside name v with
        | none => rw [Option.none_or]
        | some key => rw [scalarKey_of_keyInside inside, Option.some_or, Option.some_or]
      · rw [if_neg same, if_neg same, TextMap.find_eq_none_of_below behind, Option.bind_none,
          Option.none_or, List.map_cons, keyInValues_cons]

/-- **The condition of a row finds what the row holds, but looks in front of the name first.** -/
theorem keyInClauses_ofRow (name : String) (row : Row) :
    keyInClauses name (Condition.ofRow row) = (keyBefore name row).or (keyInRow name row) :=
  keyInClauses_entries row.ascending

/-- What is in front of the name is in the row. -/
theorem keyBefore_eq_none (h : keyInRow name row = none) : keyBefore name row = none := by
  obtain ⟨_, values⟩ := Option.or_eq_none_iff.mp h
  rw [TextMap.values, keyInValues_eq_none_iff] at values
  rw [keyBefore, keyInValues_eq_none_iff]
  intro v front
  obtain ⟨b, hb, rfl⟩ := List.mem_map.mp front
  exact values b.2 (List.mem_map_of_mem (List.mem_filter.mp hb).1)

theorem keyInClauses_ofRow_eq_iff :
    keyInClauses name (Condition.ofRow row) = keyInRow name row ↔ ¬ Overtakes name row := by
  rw [keyInClauses_ofRow, Overtakes]
  cases keyBefore name row with
  | none => simp
  | some key => simp [eq_comm]

theorem keyInClauses_ofRow_eq_none_iff :
    keyInClauses name (Condition.ofRow row) = none ↔ keyInRow name row = none := by
  rw [keyInClauses_ofRow, Option.or_eq_none_iff]
  exact ⟨And.right, fun h => ⟨keyBefore_eq_none h, h⟩⟩

/-! ## The key of both -/

theorem extractKey_eq (conditions : Option Condition) (data : Option Row) :
    extractKey conditions data = (((conditions.bind (keyInClauses "key")).or
      (data.bind (keyInRow "key"))).or ((conditions.bind (keyInClauses "id")).or
        (data.bind (keyInRow "id")))).getD defaultKey := by
  simp [extractKey, keyFields, keyUnder, Option.or_assoc]

/-- Of two choices that are made from as much, the first ones must agree, and the second ones where
there is no first. -/
theorem getD_or_eq_iff {a a' b b' : Option String} (first : a = none ↔ a' = none)
    (second : b = none ↔ b' = none) (otherwise : String) :
    (a.or b).getD otherwise = (a'.or b').getD otherwise ↔ a = a' ∧ (a' = none → b = b') := by
  cases a <;> cases a' <;> cases b <;> cases b' <;> simp_all

/-- **A row and its condition are about the same key unless the row misleads.** -/
theorem extractKey_ofRow_eq_iff (row : Row) :
    extractKey (some (.ofRow row)) none = extractKey none (some row) ↔ ¬ Misleads row := by
  rw [extractKey_eq, extractKey_eq]
  simp only [Option.bind_some, Option.bind_none, Option.or_none, Option.none_or]
  rw [getD_or_eq_iff keyInClauses_ofRow_eq_none_iff keyInClauses_ofRow_eq_none_iff,
    keyInClauses_ofRow_eq_iff, keyInClauses_ofRow_eq_iff, Misleads, not_or, not_and]

/-! ## Entries -/

section

variable {config : Config} {s : Store} {table key : String} {b : Bucket}

theorem run_get (found : s.get? table = some b) (fields : List String) :
    s.run config ⟨table, .get key fields⟩ =
      (.ok (Result.ofRows ((b.get? key).map (projected fields)).toList), s) := by
  rw [Store.run, Step.outcome, apply, Steps.run_bind_ok (Step.run_bucket found)]
  rfl

theorem run_delete (found : s.get? table = some b) :
    s.run config ⟨table, .delete key⟩ =
      (.ok (Result.ofAffected (if b.contains key then 1 else 0)),
        s.insert table (b.erase key)) := by
  show (delete table key).outcome s = _
  rw [delete, Step.outcome, Steps.run_bind_ok (Step.run_bucket found)]
  rfl

/-- An entry that was put is there, under the key of its data. -/
theorem get?_of_inserted {s' : Store} {r : Result}
    (ran : s.run config ⟨table, operationOf (.insert table row)⟩ = (.ok r, s')) :
    ∃ b, s'.get? table = some b ∧ b.get? (extractKey none (some row)) = some row := by
  have effect := run_effect config s table (.set (extractKey none (some row)) row)
  have put : s.run config ⟨table, .set (extractKey none (some row)) row⟩ = (.ok r, s') := ran
  rw [put] at effect
  cases effect with
  | put => exact ⟨_, TextMap.get?_insert_self .., TextMap.get?_insert_self ..⟩

end

/-- **The condition of a row is about the entry that the row was put in, unless the row misleads.**
Both give the same key exactly when no object in front of `key`, or of `id` where there is no `key`,
holds another one. So a read with this condition brings the entry that has just been put, and a
deletion takes it out; and if the row misleads, the deletion leaves it where it is. -/
theorem row_condition_is_about_entry_iff (row : Row) (config : Config) (s : Store)
    (table : String) :
    (extractKey (some (.ofRow row)) none = extractKey none (some row) ↔ ¬ Misleads row) ∧
    ∀ r s', s.run config ⟨table, operationOf (.insert table row)⟩ = (.ok r, s') →
      let deletion := s'.run config ⟨table, operationOf (.delete table (some (.ofRow row)))⟩
      (¬ Misleads row →
        (∀ selection : Selection, selection.conditions = some (.ofRow row) →
          s'.run config ⟨table, operationOf (.select selection)⟩ =
            (.ok (Result.ofRows [projected (selection.fields.getD []) row]), s')) ∧
        deletion.1 = .ok (Result.ofAffected 1)) ∧
      ((deletion.2.entriesOf table).get? (extractKey none (some row)) = none ↔
        ¬ Misleads row) := by
  refine ⟨extractKey_ofRow_eq_iff row, fun r s' ran => ?_⟩
  intro deletion
  obtain ⟨b, found, held⟩ := get?_of_inserted ran
  have deleted : deletion = _ := run_delete found
  have left : deletion.2.entriesOf table = b.erase (extractKey (some (.ofRow row)) none) := by
    rw [deleted]
    exact Store.entriesOf_of_get? (TextMap.get?_insert_self ..)
  rw [left, TextMap.get?_erase, ← extractKey_ofRow_eq_iff]
  refine ⟨fun same => ⟨fun selection asked => ?_, ?_⟩, ?_⟩
  · have brought : s'.run config
        ⟨table, .get (extractKey none (some row)) (selection.fields.getD [])⟩ = _ :=
      run_get found _
    rw [held] at brought
    rw [operationOf, asked, same]
    exact brought
  · rw [deleted, same, TextMap.contains, held]
    rfl
  · rw [held]
    split
    · rename_i same
      exact iff_of_true rfl same
    · rename_i other
      exact iff_of_false (Option.some_ne_none row) other

/-- A card whose key stands inside of the objects of two fields. -/
def card : Row :=
  TextMap.ofList [
    ("_meta", .json (.object [("id", .text "m"), ("of", .object [("key", .ofInt64 7)])])),
    ("id", .json (.object [("key", .text "7")])),
    ("name", .text "ada")]

theorem row_condition_is_about_entry_iff_card :
    let inserted := Store.empty.run .standard ⟨"cards", operationOf (.insert "cards" card)⟩
    let selection := (Selection.everything "cards").filtered (.ofRow card)
    ¬ Misleads card ∧ inserted.1 = .ok { rows := [], affected := 1, insertId := some (.text "7") } ∧
      (inserted.2.run .standard ⟨"cards", operationOf (.select selection)⟩).1 =
        .ok (Result.ofRows [card]) := by
  intro inserted selection
  have answered : inserted.1 = .ok { rows := [], affected := 1, insertId := some (.text "7") } := by
    cbv
  have front : keyBefore "key" card = some "7" := by cbv
  have held : keyInRow "key" card = some "7" := by cbv
  -- the objects hold one key, so that it does not matter which of them comes first
  have leads : ¬ Misleads card := by
    rintro (⟨key, before, other⟩ | ⟨none, _⟩)
    · exact other (held.trans (front.symm.trans before))
    · rw [held] at none
      cases none
  obtain ⟨_, behind⟩ := row_condition_is_about_entry_iff card .standard Store.empty "cards"
  obtain ⟨brings, _⟩ := (behind _ _ (Prod.ext answered rfl)).1 leads
  exact ⟨leads, answered, congrArg Prod.fst (brings selection rfl)⟩

/-- **An object in front of `key` misleads the condition of a row.** The entry is put under its own
`key`; its condition asks for the one inside of the object, finds nothing, and takes nothing out. -/
theorem nested_key_misleads :
    let row : Row := TextMap.ofList
      [("about", .json (.object [("key", .text "x")])), ("key", .text "y")]
    let inserted := Store.empty.run .standard ⟨"cache", operationOf (.insert "cache" row)⟩
    let selection := (Selection.everything "cache").filtered (.ofRow row)
    let deletion :=
      inserted.2.run .standard ⟨"cache", operationOf (.delete "cache" (some (.ofRow row)))⟩
    Condition.ofRow row = [.field "about" (.equals (.json (.object [("key", .text "x")]))),
        .field "key" (.equals (.text "y"))] ∧
      extractKey (some (.ofRow row)) none = "x" ∧ extractKey none (some row) = "y" ∧
      (inserted.2.run .standard ⟨"cache", operationOf (.select selection)⟩).1 =
        .ok (Result.ofRows []) ∧
      deletion.1 = .ok (Result.ofAffected 0) ∧
      (deletion.2.entriesOf "cache").get? "y" = some row := by
  refine ⟨?_, ?_, ?_, ?_, ?_, ?_⟩ <;> cbv

end KeyValue

end Polystore
