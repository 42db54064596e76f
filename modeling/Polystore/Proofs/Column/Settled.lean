import Mathlib
import Polystore.Proofs.Column.Recall

/-!
# Storing what is stored

What a column has stored is in the representation of its type, and storing it once more should
change nothing. It changes nothing but texts in columns of documents: a text that was given to such
a column is read, what it holds may be a text again, and nothing marks that text as one that has
been read already.

A value that goes through a column of text comes back from there if its text spells it, as the texts
of integers, of truth values and of instants in years of four digits do.
-/

namespace Polystore.ColumnType

/-! ## Once more -/

/-- Whether a column reads a stored value once more: a text that holds a document, in a column of
documents. -/
def rereads : ColumnType → Value → Bool
  | .json, .text s => (Json.read? s).isSome
  | _, _ => false

/-- The documents that are texts are those whose values are texts. -/
theorem eq_text_of_ofJson {j : Json} {s : String} (h : Value.ofJson j = .text s) :
    j = .text s := by
  cases j with
  | text u => exact congrArg Json.text (Value.text.inj h)
  | int n =>
    rw [Value.ofJson] at h
    split at h <;> cases h
  | _ => cases h

/-- What a text holds is not the text. -/
theorem ofJson_ne_text {s : String} {j : Json} (read : Json.read? s = some j) :
    Value.ofJson j ≠ .text s := by
  intro same
  obtain rfl := eq_text_of_ofJson same
  have apart := looseEq_ofJson_text read rfl
  rw [Value.ofJson, Value.looseEq, beq_self_eq_true] at apart
  cases apart

/-- A column of documents takes every value but instants, and changes those that it reads. -/
theorem convert_json_again {w : Value} (timeless : w.isDate = false) :
    ∃ w', json.convert w = some w' ∧ (w' = w ↔ json.rereads w = false) := by
  cases w with
  | text s =>
    rw [convert, rereads]
    cases read : Json.read? s with
    | none => exact ⟨_, rfl, by simp⟩
    | some j => exact ⟨_, rfl, by simpa using ofJson_ne_text read⟩
  | date t => cases timeless
  | _ => exact ⟨_, rfl, by simp [rereads]⟩

/-- No document is an instant. -/
theorem isDate_ofJson (j : Json) : (Value.ofJson j).isDate = false := by
  cases j with
  | int n =>
    rw [Value.ofJson]
    split <;> rfl
  | _ => rfl

theorem isDate_of_convert_json {v w : Value} (h : json.convert v = some w) :
    w.isDate = false := by
  cases v with
  | text s =>
    rw [convert] at h
    split at h
    · rename_i j _
      obtain rfl := Option.some.inj h
      exact isDate_ofJson j
    · obtain rfl := Option.some.inj h
      rfl
  | date t => cases h
  | _ =>
    obtain rfl := Option.some.inj h
    rfl

theorem represents_of_convert {type : ColumnType} {v w : Value} (h : type.convert v = some w) :
    w = .null ∨ type.represents w = true := by
  have coerced : type.coerce "" v = .ok w := coerce_eq_ok.mpr h
  exact represents_of_coerce coerced

/-- A value in the representation of a type other than that of documents is stored as itself. -/
theorem convert_of_represents {type : ColumnType} {v : Value} (plain : type ≠ .json)
    (h : type.represents v = true) : type.convert v = some v := by
  cases type with
  | json => exact absurd rfl plain
  | _ =>
    cases v <;> cases h
    rfl

/-- **What a column has stored it stores again**, and as another value just when it reads it. -/
theorem convert_again {type : ColumnType} {v w : Value} (h : type.convert v = some w) :
    ∃ w', type.convert w = some w' ∧ (w' = w ↔ type.rereads w = false) := by
  by_cases documents : type = .json
  · subst documents
    exact convert_json_again (isDate_of_convert_json h)
  · have unread : type.rereads w = false := by
      cases type with
      | json => exact absurd rfl documents
      | _ => rfl
    refine ⟨w, ?_, iff_of_true rfl unread⟩
    rcases represents_of_convert h with rfl | represented
    · exact coerce_eq_ok.mp (coerce_null type "")
    · exact convert_of_represents documents represented

/-- A column reads what it has stored once more if it was given a text in the text. -/
theorem rereads_iff {type : ColumnType} {v w : Value} (h : type.convert v = some w) :
    type.rereads w = true ↔ type = .json ∧ ∃ s u, v = .text s ∧
      Json.read? s = some (.text u) ∧ (Json.read? u).isSome = true := by
  constructor
  · intro read
    cases type with
    | json =>
      cases w with
      | text u =>
        cases v with
        | text s =>
          rw [convert] at h
          split at h
          · rename_i held
            obtain rfl := eq_text_of_ofJson (Option.some.inj h)
            exact ⟨rfl, s, u, rfl, held, read⟩
          · -- a text that holds no document is stored as it is
            rename_i unread
            obtain rfl := Value.text.inj (Option.some.inj h)
            rw [rereads, unread] at read
            cases read
        | _ => cases h
      | _ => cases read
    | _ => cases read
  · rintro ⟨rfl, s, u, rfl, held, read⟩
    rw [convert, held] at h
    obtain rfl := Option.some.inj h
    exact read

/-! ## Through a column of text -/

/-- Whether the text of a value spells it for a type. -/
def spells : ColumnType → Value → Bool
  | _, .null => true
  | .integer, .int _ => true
  | .boolean, .bool _ => true
  | .date, .date t => decide t.HasPlainYear
  | _, _ => false

/-- The types whose values their texts spell. -/
def spelled : List ColumnType := [.integer, .boolean, .date]

/-- What a column of one of these types holds is spelled by its text, if the year of an instant has
four digits. -/
theorem spells_of_represents {type : ColumnType} {v : Value} (listed : type ∈ spelled)
    (represented : type.represents v = true)
    (year : ∀ t, v = .date t → t.HasPlainYear) : type.spells v = true := by
  cases type with
  | integer =>
    cases v <;> cases represented
    rfl
  | boolean =>
    cases v <;> cases represented
    rfl
  | date =>
    cases v <;> cases represented
    exact decide_eq_true (year _ rfl)
  | _ => simp [spelled] at listed

theorem convert_integer_keyText (n : Int64) :
    integer.convert (.text (Value.keyText (.int n))) = some (.int n) := by
  have text : (Value.keyText (.int n)).toList = Text.intDigits n.toInt := String.toList_ofList
  rw [convert, text, (tight_intDigits n.toInt).trim_eq, Text.readInt64_intDigits]
  rfl

theorem convert_boolean_keyText (b : Bool) :
    boolean.convert (.text (Value.keyText (.bool b))) = some (.bool b) := by
  cases b <;> rfl

theorem convert_date_text {t : Calendar.Instant} (h : t.HasPlainYear) :
    date.convert (.text t.text) = some (.date t) := by
  rw [convert, Calendar.ofText?_text h]
  rfl

/-- **A value that its text spells comes back from a column of text**, which has kept what keys are
made of and no value but `null` as `null`. -/
theorem convert_text_and_back {type : ColumnType} {v : Value} (h : type.spells v = true) :
    ∃ w, text.convert v = some w ∧ type.convert w = some v ∧ w.keyText = v.keyText ∧
      w.isNull = v.isNull := by
  cases v with
  | null => exact ⟨.null, rfl, by cases type <;> rfl, rfl, rfl⟩
  | int n =>
    cases type with
    | integer => exact ⟨_, rfl, convert_integer_keyText n, rfl, rfl⟩
    | _ => cases h
  | bool b =>
    cases type with
    | boolean => exact ⟨_, rfl, convert_boolean_keyText b, rfl, rfl⟩
    | _ => cases h
  | date t =>
    cases type with
    | date => exact ⟨_, rfl, convert_date_text (of_decide_eq_true h), rfl, rfl⟩
    | _ => cases h
  | _ => cases type <;> cases h

end Polystore.ColumnType
