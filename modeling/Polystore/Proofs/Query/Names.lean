import Polystore.Proofs.Condition.Meaning
import Polystore.Query.Basic
import Polystore.Text.Basic

/-!
# The names in a query

A query names its table, and columns or an index of it: in its condition, its data, its fields and
what it groups and sorts by. A plain name is made of the letters of ASCII, digits and underscores,
and starts with no digit.
-/

namespace Polystore

/-! ## Selections -/

namespace Selection

/-- The names of the fields that a selection mentions anywhere. -/
def names (s : Selection) : List String :=
  s.conditions.elim [] Condition.names ++ s.fields.getD [] ++ s.orderings.map (·.field) ++
    s.groupings

variable {s : Selection}

theorem mem_names_of_condition {c : Condition} (h : s.conditions = some c) {name : String}
    (hn : name ∈ Condition.names c) : name ∈ s.names := by
  simp [names, h, hn]

theorem mem_names_of_field {name : String} (h : name ∈ s.fields.getD []) : name ∈ s.names := by
  simp [names, h]

theorem mem_names_of_ordering {k : SortKey} (h : k ∈ s.orderings) : k.field ∈ s.names := by
  have : k.field ∈ s.orderings.map (·.field) := List.mem_map_of_mem h
  simp only [names, List.mem_append]
  exact .inl (.inr this)

theorem mem_names_of_grouping {name : String} (h : name ∈ s.groupings) : name ∈ s.names := by
  simp [names, h]

end Selection

/-! ## Queries -/

namespace Query

/-- The names that a query mentions anywhere. -/
def names : Query → List String
  | .create table schema => table :: schema.map (·.name)
  | .select s => s.table :: s.names
  | .insert table data => table :: data.keys
  | .update table changes conditions =>
    table :: changes.keys ++ conditions.elim [] Condition.names
  | .delete table conditions => table :: conditions.elim [] Condition.names
  | .alter table alterations => table :: alterations.map (·.columnName)
  | .dropTable table => [table]
  | .dropIndex table index => [table, index]
  | .createIndex table index columns _ => table :: index :: columns

/-- Whether a query defines columns. -/
def definesColumns : Query → Bool
  | .create _ _ => true
  | .alter _ _ => true
  | _ => false

end Query

/-! ## Plain names -/

/-- Whether a plain name can go on with the character. -/
def isPlainChar (c : Char) : Bool := c.isAlphanum || c == '_'

/-- Whether a name is a letter of ASCII or an underscore, and then letters, digits and
underscores. -/
def isPlainName (name : String) : Bool :=
  match name.toList with
  | c :: cs => (c.isAlpha || c == '_') && cs.all isPlainChar
  | [] => false

theorem isPlainChar_of_mem {name : String} (h : isPlainName name = true) :
    ∀ c ∈ name.toList, isPlainChar c = true := by
  intro c hc
  unfold isPlainName at h
  split at h
  · rename_i d ds e
    rw [Bool.and_eq_true, Bool.or_eq_true] at h
    rw [e] at hc
    rcases List.mem_cons.mp hc with rfl | hc
    · unfold isPlainChar Char.isAlphanum
      rcases h.1 with first | first <;> simp [first]
    · exact List.all_eq_true.mp h.2 c hc
  · cases h

/-- No character of a plain name is blank. -/
theorem isPlainChar_not_blank {c : Char} (h : isPlainChar c = true) : Text.isBlank c = false := by
  have codes : c = '_' ∨ (48 ≤ c.toNat ∧ c.toNat ≤ 57) ∨ (65 ≤ c.toNat ∧ c.toNat ≤ 90) ∨
      (97 ≤ c.toNat ∧ c.toNat ≤ 122) := by
    have alpha : c.isAlpha = (c.isUpper || c.isLower) := rfl
    have upper : c.isUpper = decide (c.val ≥ 65 ∧ c.val ≤ 90) := rfl
    have lower : c.isLower = (decide (c.val ≥ 97) && decide (c.val ≤ 122)) := rfl
    simp only [isPlainChar, Char.isAlphanum, alpha, upper, lower, Char.isDigit, Bool.or_eq_true, Bool.and_eq_true, decide_eq_true_eq, UInt32.le_iff_toNat_le, ge_iff_le,
      beq_iff_eq] at h
    rcases h with ((h | h) | h) | h
    · exact .inr (.inr (.inl h))
    · exact .inr (.inr (.inr h))
    · exact .inr (.inl h)
    · exact .inl h
  rcases codes with rfl | codes
  · decide
  · unfold Text.isBlank
    simp only [Bool.or_eq_false_iff, Bool.and_eq_false_iff, decide_eq_false_iff_not,
      beq_eq_false_iff_ne]
    omega

end Polystore
