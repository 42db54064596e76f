import Polystore.Json.Reader
import Polystore.Proofs.Binary64.Exact

/-!
# Documents that have a text

Not every document is the one that some text holds: a float that is not finite has no digits, and an
object with two fields of one name loses one of them when it is read. At every level of a document
that was read both are excluded. A number that would overflow is refused, the others are whole, or
multiplied with a check, or divided by powers of ten; and a name that comes again sets the field
that is there already.
-/

namespace Polystore.Json

/-! ## Checks at every level -/

mutual

/-- Whether a document and every document inside it pass a check. -/
def all (check : Json → Bool) : Json → Bool
  | .array items => check (.array items) && allItems check items
  | .object fields => check (.object fields) && allFields check fields
  | j => check j

/-- Whether the documents of a list and all inside them pass a check. -/
def allItems (check : Json → Bool) : List Json → Bool
  | [] => true
  | j :: rest => j.all check && allItems check rest

/-- Whether the documents of a list of fields and all inside them pass a check. -/
def allFields (check : Json → Bool) : List (String × Json) → Bool
  | [] => true
  | (_, j) :: rest => j.all check && allFields check rest

end

theorem allItems_iff {check : Json → Bool} {items : List Json} :
    allItems check items = true ↔ ∀ j ∈ items, j.all check = true := by
  induction items with
  | nil => simp [allItems]
  | cons j rest ih => rw [allItems, Bool.and_eq_true, ih, List.forall_mem_cons]

theorem allFields_iff {check : Json → Bool} {fields : List (String × Json)} :
    allFields check fields = true ↔ ∀ f ∈ fields, f.2.all check = true := by
  induction fields with
  | nil => simp [allFields]
  | cons field rest ih => rw [allFields, Bool.and_eq_true, ih, List.forall_mem_cons]

theorem all_array {check : Json → Bool} {items : List Json} (h : (array items).all check = true) :
    allItems check items = true := (Bool.and_eq_true_iff.mp h).2

theorem all_object {check : Json → Bool} {fields : List (String × Json)}
    (h : (object fields).all check = true) : allFields check fields = true :=
  (Bool.and_eq_true_iff.mp h).2

mutual

/-- What passes a check at every level passes a weaker one. -/
theorem all_mono {check weaker : Json → Bool} (h : ∀ j, check j = true → weaker j = true)
    (j : Json) (passed : j.all check = true) : j.all weaker = true := by
  cases j with
  | array items =>
    rw [all, Bool.and_eq_true] at passed ⊢
    exact ⟨h _ passed.1, allItems_mono h items passed.2⟩
  | object fields =>
    rw [all, Bool.and_eq_true] at passed ⊢
    exact ⟨h _ passed.1, allFields_mono h fields passed.2⟩
  | _ => exact h _ passed

theorem allItems_mono {check weaker : Json → Bool} (h : ∀ j, check j = true → weaker j = true)
    (items : List Json) (passed : allItems check items = true) : allItems weaker items = true := by
  cases items with
  | nil => rfl
  | cons j rest =>
    rw [allItems, Bool.and_eq_true] at passed ⊢
    exact ⟨all_mono h j passed.1, allItems_mono h rest passed.2⟩

theorem allFields_mono {check weaker : Json → Bool} (h : ∀ j, check j = true → weaker j = true)
    (fields : List (String × Json)) (passed : allFields check fields = true) :
    allFields weaker fields = true := by
  cases fields with
  | nil => rfl
  | cons field rest =>
    obtain ⟨key, j⟩ := field
    rw [allFields, Bool.and_eq_true] at passed ⊢
    exact ⟨all_mono h j passed.1, allFields_mono h rest passed.2⟩

end

/-- A float is finite, and the fields of an object have distinct names. -/
def isWritable : Json → Bool
  | .float x => x.isFinite
  | .object fields => decide (fields.map Prod.fst).Nodup
  | _ => true

/-- The document has a text: every float inside is finite, and the fields of every object have
distinct names. -/
def IsText (j : Json) : Prop := j.all isWritable = true

instance (j : Json) : Decidable j.IsText := inferInstanceAs (Decidable (_ = _))

theorem isText_float_iff (x : Binary64) : (float x).IsText ↔ x.isFinite = true := Iff.rfl

/-- The sign has no part in being finite. -/
theorem isText_float_neg_iff (x : Binary64) : (float x.neg).IsText ↔ x.isFinite = true := Iff.rfl

theorem isText_array_iff {items : List Json} :
    (array items).IsText ↔ ∀ j ∈ items, j.IsText := by
  show (true && allItems isWritable items) = true ↔ _
  rw [Bool.true_and, allItems_iff]
  rfl

theorem isText_object_iff {fields : List (String × Json)} :
    (object fields).IsText ↔ (fields.map Prod.fst).Nodup ∧ ∀ f ∈ fields, f.2.IsText := by
  show (decide _ && allFields isWritable fields) = true ↔ _
  rw [Bool.and_eq_true, decide_eq_true_eq, allFields_iff]
  rfl

/-! ## Numbers -/

/-- Multiplying is checked, and dividing by a power of ten keeps a number finite. -/
theorem isFinite_scaled {fuel : Nat} {x y : Binary64} {exponent : Int}
    (finite : x.isFinite = true) (h : scaled fuel x exponent = some y) : y.isFinite = true := by
  induction fuel generalizing x exponent with
  | zero => cases h
  | succ fuel ih =>
    rw [scaled] at h
    by_cases near : exponent.natAbs ≤ 308
    · rw [if_pos near] at h
      by_cases up : 0 ≤ exponent
      · rw [if_pos up] at h
        dsimp only at h
        split at h
        · rename_i kept
          obtain rfl := Option.some.inj h
          exact kept
        · cases h
      · rw [if_neg up] at h
        obtain rfl := Option.some.inj h
        exact Binary64.isFinite_div finite (Binary64.unitsPerOne_le_powTen (by omega))
    · rw [if_neg near] at h
      by_cases zero : x.isZero = true
      · rw [if_pos zero] at h
        obtain rfl := Option.some.inj h
        exact finite
      · rw [if_neg zero] at h
        by_cases up : 0 ≤ exponent
        · rw [if_pos up] at h
          cases h
        · rw [if_neg up] at h
          have power := Binary64.unitsPerOne_le_powTen (k := 308) (by decide)
          rw [Nat.cast_ofNat] at power
          exact ih (Binary64.isFinite_div finite power) h

variable {negative : Bool} {significand : Nat} {exponent : Int} {cs rest : List Char} {j : Json}

theorem isText_floatOf (small : significand < significandBound)
    (h : floatOf negative significand exponent = some j) : j.IsText := by
  obtain ⟨x, made, rfl⟩ := Option.map_eq_some_iff.mp h
  have finite : x.isFinite = true := isFinite_scaled (Binary64.isFinite_ofInt small) made
  cases negative with
  | true => exact (isText_float_neg_iff x).mpr finite
  | false => exact (isText_float_iff x).mpr finite

/-- What is found with a rest behind it. -/
theorem eq_some_of_map {found : Option Json} {behind : List Char}
    (h : found.map (·, behind) = some (j, rest)) : found = some j := by
  obtain ⟨i, some, same⟩ := Option.map_eq_some_iff.mp h
  rw [some, (Prod.mk.inj same).1]

theorem isText_readExponentDigits {down : Bool} {value : Nat}
    (small : significand < significandBound)
    (h : readExponentDigits negative down significand exponent value cs = some (j, rest)) :
    j.IsText := by
  induction cs generalizing value with
  | nil =>
    rw [readExponentDigits] at h
    exact isText_floatOf small (eq_some_of_map h)
  | cons c cs ih =>
    rw [readExponentDigits] at h
    by_cases digit : c.isDigit = true
    · rw [if_pos digit] at h
      dsimp only at h
      split at h
      · exact ih h
      · split at h
        · cases h
        · -- the exponent has too many digits and the number is zero
          rw [← (Prod.mk.inj (Option.some.inj h)).1]
          cases negative <;> rfl
    · rw [if_neg digit] at h
      exact isText_floatOf small (eq_some_of_map h)

theorem isText_finishFloat (small : significand < significandBound)
    (h : finishFloat negative significand exponent cs = some (j, rest)) : j.IsText := by
  cases cs with
  | nil =>
    rw [finishFloat] at h
    exact isText_floatOf small (eq_some_of_map h)
  | cons c cs =>
    rw [finishFloat] at h
    split at h
    · unfold readExponent at h
      dsimp only at h
      split at h
      · split at h
        · exact isText_readExponentDigits small h
        · cases h
      · cases h
    · exact isText_floatOf small (eq_some_of_map h)

theorem isText_readFraction (small : significand < significandBound)
    (h : readFraction negative significand exponent cs = some (j, rest)) : j.IsText := by
  induction cs generalizing significand exponent with
  | nil =>
    rw [readFraction] at h
    exact isText_finishFloat small h
  | cons c cs ih =>
    rw [readFraction] at h
    split at h
    · dsimp only at h
      split at h
      · rename_i fits
        exact ih fits h
      · exact isText_finishFloat small h
    · exact isText_finishFloat small h

theorem isText_afterWhole (small : significand < significandBound)
    (h : afterWhole negative significand exponent cs = some (j, rest)) : j.IsText := by
  unfold afterWhole at h
  split at h
  · split at h
    · exact isText_readFraction small h
    · cases h
  · cases h
  · exact isText_finishFloat small h

theorem isText_wholeOf (negative : Bool) (small : significand < significandBound) :
    (wholeOf negative significand).IsText := by
  have finite := Binary64.isFinite_ofInt small
  unfold wholeOf
  cases negative with
  | true =>
    rw [if_pos rfl]
    split
    · rfl
    · exact (isText_float_neg_iff _).mpr finite
  | false =>
    rw [if_neg Bool.false_ne_true]
    split
    · rfl
    · exact (isText_float_iff _).mpr finite

theorem isText_readWhole (small : significand < significandBound)
    (h : readWhole negative significand cs = some (j, rest)) : j.IsText := by
  induction cs generalizing significand with
  | nil =>
    rw [readWhole] at h
    rw [← (Prod.mk.inj (Option.some.inj h)).1]
    exact isText_wholeOf negative small
  | cons c cs ih =>
    rw [readWhole] at h
    split at h
    · dsimp only at h
      split at h
      · rename_i fits
        exact ih fits h
      · exact isText_afterWhole small h
    · split at h
      · exact isText_afterWhole small h
      · rw [← (Prod.mk.inj (Option.some.inj h)).1]
        exact isText_wholeOf negative small

theorem isText_readUnsigned (h : readUnsigned negative cs = some (j, rest)) : j.IsText := by
  have empty : 0 < significandBound := by decide
  unfold readUnsigned at h
  split at h
  · split at h
    · cases h
    · exact isText_readWhole empty h
  · split at h
    · exact isText_readWhole empty h
    · cases h
  · cases h

/-! ## Documents -/

theorem mem_setField {key : String} {value : Json} {fields : List (String × Json)}
    {f : String × Json} (h : f ∈ setField key value fields) : f = (key, value) ∨ f ∈ fields := by
  induction fields with
  | nil => exact .inl (List.mem_singleton.mp h)
  | cons field rest ih =>
    rw [setField] at h
    split at h
    · rename_i same
      rcases List.mem_cons.mp h with rfl | there
      · rw [same]
        exact .inl rfl
      · exact .inr (List.mem_cons_of_mem _ there)
    · rcases List.mem_cons.mp h with rfl | there
      · exact .inr List.mem_cons_self
      · rcases ih there with new | old
        · exact .inl new
        · exact .inr (List.mem_cons_of_mem _ old)

/-- Setting a field keeps names distinct. -/
theorem nodup_setField (key : String) (value : Json) {fields : List (String × Json)}
    (distinct : (fields.map Prod.fst).Nodup) :
    ((setField key value fields).map Prod.fst).Nodup := by
  induction fields with
  | nil => exact List.nodup_singleton key
  | cons field rest ih =>
    rw [List.map_cons, List.nodup_cons] at distinct
    rw [setField]
    split
    · rw [List.map_cons, List.nodup_cons]
      exact distinct
    · rename_i other
      rw [List.map_cons, List.nodup_cons]
      refine ⟨fun there => ?_, ih distinct.2⟩
      obtain ⟨f, there, same⟩ := List.mem_map.mp there
      rcases mem_setField there with rfl | old
      · exact other same.symm
      · exact distinct.1 (List.mem_map.mpr ⟨f, old, same⟩)

theorem isText_setField (key : String) {value : Json} {fields : List (String × Json)}
    (new : value.IsText) (h : (object fields).IsText) :
    (object (setField key value fields)).IsText := by
  obtain ⟨distinct, texts⟩ := isText_object_iff.mp h
  refine isText_object_iff.mpr ⟨nodup_setField key value distinct, fun f there => ?_⟩
  rcases mem_setField there with rfl | old
  · exact new
  · exact texts f old

/-- What the readers of documents make with so much fuel has a text. -/
structure ReadsTexts (fuel : Nat) : Prop where
  value : ∀ {depth cs j rest}, readValue fuel depth cs = some (j, rest) → j.IsText
  items : ∀ {depth seen cs j rest}, (∀ i ∈ seen, i.IsText) →
    readItems fuel depth seen cs = some (j, rest) → j.IsText
  fields : ∀ {depth seen cs j rest}, (object seen).IsText →
    readFields fuel depth seen cs = some (j, rest) → j.IsText

section Step

variable {fuel depth : Nat}

theorem isText_readValue (inner : ReadsTexts fuel)
    (h : readValue (fuel + 1) depth cs = some (j, rest)) : j.IsText := by
  rw [readValue] at h
  split at h
  · cases h
  · -- one case for each first character, in the order in which the reader tries them
    split_ifs at h with quote bracket brace minus digit n t f
    · obtain ⟨⟨s, behind⟩, _, same⟩ := Option.map_eq_some_iff.mp h
      rw [← (Prod.mk.inj same).1]
      rfl
    · split at h
      · cases h
      · split at h
        · rw [← (Prod.mk.inj (Option.some.inj h)).1]
          rfl
        · exact inner.items (fun i there => absurd there List.not_mem_nil) h
    · have empty : (object []).IsText := rfl
      split at h
      · cases h
      · split at h
        · rw [← (Prod.mk.inj (Option.some.inj h)).1]
          exact empty
        · exact inner.fields empty h
    · exact isText_readUnsigned h
    · exact isText_readUnsigned h
    all_goals
      unfold readWord at h
      split at h
      · rw [← (Prod.mk.inj (Option.some.inj h)).1]
        rfl
      · cases h

theorem isText_readItems {seen : List Json} (inner : ReadsTexts fuel)
    (texts : ∀ i ∈ seen, i.IsText)
    (h : readItems (fuel + 1) depth seen cs = some (j, rest)) : j.IsText := by
  rw [readItems] at h
  split at h
  · cases h
  · rename_i item behind read
    have all : ∀ i ∈ item :: seen, i.IsText := by
      intro i there
      rcases List.mem_cons.mp there with rfl | old
      · exact inner.value read
      · exact texts i old
    split at h
    · exact inner.items all h
    · rw [← (Prod.mk.inj (Option.some.inj h)).1]
      refine isText_array_iff.mpr fun i there => ?_
      exact all i (List.mem_reverse.mp there)
    · cases h

theorem isText_readFields {seen : List (String × Json)} (inner : ReadsTexts fuel)
    (texts : (object seen).IsText)
    (h : readFields (fuel + 1) depth seen cs = some (j, rest)) : j.IsText := by
  rw [readFields] at h
  split at h
  · split at h
    · cases h
    · split at h
      · split at h
        · cases h
        · rename_i read
          have all (key : String) := isText_setField key (inner.value read) texts
          split at h
          · exact inner.fields (all _) h
          · rw [← (Prod.mk.inj (Option.some.inj h)).1]
            exact all _
          · cases h
      · cases h
  · cases h

end Step

theorem readsTexts (fuel : Nat) : ReadsTexts fuel := by
  induction fuel with
  | zero =>
    refine ⟨?_, ?_, ?_⟩
    · intro depth cs j rest h
      cases h
    · intro depth seen cs j rest _ h
      cases h
    · intro depth seen cs j rest _ h
      cases h
  | succ fuel ih => exact ⟨isText_readValue ih, isText_readItems ih, isText_readFields ih⟩

/-- **The document that a text holds has finite floats and distinct names at every level.** -/
theorem isText_of_read? {s : String} (h : read? s = some j) : j.IsText := by
  unfold read? at h
  dsimp only at h
  split at h
  · rename_i read
    split at h
    · rw [← Option.some.inj h]
      exact (readsTexts _).value read
    · cases h
  · cases h

end Polystore.Json
