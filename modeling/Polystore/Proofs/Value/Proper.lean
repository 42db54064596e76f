import Polystore.Proofs.Binary64.Reading
import Polystore.Value.Compare

/-!
# Values equal to themselves

A value is equal to itself by a common reading, and a document the same as itself, unless a value
that is not a number is somewhere inside, or an object names a field twice. Documents that were read
have neither.
-/

namespace Polystore

namespace Json

mutual

/-- Whether all numbers inside are numbers, and the fields of every object have distinct names. -/
def isProper : Json → Bool
  | .float x => !x.isNaN
  | .array items => areProper items
  | .object fields => decide (fields.map (·.1)).Nodup && fieldsProper fields
  | _ => true

/-- Whether the documents of a list are proper. -/
def areProper : List Json → Bool
  | [] => true
  | j :: rest => j.isProper && areProper rest

/-- Whether the documents of a list of fields are proper. -/
def fieldsProper : List (String × Json) → Bool
  | [] => true
  | (_, j) :: rest => j.isProper && fieldsProper rest

end

/-- Among fields of distinct names every field is found. -/
theorem field?_of_mem {fields : List (String × Json)} (distinct : (fields.map (·.1)).Nodup)
    {key : String} {j : Json} (h : (key, j) ∈ fields) : field? key fields = some j := by
  induction fields with
  | nil => exact absurd h List.not_mem_nil
  | cons field rest ih =>
    obtain ⟨k, v⟩ := field
    obtain ⟨apart, distinct⟩ := List.nodup_cons.mp distinct
    rw [field?]
    rcases List.mem_cons.mp h with same | later
    · obtain ⟨rfl, rfl⟩ := Prod.mk.inj same
      exact if_pos rfl
    · have other : k ≠ key := by
        rintro rfl
        exact apart (List.mem_map.mpr ⟨_, later, rfl⟩)
      rw [if_neg other]
      exact ih distinct later

theorem mem_of_field? {key : String} {fields : List (String × Json)} {j : Json}
    (h : field? key fields = some j) : (key, j) ∈ fields := by
  induction fields with
  | nil => cases h
  | cons field rest ih =>
    obtain ⟨k, v⟩ := field
    rw [field?] at h
    split at h
    · rename_i same
      cases h
      exact same ▸ List.mem_cons_self
    · exact List.mem_cons_of_mem _ (ih h)

mutual

/-- **A proper document is the same as itself.** -/
theorem same_self (j : Json) (h : j.isProper = true) : j.same j = true := by
  cases j with
  | null => rfl
  | bool b => exact beq_self_eq_true b
  | int n => exact beq_self_eq_true n.val
  | float x =>
    rw [isProper, Bool.not_eq_true'] at h
    exact Binary64.same_self h
  | text s => exact beq_self_eq_true s
  | array items => exact sameItems_self items h
  | object fields =>
    rw [isProper, Bool.and_eq_true, decide_eq_true_eq] at h
    rw [same, beq_self_eq_true, Bool.true_and]
    exact sameFields_self fields fields h.2 fun key j there => field?_of_mem h.1 there

theorem sameItems_self (items : List Json) (h : areProper items = true) :
    sameItems items items = true := by
  cases items with
  | nil => rfl
  | cons j rest =>
    rw [areProper, Bool.and_eq_true] at h
    rw [sameItems, same_self j h.1, sameItems_self rest h.2]
    rfl

theorem sameFields_self (fields all : List (String × Json)) (h : fieldsProper fields = true)
    (found : ∀ key j, (key, j) ∈ fields → field? key all = some j) :
    sameFields fields all = true := by
  cases fields with
  | nil => rfl
  | cons field rest =>
    obtain ⟨key, j⟩ := field
    rw [fieldsProper, Bool.and_eq_true] at h
    have later : ∀ k v, (k, v) ∈ rest → field? k all = some v :=
      fun k v there => found k v (List.mem_cons_of_mem _ there)
    rw [sameFields, found key j List.mem_cons_self, sameFields_self rest all h.2 later]
    show (j.same j && true) = true
    rw [same_self j h.1]
    rfl

end

end Json

namespace Value

mutual

/-- Whether all numbers inside are numbers, and every document inside is proper. -/
def isProper : Value → Bool
  | .float x => !x.isNaN
  | .list items => areProper items
  | .json j => j.isProper
  | _ => true

/-- Whether the values of a list are proper. -/
def areProper : List Value → Bool
  | [] => true
  | v :: rest => v.isProper && areProper rest

end

/-! ## Equality by a reading -/

/-- Values of which neither is an instant and one is no text are equal when they read as the same
number. -/
theorem looseEq_of_number {a b : Value} {x y : Binary64} (ha : a.asNumber = some x)
    (hb : b.asNumber = some y) (dateless : a.isDate = false ∧ b.isDate = false)
    (textless : a.asText = none ∨ b.asText = none) (same : x.same y = true) :
    a.looseEq b = true := by
  have numbers : sameNumber a b = true := by
    rw [sameNumber, ha, hb]
    exact same
  obtain ⟨first, second⟩ := dateless
  cases a with
  | null => cases ha
  | list items => cases ha
  | json j => cases ha
  | date t => cases first
  | text s =>
    cases b with
    | null => cases hb
    | text t => exact absurd textless (by simp [asText])
    | date t => cases second
    | list items => cases hb
    | json j => cases hb
    | _ => simpa [looseEq] using numbers
  | _ =>
    cases b with
    | null => cases hb
    | date t => cases second
    | list items => cases hb
    | json j => cases hb
    | _ => simpa [looseEq] using numbers

/-- Values of which one is an instant are equal when they read as the same instant. -/
theorem looseEq_of_instant {a b : Value} {t : Calendar.Instant} (ha : a.asInstant = some t)
    (hb : b.asInstant = some t) (dated : a.isDate = true ∨ b.isDate = true) :
    a.looseEq b = true := by
  have instants : sameInstant a b = true := by
    rw [sameInstant, ha, hb]
    exact beq_self_eq_true t
  cases a with
  | date s =>
    cases b with
    | null => cases hb
    | _ => simpa [looseEq] using instants
  | text s =>
    cases b with
    | date t => simpa [looseEq] using instants
    | _ => exact absurd dated (by simp [isDate])
  | _ => cases ha

mutual

/-- **A proper value is equal to itself.** -/
theorem looseEq_self (v : Value) (h : v.isProper = true) : v.looseEq v = true := by
  cases v with
  | null => rw [looseEq]
  | bool b =>
    exact looseEq_of_number rfl rfl ⟨rfl, rfl⟩ (.inl rfl)
      (Binary64.same_self (Binary64.isNaN_ofInt _))
  | int n =>
    exact looseEq_of_number rfl rfl ⟨rfl, rfl⟩ (.inl rfl)
      (Binary64.same_self (Binary64.isNaN_ofInt _))
  | float x =>
    rw [isProper, Bool.not_eq_true'] at h
    exact looseEq_of_number rfl rfl ⟨rfl, rfl⟩ (.inl rfl) (Binary64.same_self h)
  | text s =>
    rw [looseEq]
    exact beq_self_eq_true s
  | date t => exact looseEq_of_instant rfl rfl (.inl rfl)
  | list items =>
    rw [looseEq]
    exact looseEqItems_self items h
  | json j =>
    rw [looseEq]
    exact j.same_self h

theorem looseEqItems_self (items : List Value) (h : areProper items = true) :
    looseEqItems items items = true := by
  cases items with
  | nil => rw [looseEqItems]
  | cons v rest =>
    rw [areProper, Bool.and_eq_true] at h
    rw [looseEqItems, looseEq_self v h.1, looseEqItems_self rest h.2]
    rfl

end

end Value

end Polystore
