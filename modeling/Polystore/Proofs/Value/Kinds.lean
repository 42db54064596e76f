import Mathlib
import Polystore.Column.Coerce
import Polystore.Proofs.Binary64.Reading
import Polystore.Proofs.Value.Order

/-!
# Kinds of values and their order

Two values are compared as texts, as instants or as numbers. Each of these scales is in order, and
pairs that have no scale tie. But every pair has a scale of its own: the text `abc` ties with every
number, so that a tie with it says nothing about two numbers, and the text `10`, which is less than
the text `9`, is more than a number that is more than nine. What carries over from pair to pair
carries over on one scale, and sorting puts the values of several kinds in order just when their
kinds are on one scale.

The numbers that integers read as are rounded, which makes different integers tie but turns none of
them round. Columns of floats are not in order, since what is not a number ties with every number.
-/

namespace Polystore

theorem Calendar.Instant.compare_eq_compareLex (s t : Instant) :
    s.compare t = compareLex (compareOn seconds) (compareOn nanos) s t := by
  rw [Instant.compare, compareLex, compareOn, compareOn]
  cases Ord.compare s.seconds t.seconds <;> rfl

namespace Value

/-! ## The scale of two values -/

/-- The place among all numbers of the number that a value reads as. -/
def numberPlace (v : Value) : Int := (v.asNumber.bind Binary64.place).getD 0

/-- The seconds and nanoseconds of the instant that a value reads as. -/
def instantPlace (v : Value) : Int × Nat :=
  (v.asInstant.map fun t => (t.seconds, t.nanos)).getD (0, 0)

/-- What two values are compared as. -/
inductive Scale where
  | text
  | instant
  | number
deriving DecidableEq

/-- The order of a scale. -/
def Scale.order : Scale → Value → Value → Ordering
  | .text => compareOn keyText
  | .instant => compareLex (compareOn (·.instantPlace.1)) (compareOn (·.instantPlace.2))
  | .number => compareOn numberPlace

instance (scale : Scale) : Std.TransCmp scale.order := by
  cases scale <;> unfold Scale.order <;> infer_instance

/-- Whether a value reads as a number, what is not a number left out. -/
def readsNumber (v : Value) : Bool := v.asNumber.any (!·.isNaN)

/-- The scale of two values that are not both texts. -/
def readingScale? (a b : Value) : Option Scale :=
  if a.isDate || b.isDate then
    if a.asInstant.isSome && b.asInstant.isSome then some .instant else none
  else if a.readsNumber && b.readsNumber then some .number else none

/-- The scale on which two values are compared, if there is one. -/
def scale? : Value → Value → Option Scale
  | .null, _ => none
  | _, .null => none
  | .text _, .text _ => some .text
  | a, b => readingScale? a b

theorem instantOrder_eq (a b : Value) :
    a.instantOrder b =
      if a.asInstant.isSome && b.asInstant.isSome then some (Scale.instant.order a b)
      else none := by
  unfold instantOrder
  cases ha : a.asInstant with
  | none => rfl
  | some s =>
    cases hb : b.asInstant with
    | none => rfl
    | some t =>
      have order : Scale.instant.order a b = s.compare t := by
        rw [s.compare_eq_compareLex]
        simp only [Scale.order, instantPlace, compareLex, compareOn, ha, hb, Option.map_some,
          Option.getD_some]
      rw [order]
      rfl

theorem numberOrder_eq (a b : Value) :
    a.numberOrder b =
      if a.readsNumber && b.readsNumber then some (Scale.number.order a b) else none := by
  unfold numberOrder
  cases ha : a.asNumber with
  | none => simp [readsNumber, ha]
  | some x =>
    cases hb : b.asNumber with
    | none => simp [readsNumber, hb]
    | some y =>
      simp only [readsNumber, ha, hb, Option.any_some, Scale.order, compareOn, numberPlace,
        Option.bind_some, Binary64.compare, Binary64.place]
      cases x.isNaN <;> cases y.isNaN <;> rfl

/-- Two values are compared on their scale. -/
theorem readingOrder_eq_map (a b : Value) :
    a.readingOrder b = (a.readingScale? b).map fun scale => scale.order a b := by
  rw [readingOrder, readingScale?, instantOrder_eq, numberOrder_eq]
  split_ifs <;> rfl

theorem compare_eq_map (a b : Value) :
    a.compare b = (a.scale? b).map fun scale => scale.order a b := by
  cases a with
  | null => cases b <;> rfl
  | text s =>
    cases b with
    | null => rfl
    | text t => rfl
    | _ => exact readingOrder_eq_map _ _
  | _ =>
    cases b with
    | null => rfl
    | _ => exact readingOrder_eq_map _ _

/-! ## What carries over -/

/-- The order of two pairs of values carries over to the third pair, and so do ties. -/
def CarriesOver (a b c : Value) : Prop :=
  (a.sortCompare b ≠ .gt → b.sortCompare c ≠ .gt → a.sortCompare c ≠ .gt) ∧
    (a.sortCompare b = .eq → b.sortCompare c = .eq → a.sortCompare c = .eq)

/-- The values are compared two by two on one scale, or have no scale two by two. -/
def OnOneScale (a b c : Value) : Prop := a.scale? b = b.scale? c ∧ b.scale? c = a.scale? c

theorem sortCompare_of_filled {a b : Value} (ha : a.isNull = false) (hb : b.isNull = false) :
    a.sortCompare b = ((a.scale? b).map fun scale => scale.order a b).getD .eq := by
  rw [sortCompare, ha, hb, compare_eq_map]

theorem carriesOver_of_null {a b c : Value}
    (null : a.isNull = true ∨ b.isNull = true ∨ c.isNull = true) : CarriesOver a b c := by
  rw [CarriesOver, sortCompare, sortCompare, sortCompare]
  cases ha : a.isNull <;> cases hb : b.isNull <;> cases hc : c.isNull <;> simp_all

/-- **On one scale the order carries over.** -/
theorem carriesOver_of_scale {a b c : Value} (one : OnOneScale a b c) : CarriesOver a b c := by
  by_cases null : a.isNull = true ∨ b.isNull = true ∨ c.isNull = true
  · exact carriesOver_of_null null
  · simp only [not_or, Bool.not_eq_true] at null
    obtain ⟨ha, hb, hc⟩ := null
    rw [CarriesOver, sortCompare_of_filled ha hb, sortCompare_of_filled hb hc,
      sortCompare_of_filled ha hc, one.1, one.2]
    cases a.scale? c with
    | none => exact ⟨fun _ _ => by simp, fun _ _ => rfl⟩
    | some scale =>
      simp only [Option.map_some, Option.getD_some, ← Ordering.isLE_iff_ne_gt]
      exact ⟨Std.TransCmp.isLE_trans, Std.TransCmp.eq_trans⟩

/-! ## Kinds of values -/

/-- The kinds of values. Floats that are no number are of a kind of their own. -/
inductive Kind where
  | null
  | truth
  | integer
  | float
  | notNumber
  | text
  | instant
  | list
  | document
deriving DecidableEq

/-- The kind of a value. -/
def kind : Value → Kind
  | .null => .null
  | .bool _ => .truth
  | .int _ => .integer
  | .float x => if x.isNaN then .notNumber else .float
  | .text _ => .text
  | .date _ => .instant
  | .list _ => .list
  | .json _ => .document

namespace Kind

/-- The scale on which the values of a kind are compared with one another. -/
def scale? : Kind → Option Scale
  | .truth => some .number
  | .integer => some .number
  | .float => some .number
  | .text => some .text
  | .instant => some .instant
  | _ => none

/-- A value of the kind. -/
def low : Kind → Value
  | .null => .null
  | .truth => .bool false
  | .integer => .int 1
  | .float => .float (Binary64.ofInt 1)
  | .notNumber => .float Binary64.nan
  -- the texts spell neither a number nor an instant, and so tie with everything but texts
  | .text => .text "abc"
  | .instant => .date (.ofDate (.ofDays 0))
  | .list => .list []
  | .document => .json (.object [])

/-- A value of the kind that is greater, if the values of the kind have a scale. -/
def high : Kind → Value
  | .truth => .bool true
  | .integer => .int 2
  | .float => .float (Binary64.ofInt 2)
  | .text => .text "xyz"
  | .instant => .date (.ofDate (.ofDays 1))
  | kind => kind.low

theorem kind_float_ofInt (n : Int) : (Value.float (Binary64.ofInt n)).kind = .float := by
  rw [kind, Binary64.isNaN_ofInt, if_neg Bool.false_ne_true]

theorem kind_low (k : Kind) : k.low.kind = k := by
  cases k with
  | float => exact kind_float_ofInt 1
  | _ => rfl

theorem kind_high (k : Kind) : k.high.kind = k := by
  cases k with
  | float => exact kind_float_ofInt 2
  | _ => rfl

/-- A scale tells two values of a kind apart. -/
theorem sortCompare_high_low {k : Kind} (ordered : k.scale? ≠ none) :
    k.high.sortCompare k.low = .gt := by
  cases k <;> first | exact absurd rfl ordered | decide +kernel

/-- Between kinds on different scales there are ties. -/
theorem sortCompare_apart {k l : Kind} (hk : k ≠ .null) (hl : l ≠ .null)
    (apart : k.scale? ≠ l.scale?) :
    k.high.sortCompare l.low = .eq ∧ l.low.sortCompare k.low = .eq := by
  cases k <;> cases l <;>
    first | exact absurd rfl apart | exact absurd rfl hk | exact absurd rfl hl | decide +kernel

end Kind

theorem isNull_iff_kind {v : Value} : v.isNull = true ↔ v.kind = .null := by
  cases v with
  | float x =>
    rw [kind]
    split <;> simp [isNull]
  | _ => simp [isNull, kind]

/-- Two values that are neither texts nor instants are compared as numbers or not at all. -/
theorem scale?_of_plain {a b : Value} (ha : a.isNull = false) (hb : b.isNull = false)
    (wordless : a.asText = none) (timelessA : a.isDate = false) (timelessB : b.isDate = false) :
    a.scale? b = if a.readsNumber && b.readsNumber then some .number else none := by
  have reading : a.scale? b = a.readingScale? b := by
    cases a with
    | null => cases ha
    | text s => cases wordless
    | _ =>
      cases b with
      | null => cases hb
      | _ => rfl
  rw [reading, readingScale?, timelessA, timelessB, Bool.or_self, if_neg Bool.false_ne_true]

/-- What is neither a text nor an instant nor `null` reads as a number just when its kind is on the
scale of numbers. -/
theorem plain_of_kind {v : Value} (filled : v.isNull = false) (notText : v.kind.scale? ≠ some .text)
    (notInstant : v.kind.scale? ≠ some .instant) :
    v.asText = none ∧ v.isDate = false ∧
      v.readsNumber = decide (v.kind.scale? = some .number) := by
  cases v with
  | null => cases filled
  | text s => exact absurd rfl notText
  | date t => exact absurd rfl notInstant
  | float x =>
    refine ⟨rfl, rfl, ?_⟩
    rw [kind, readsNumber, asNumber, Option.any_some]
    cases x.isNaN <;> rfl
  | bool b =>
    refine ⟨rfl, rfl, ?_⟩
    rw [readsNumber, asNumber, Option.any_some, Binary64.isNaN_ofInt]
    rfl
  | int n =>
    refine ⟨rfl, rfl, ?_⟩
    rw [readsNumber, asNumber, Option.any_some, Binary64.isNaN_ofInt]
    rfl
  | list items => exact ⟨rfl, rfl, rfl⟩
  | json j => exact ⟨rfl, rfl, rfl⟩

theorem exists_text_of_kind {v : Value} (h : v.kind.scale? = some .text) : ∃ s, v = .text s := by
  cases v with
  | text s => exact ⟨s, rfl⟩
  | float x =>
    rw [kind] at h
    split at h <;> cases h
  | _ => cases h

theorem exists_date_of_kind {v : Value} (h : v.kind.scale? = some .instant) :
    ∃ t, v = .date t := by
  cases v with
  | date t => exact ⟨t, rfl⟩
  | float x =>
    rw [kind] at h
    split at h <;> cases h
  | _ => cases h

/-- Values whose kinds are on one scale are compared on that scale. -/
theorem scale?_of_kind {a b : Value} (ha : a.isNull = false) (hb : b.isNull = false)
    (one : a.kind.scale? = b.kind.scale?) : a.scale? b = a.kind.scale? := by
  by_cases text : a.kind.scale? = some .text
  · obtain ⟨s, rfl⟩ := exists_text_of_kind text
    obtain ⟨t, rfl⟩ := exists_text_of_kind (one ▸ text)
    rfl
  by_cases instant : a.kind.scale? = some .instant
  · obtain ⟨s, rfl⟩ := exists_date_of_kind instant
    obtain ⟨t, rfl⟩ := exists_date_of_kind (one ▸ instant)
    rfl
  obtain ⟨wordless, timelessA, numberA⟩ := plain_of_kind ha text instant
  obtain ⟨-, timelessB, numberB⟩ := plain_of_kind hb (one ▸ text) (one ▸ instant)
  rw [scale?_of_plain ha hb wordless timelessA timelessB, numberA, numberB, ← one, Bool.and_self]
  cases own : a.kind.scale? with
  | none => rfl
  | some scale =>
    cases scale with
    | text => exact absurd own text
    | instant => exact absurd own instant
    | number => rfl

/-! ## Kinds in order -/

/-- Among values whose kinds are on one scale the order carries over. -/
theorem carriesOver_of_kinds {kinds : List Kind}
    (one : ∀ k ∈ kinds, ∀ l ∈ kinds, k ≠ .null → l ≠ .null → k.scale? = l.scale?) {a b c : Value}
    (ha : a.kind ∈ kinds) (hb : b.kind ∈ kinds) (hc : c.kind ∈ kinds) : CarriesOver a b c := by
  by_cases null : a.isNull = true ∨ b.isNull = true ∨ c.isNull = true
  · exact carriesOver_of_null null
  simp only [not_or, Bool.not_eq_true] at null
  obtain ⟨fillA, fillB, fillC⟩ := null
  have filled {v : Value} (h : v.isNull = false) : v.kind ≠ .null := fun same => by
    rw [isNull_iff_kind.mpr same] at h
    cases h
  have ab := one _ ha _ hb (filled fillA) (filled fillB)
  have bc := one _ hb _ hc (filled fillB) (filled fillC)
  refine carriesOver_of_scale ⟨?_, ?_⟩
  · rw [scale?_of_kind fillA fillB ab, scale?_of_kind fillB fillC bc, ab]
  · rw [scale?_of_kind fillB fillC bc, scale?_of_kind fillA fillC (ab.trans bc), ab]

/-- A tie with a value of another scale keeps the values of a kind from being in order. -/
theorem not_carriesOver_of_kinds {k l : Kind} (hk : k ≠ .null) (hl : l ≠ .null)
    (apart : k.scale? ≠ l.scale?) (ordered : k.scale? ≠ none) :
    ¬CarriesOver k.high l.low k.low := by
  intro carried
  obtain ⟨above, below⟩ := Kind.sortCompare_apart hk hl apart
  have tie := carried.2 above below
  rw [Kind.sortCompare_high_low ordered] at tie
  cases tie

/-- **What sorting puts in order.** The values of several kinds are in order just when those kinds,
`null` aside, are on one scale: truth values, integers and the floats that are numbers together,
texts alone, instants alone, or lists, documents and what is not a number, which tie throughout. Of
three values of any kinds the order carries over from two pairs to the third one where one of them
is `null` or the pairs are compared on one scale. -/
theorem carries_over_iff_one_scale (kinds : List Kind) :
    ((∀ a b c : Value, a.kind ∈ kinds → b.kind ∈ kinds → c.kind ∈ kinds → CarriesOver a b c) ↔
      ∀ k ∈ kinds, ∀ l ∈ kinds, k ≠ .null → l ≠ .null → k.scale? = l.scale?) ∧
    ∀ a b c : Value, a.isNull = true ∨ b.isNull = true ∨ c.isNull = true ∨ OnOneScale a b c →
      CarriesOver a b c := by
  refine ⟨⟨fun ordered k hk l hl fillK fillL => ?mixed, fun one a b c => carriesOver_of_kinds one⟩,
    fun a b c => ?values⟩
  case values =>
    rintro (null | null | null | one)
    · exact carriesOver_of_null (.inl null)
    · exact carriesOver_of_null (.inr (.inl null))
    · exact carriesOver_of_null (.inr (.inr null))
    · exact carriesOver_of_scale one
  case mixed =>
    by_contra apart
    -- the tie is with a value of the kind that has no scale, if there is one
    by_cases unordered : k.scale? = none
    · refine not_carriesOver_of_kinds fillL fillK (Ne.symm apart)
        (fun none => apart (unordered.trans none.symm)) (ordered _ _ _ ?_ ?_ ?_)
      · rwa [Kind.kind_high]
      · rwa [Kind.kind_low]
      · rwa [Kind.kind_low]
    · refine not_carriesOver_of_kinds fillK fillL apart unordered (ordered _ _ _ ?_ ?_ ?_)
      · rwa [Kind.kind_high]
      · rwa [Kind.kind_low]
      · rwa [Kind.kind_low]

theorem carries_over_iff_one_scale_numbers :
    let numbers : List Kind := [.null, .truth, .integer, .float]
    (OnOneScale (.text "9.5") (.int 9) (.bool true) ∧
      CarriesOver (.text "9.5") (.int 9) (.bool true)) ∧
    (∀ k ∈ numbers, ∀ l ∈ numbers, k ≠ .null → l ≠ .null → k.scale? = l.scale?) ∧
    (∀ a b c : Value, a.kind ∈ numbers → b.kind ∈ numbers → c.kind ∈ numbers →
      CarriesOver a b c) ∧
    ¬∀ a b c : Value, a.kind ∈ Kind.text :: numbers → b.kind ∈ Kind.text :: numbers →
      c.kind ∈ Kind.text :: numbers → CarriesOver a b c := by
  intro numbers
  have scale : OnOneScale (.text "9.5") (.int 9) (.bool true) :=
    ⟨by decide +kernel, by decide +kernel⟩
  have one : ∀ k ∈ numbers, ∀ l ∈ numbers, k ≠ .null → l ≠ .null → k.scale? = l.scale? := by
    decide
  obtain ⟨numbersOrdered, carries⟩ := carries_over_iff_one_scale numbers
  refine ⟨⟨scale, carries _ _ _ (.inr (.inr (.inr scale)))⟩, one, numbersOrdered.mpr one,
    fun ordered => ?_⟩
  have mixed := (carries_over_iff_one_scale _).1.mp ordered .text (by decide) .integer (by decide)
    (by decide) (by decide)
  exact absurd mixed (by decide)

/-- Nine and a half. -/
def nineAndHalf : Binary64 := ⟨false, 0x4023000000000000, by decide⟩

/-- **Ties do not carry over, and the order can run in a circle**: two and one both tie with a text
that spells no number, and the text `10` comes in front of the text `9`, which comes in front of a
number that comes in front of the text `10`. -/
theorem sorting_order_not_transitive :
    ((Value.int 2).sortCompare (.text "abc") = .eq ∧ (Value.text "abc").sortCompare (.int 1) = .eq ∧
      (Value.int 2).sortCompare (.int 1) = .gt ∧ ¬CarriesOver (.int 2) (.text "abc") (.int 1)) ∧
    (Value.text "10").sortCompare (.text "9") = .lt ∧
      (Value.text "9").sortCompare (.float nineAndHalf) = .lt ∧
      (Value.text "10").sortCompare (.float nineAndHalf) = .gt ∧
      ¬CarriesOver (.text "10") (.text "9") (.float nineAndHalf) := by
  have above : (Value.int 2).sortCompare (.text "abc") = .eq := by decide +kernel
  have below : (Value.text "abc").sortCompare (.int 1) = .eq := by decide +kernel
  have apart : (Value.int 2).sortCompare (.int 1) = .gt := by decide +kernel
  have texts : (Value.text "10").sortCompare (.text "9") = .lt := by decide +kernel
  have less : (Value.text "9").sortCompare (.float nineAndHalf) = .lt := by decide +kernel
  have greater : (Value.text "10").sortCompare (.float nineAndHalf) = .gt := by decide +kernel
  refine ⟨⟨above, below, apart, fun carried => ?_⟩, texts, less, greater, fun carried => ?_⟩
  · have tie := carried.2 above below
    rw [apart] at tie
    cases tie
  · exact carried.1 (by rw [texts]; decide) (by rw [less]; decide) greater

end Value

/-! ## Columns of one kind -/

/-- The types whose values are in order. -/
def ColumnType.ordered : List ColumnType := [.text, .integer, .boolean, .date]

namespace Value

/-- What represents an ordered type is of one kind. -/
theorem exists_kind {type : ColumnType} (h : type ∈ ColumnType.ordered) :
    ∃ k, ∀ v : Value, type.represents v = true → v.kind = k := by
  cases type with
  | text => exact ⟨.text, fun v represents => by cases v <;> cases represents; rfl⟩
  | integer => exact ⟨.integer, fun v represents => by cases v <;> cases represents; rfl⟩
  | boolean => exact ⟨.truth, fun v represents => by cases v <;> cases represents; rfl⟩
  | date => exact ⟨.instant, fun v represents => by cases v <;> cases represents; rfl⟩
  | float => simp [ColumnType.ordered] at h
  | json => simp [ColumnType.ordered] at h

/-- **Sorting puts the values of one kind in order**, with `null` among them. -/
theorem transCmp_sortCompare {type : ColumnType} (h : type ∈ ColumnType.ordered) :
    Std.TransCmp fun a b : { v : Value // v = .null ∨ type.represents v = true } =>
      a.1.sortCompare b.1 := by
  obtain ⟨k, represented⟩ := exists_kind h
  have listed (v : { v : Value // v = .null ∨ type.represents v = true }) :
      v.1.kind ∈ [.null, k] := by
    rcases v.2 with null | represents
    · rw [null]
      exact List.mem_cons_self
    · rw [represented _ represents]
      exact List.mem_cons_of_mem _ List.mem_cons_self
  have one : ∀ i ∈ [.null, k], ∀ j ∈ [.null, k], i ≠ .null → j ≠ .null → i.scale? = j.scale? := by
    simp only [List.mem_cons, List.not_mem_nil, or_false]
    rintro i (rfl | rfl) j (rfl | rfl) fillI fillJ <;> first | rfl | contradiction
  exact
    { eq_swap := (sortCompare_swap ..).symm
      isLE_trans := fun {a b c} ab bc => by
        rw [Ordering.isLE_iff_ne_gt] at ab bc ⊢
        exact (carriesOver_of_kinds one (listed a) (listed b) (listed c)).1 ab bc }

end Value

end Polystore
