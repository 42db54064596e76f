import Polystore.Proofs.Value.Order
import Polystore.Statement.Holds

/-!
# Scalars compared

Equality and order of two values are settled apart from one another, each by a choice of reading of
its own. For scalars the two choices are the same: as texts, as instants or as numbers. Equality is
then the case of the order that is neither less nor greater, where what is not a number and texts
that spell nothing are in neither. So at most one of `<`, `=` and `>` holds of two scalars, and `<=`
and `>=` are what their signs say.
-/

namespace Polystore

/-- Whether a value is not `null`, and not made of other values. -/
def Value.isScalar : Value → Bool
  | .null => false
  | .list _ => false
  | .json _ => false
  | _ => true

theorem Calendar.Instant.compare_eq_eq_iff {s t : Calendar.Instant} :
    s.compare t = .eq ↔ s = t := by
  constructor
  · intro h
    rw [Instant.compare] at h
    split at h
    · rename_i seconds
      obtain ⟨seconds', nanos', _, _⟩ := s
      obtain ⟨_, _, _, _⟩ := t
      obtain rfl := Std.LawfulEqCmp.eq_of_compare seconds
      obtain rfl := Std.LawfulEqCmp.eq_of_compare h
      rfl
    · rename_i apart
      exact absurd h apart
  · rintro rfl
    simp [Instant.compare, Std.ReflCmp.compare_self]

namespace Value

/-! ## One reading for equality and order -/

theorem sameInstant_eq (a b : Value) : a.sameInstant b = (a.instantOrder b == some .eq) := by
  unfold sameInstant instantOrder
  cases a.asInstant with
  | none => rfl
  | some s =>
    cases b.asInstant with
    | none => rfl
    | some t =>
      show (s == t) = (some (s.compare t) == some .eq)
      rw [Bool.eq_iff_iff, beq_iff_eq, beq_iff_eq, Option.some_inj,
        Calendar.Instant.compare_eq_eq_iff]

theorem sameNumber_eq (a b : Value) : a.sameNumber b = (a.numberOrder b == some .eq) := by
  unfold sameNumber numberOrder
  cases a.asNumber with
  | none => rfl
  | some x => cases b.asNumber <;> rfl

theorem beq_text_eq (s t : String) : (s == t) = (some (Ord.compare s t) == some .eq) := by
  rw [Bool.eq_iff_iff, beq_iff_eq, beq_iff_eq, Option.some_inj, Std.compare_eq_iff_eq]

/-- **Two scalars are equal just when neither comes before the other** in the order that they
have. -/
theorem looseEq_eq_compare {a b : Value} (ha : a.isScalar = true) (hb : b.isScalar = true) :
    a.looseEq b = (a.compare b == some .eq) := by
  cases a <;> cases ha <;> cases b <;> cases hb <;>
    -- the two kinds settle the reading, and it is the one that the order takes
    simp only [looseEq, compare, readingOrder, isDate, Bool.or_true, Bool.true_or, Bool.or_self,
      if_true, Bool.false_eq_true, if_false, beq_text_eq, sameInstant_eq, sameNumber_eq]

end Value

/-! ## Comparisons of scalars -/

/-- **Comparisons of two scalars mean what their signs say.** Equality is the order that is neither
less nor greater, `>=` holds when `>` or `=` does, `<=` when `<` or `=` does, and at most one of
`<`, `=` and `>` holds. -/
theorem comparisons_of_scalars {a b : Value} (ha : a.isScalar = true) (hb : b.isScalar = true)
    (caseSensitive : Bool) :
    (a.looseEq b = true ↔ a.compare b = some .eq) ∧
      ∃ less equal greater : Bool,
        Comparison.lt.holds caseSensitive a b = .ok less ∧
        Comparison.eq.holds caseSensitive a b = .ok equal ∧
        Comparison.gt.holds caseSensitive a b = .ok greater ∧
        Comparison.lte.holds caseSensitive a b = .ok (less || equal) ∧
        Comparison.gte.holds caseSensitive a b = .ok (greater || equal) ∧
        [less, equal, greater].count true ≤ 1 := by
  have same := Value.looseEq_eq_compare ha hb
  refine ⟨by rw [same, beq_iff_eq], ?_⟩
  simp only [Comparison.holds, Value.isOrdered, same]
  cases a.compare b with
  | none => exact ⟨_, _, _, rfl, rfl, rfl, rfl, rfl, by decide⟩
  | some o => cases o <;> exact ⟨_, _, _, rfl, rfl, rfl, rfl, rfl, by decide⟩

/-- A page number that came as text, and the number itself: they are equal, so either bound is met
and neither comes before the other. -/
theorem comparisons_of_scalars_page :
    (Value.text "007").isScalar = true ∧ (Value.int 7).isScalar = true ∧
      (Value.text "007").compare (.int 7) = some .eq ∧
      ∃ less equal greater : Bool,
        Comparison.lt.holds false (.text "007") (.int 7) = .ok less ∧
        Comparison.eq.holds false (.text "007") (.int 7) = .ok equal ∧
        Comparison.gt.holds false (.text "007") (.int 7) = .ok greater ∧
        Comparison.lte.holds false (.text "007") (.int 7) = .ok (less || equal) ∧
        Comparison.gte.holds false (.text "007") (.int 7) = .ok (greater || equal) ∧
        [less, equal, greater].count true ≤ 1 := by
  obtain ⟨same, signs⟩ := comparisons_of_scalars (a := .text "007") (b := .int 7) rfl rfl false
  have equal : (Value.text "007").looseEq (.int 7) = true := by
    simp only [Value.looseEq]
    decide +kernel
  exact ⟨rfl, rfl, same.mp equal, signs⟩

end Polystore
