import Mathlib
import Polystore.Proofs.Value.Integers

/-!
# The rationals that numbers stand for

A finite number stands for a rational: its units, with its sign, over the units of one. Rounding
finds a number that no other one is nearer than, so that an integer becomes a number that stands for
it whenever there is one. There is one just when the integer, in base two, has nothing but zeros
behind its first fifty-three digits.
-/

namespace Polystore.Binary64

/-- The rational that a finite number stands for. -/
def toRat (x : Binary64) : ℚ := (if x.negative then -(x.units : ℚ) else x.units) / unitsPerOne

theorem unitsPerOne_cast_pos : (0 : ℚ) < unitsPerOne := by exact_mod_cast unitsPerOne_pos

theorem abs_toRat (x : Binary64) : |x.toRat| = (x.units : ℚ) / unitsPerOne := by
  have positive : (0 : ℚ) ≤ x.units := Nat.cast_nonneg _
  rw [toRat, abs_div, abs_of_pos unitsPerOne_cast_pos]
  split
  · rw [abs_neg, abs_of_nonneg positive]
  · rw [abs_of_nonneg positive]

/-! ## Whole numbers -/

/-- A whole number stands for its whole part. -/
theorem toRat_of_isIntegral {x : Binary64} (h : x.isIntegral = true) : x.toRat = x.truncate := by
  obtain ⟨_, whole⟩ := Bool.and_eq_true_iff.mp h
  have product := Nat.div_mul_cancel (Nat.dvd_of_mod_eq_zero (beq_iff_eq.mp whole))
  have quotient : (x.units : ℚ) / unitsPerOne = (x.units / unitsPerOne : Nat) := by
    rw [div_eq_iff unitsPerOne_cast_pos.ne']
    exact_mod_cast product.symm
  rw [toRat, truncate]
  split
  · rw [neg_div, quotient, Int.cast_neg, Int.cast_natCast]
  · rw [quotient, Int.cast_natCast]

theorem units_of_toRat {x : Binary64} {n : Int} (h : x.toRat = n) :
    x.units = n.natAbs * unitsPerOne := by
  have absolute := abs_toRat x
  rw [h, ← Int.cast_abs, Int.abs_eq_natAbs, Int.cast_natCast, eq_comm,
    div_eq_iff unitsPerOne_cast_pos.ne'] at absolute
  exact_mod_cast absolute

/-- **A finite number is whole when it stands for an integer**, which then is its whole part. -/
theorem isIntegral_iff {x : Binary64} (finite : x.isFinite = true) {n : Int} :
    x.toRat = n ↔ x.isIntegral = true ∧ x.truncate = n := by
  constructor
  · intro h
    have whole : x.isIntegral = true := by
      rw [isIntegral, finite, units_of_toRat h, Nat.mul_mod_left]
      rfl
    rw [toRat_of_isIntegral whole] at h
    exact ⟨whole, by exact_mod_cast h⟩
  · rintro ⟨whole, rfl⟩
    exact toRat_of_isIntegral whole

/-! ## Rounding to the nearest -/

/-- No magnitude has units nearer to a quotient than the one that it is rounded to. -/
theorem abs_nearest_sub_le {num den : Nat} (positive : 0 < den) (m : Nat) :
    |(unitsOf (nearest num den) : ℚ) - num / den| ≤ |(unitsOf m : ℚ) - num / den| := by
  obtain ⟨f, least, most, choice⟩ := nearest_floor num positive
  have scale : (0 : ℚ) < den := by exact_mod_cast positive
  have low : (unitsOf f : ℚ) ≤ num / den := by
    rw [le_div_iff₀ scale]
    exact_mod_cast least
  have high : (num : ℚ) / den < unitsOf (f + 1) := by
    rw [div_lt_iff₀ scale]
    exact_mod_cast most
  -- the rounded magnitude is no farther than either end of the step in which the quotient lies
  have both : |(unitsOf (nearest num den) : ℚ) - num / den| ≤ num / den - unitsOf f ∧
      |(unitsOf (nearest num den) : ℚ) - num / den| ≤ unitsOf (f + 1) - num / den := by
    have halves : (2 : ℚ) * (num / den) = (2 * num : Nat) / den := by
      push_cast
      ring
    rw [choice]
    split
    · rename_i up
      have past : (unitsOf f + unitsOf (f + 1) : ℚ) ≤ 2 * (num / den) := by
        rw [halves, le_div_iff₀ scale]
        have bound : (unitsOf f + unitsOf (f + 1)) * den ≤ 2 * num := by
          rcases up with past | ⟨tie, _⟩
          · exact past.le
          · exact tie.ge
        exact_mod_cast bound
      rw [abs_of_pos (sub_pos.mpr high)]
      exact ⟨by linarith, le_rfl⟩
    · rename_i down
      have short : 2 * ((num : ℚ) / den) ≤ unitsOf f + unitsOf (f + 1) := by
        rw [halves, div_le_iff₀ scale]
        have bound : 2 * num ≤ (unitsOf f + unitsOf (f + 1)) * den := by
          by_contra past
          exact down (.inl (Nat.lt_of_not_le past))
        exact_mod_cast bound
      rw [abs_sub_comm, abs_of_nonneg (sub_nonneg.mpr low)]
      exact ⟨le_rfl, by linarith⟩
  rcases Nat.lt_or_ge f m with above | below
  · have far : (unitsOf (f + 1) : ℚ) ≤ unitsOf m := by
      exact_mod_cast unitsOf_strictMono.monotone above
    rw [abs_of_nonneg (by linarith : (0 : ℚ) ≤ unitsOf m - num / den)]
    linarith [both.2]
  · have far : (unitsOf m : ℚ) ≤ unitsOf f := by
      exact_mod_cast unitsOf_strictMono.monotone below
    rw [abs_sub_comm (unitsOf m : ℚ), abs_of_nonneg (by linarith : (0 : ℚ) ≤ num / den - unitsOf m)]
    linarith [both.1]

/-! ## Integers -/

theorem isFinite_ofInt_of_lt {n : Int} (small : n.natAbs < 2 ^ 64) : (ofInt n).isFinite = true := by
  obtain ⟨magnitude, _⟩ := ofInt_eq small
  rw [isFinite, magnitude]
  exact decide_eq_true (nearest_whole_lt small)

theorem abs_cast_eq (n : Int) : |(n : ℚ)| = n.natAbs := by rw [Nat.cast_natAbs, Int.cast_abs]

/-- A number is as far from an integer of its sign as their absolute values are from each other. -/
theorem abs_toRat_sub_eq {x : Binary64} {n : Int} (sign : x.negative = decide (n < 0)) :
    |x.toRat - n| = |(x.units : ℚ) / unitsPerOne - n.natAbs| := by
  rw [toRat, sign, ← abs_cast_eq]
  rcases lt_or_ge n 0 with negative | positive
  · rw [if_pos (decide_eq_true negative), abs_of_neg (by exact_mod_cast negative : (n : ℚ) < 0),
      neg_div, ← neg_add', abs_neg, sub_neg_eq_add]
  · rw [if_neg (by simpa using positive), abs_of_nonneg (by exact_mod_cast positive : (0 : ℚ) ≤ n)]

/-- **No finite number is nearer to an integer than the one that it becomes.** -/
theorem abs_toRat_ofInt_sub_le {n : Int} (small : n.natAbs < 2 ^ 64) (z : Binary64) :
    |(ofInt n).toRat - n| ≤ |z.toRat - n| := by
  obtain ⟨magnitude, sign⟩ := ofInt_eq small
  have units : (ofInt n).units = unitsOf (wholeMagnitude n.natAbs) := congrArg unitsOf magnitude
  have shown : z.units = unitsOf z.magnitude := rfl
  have scaled (k : Nat) : (unitsOf k : ℚ) / unitsPerOne - n.natAbs =
      ((unitsOf k : ℚ) - (n.natAbs * unitsPerOne : Nat) / (1 : Nat)) / unitsPerOne := by
    rw [sub_div, Nat.cast_one, div_one, Nat.cast_mul,
      mul_div_cancel_right₀ _ unitsPerOne_cast_pos.ne']
  calc |(ofInt n).toRat - n|
      = |(unitsOf (wholeMagnitude n.natAbs) : ℚ) / unitsPerOne - n.natAbs| := by
        rw [abs_toRat_sub_eq sign, units]
    _ ≤ |(unitsOf z.magnitude : ℚ) / unitsPerOne - n.natAbs| := by
        rw [scaled, scaled, abs_div, abs_div, abs_of_pos unitsPerOne_cast_pos]
        exact div_le_div_of_nonneg_right (abs_nearest_sub_le Nat.one_pos z.magnitude)
          unitsPerOne_cast_pos.le
    _ = |(|z.toRat| - |(n : ℚ)|)| := by rw [abs_toRat, abs_cast_eq, shown]
    _ ≤ |z.toRat - n| := abs_abs_sub_abs_le_abs_sub _ _

/-! ## Integers with few bits -/

/-- In base two, an integer has nothing but zeros behind its first fifty-three digits. -/
def HasFewBits (n : Int) : Prop := ∃ m k : Nat, m < 2 ^ 53 ∧ n.natAbs = m * 2 ^ k

/-- Few bits stay few when they are doubled or halved to another whole number. -/
theorem exists_of_mul_two_pow {q e n w : Nat} (below : q < 2 ^ 53) (h : q * 2 ^ e = n * 2 ^ w) :
    ∃ m k : Nat, m < 2 ^ 53 ∧ n = m * 2 ^ k := by
  rcases Nat.le_total e w with fraction | whole
  · rw [← Nat.pow_sub_mul_pow 2 fraction, ← Nat.mul_assoc] at h
    have exact := Nat.eq_of_mul_eq_mul_right (Nat.two_pow_pos e) h
    refine ⟨n, 0, ?_, (Nat.mul_one _).symm⟩
    exact (Nat.le_mul_of_pos_right n (Nat.two_pow_pos _)).trans_lt (exact ▸ below)
  · rw [← Nat.pow_sub_mul_pow 2 whole, ← Nat.mul_assoc] at h
    exact ⟨q, e - w, below, (Nat.eq_of_mul_eq_mul_right (Nat.two_pow_pos w) h).symm⟩

/-- A number that stands for an integer has few enough bits for it. -/
theorem hasFewBits_of_toRat {x : Binary64} {n : Int} (h : x.toRat = n) : HasFewBits n := by
  obtain ⟨e, q, place, inside, below⟩ := exists_place x.magnitude
  have units := units_of_toRat h
  rw [Binary64.units, place, unitsOf_place inside below.le, unitsPerOne] at units
  exact exists_of_mul_two_pow below units

/-- **An integer with few bits becomes a number that stands for it.** -/
theorem toRat_ofInt {n : Int} (few : HasFewBits n) (small : n.natAbs < 2 ^ 64) :
    (ofInt n).toRat = n := by
  obtain ⟨m, k, short, product⟩ := few
  -- zero is a product with any power, so that the power is chosen anew
  obtain ⟨l, le, product⟩ : ∃ l ≤ 900, n.natAbs = m * 2 ^ l := by
    rcases Nat.eq_zero_or_pos m with rfl | positive
    · exact ⟨0, by decide, by rw [product, Nat.zero_mul, Nat.zero_mul]⟩
    · refine ⟨k, ?_, product⟩
      have power : 2 ^ k < 2 ^ 64 := by
        rw [product] at small
        exact (Nat.le_mul_of_pos_left _ positive).trans_lt small
      have bound := (Nat.pow_lt_pow_iff_right (by decide)).mp power
      omega
  obtain ⟨exact, sign⟩ := isExactly_round short le (n < 0)
  rw [← product] at exact sign
  refine sub_eq_zero.mp (abs_eq_zero.mp ((abs_toRat_sub_eq sign).trans ?_))
  rw [exact.units, Nat.cast_mul, mul_div_cancel_right₀ _ unitsPerOne_cast_pos.ne', sub_self,
    abs_zero]

end Polystore.Binary64
