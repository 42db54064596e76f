import Mathlib
import Polystore.Binary64.Basic

/-!
# The nearest magnitude

Magnitudes count up the finite numbers: the units that one more magnitude stands for grow by the
step of its binade. A magnitude is rounded to from an interval around its units, which reaches to
the midpoints between them and the units of its two neighbours, and takes in these midpoints when
the magnitude is even. `Rounds` says that a number of units, a rational, lies in this interval, and
`nearest_of_rounds` that `nearest` then finds the magnitude. Whatever is read or calculated is
settled by showing in which interval it lies.
-/

namespace Polystore.Binary64

/-! ## Units of magnitudes -/

/-- Every magnitude stands in a binade, at a place between the first of it and the first of the
next; in the lowest one the places start from zero. -/
theorem exists_place (m : Nat) :
    ∃ e q, m = e * 2 ^ 52 + q ∧ (e = 0 ∨ 2 ^ 52 ≤ q) ∧ q < 2 ^ 53 := by
  by_cases low : m < 2 ^ 53
  · exact ⟨0, m, by omega, .inl rfl, low⟩
  · refine ⟨m / 2 ^ 52 - 1, m % 2 ^ 52 + 2 ^ 52, ?_, .inr (by omega), by omega⟩
    omega

/-- A place stands for so many steps of its binade, the first one of the next binade included. -/
theorem unitsOf_place {e q : Nat} (inside : e = 0 ∨ 2 ^ 52 ≤ q) (h : q ≤ 2 ^ 53) :
    unitsOf (e * 2 ^ 52 + q) = q * 2 ^ e := by
  have above {k r : Nat} (hr : r < 2 ^ 52) :
      unitsOf ((k + 1) * 2 ^ 52 + r) = (2 ^ 52 + r) * 2 ^ k := by
    have quotient : ((k + 1) * 2 ^ 52 + r) / 2 ^ 52 = k + 1 := by omega
    have rest : ((k + 1) * 2 ^ 52 + r) % 2 ^ 52 = r := by omega
    rw [unitsOf, quotient, rest, if_neg (Nat.succ_ne_zero k), Nat.add_sub_cancel]
  rcases Nat.lt_or_ge q (2 ^ 52) with low | high
  · -- below the first doubling
    obtain rfl : e = 0 := inside.resolve_right (by omega)
    have quotient : (0 * 2 ^ 52 + q) / 2 ^ 52 = 0 := by omega
    rw [unitsOf, quotient, if_pos rfl]
    omega
  · rcases Nat.lt_or_ge q (2 ^ 53) with below | last
    · obtain ⟨r, rfl⟩ := Nat.exists_eq_add_of_le high
      have regrouped : e * 2 ^ 52 + (2 ^ 52 + r) = (e + 1) * 2 ^ 52 + r := by omega
      rw [regrouped, above (by omega)]
    · obtain rfl : q = 2 ^ 53 := by omega
      have regrouped : e * 2 ^ 52 + 2 ^ 53 = (e + 1 + 1) * 2 ^ 52 + 0 := by omega
      rw [regrouped, above (by omega), Nat.pow_succ, Nat.add_zero]
      omega

/-- From one magnitude to the next the units grow by a step of the binade. -/
theorem unitsOf_succ {e q : Nat} (inside : e = 0 ∨ 2 ^ 52 ≤ q) (h : q < 2 ^ 53) :
    unitsOf (e * 2 ^ 52 + q + 1) = unitsOf (e * 2 ^ 52 + q) + 2 ^ e := by
  have next := unitsOf_place (e := e) (q := q + 1) (by omega) (by omega)
  rw [← Nat.add_assoc] at next
  rw [next, unitsOf_place inside (by omega), Nat.succ_mul]

theorem unitsOf_lt_succ (m : Nat) : unitsOf m < unitsOf (m + 1) := by
  obtain ⟨e, q, rfl, inside, below⟩ := exists_place m
  rw [unitsOf_succ inside below]
  exact Nat.lt_add_of_pos_right (Nat.two_pow_pos e)

/-- Larger magnitudes have more units. -/
theorem unitsOf_strictMono : StrictMono unitsOf := strictMono_nat_of_lt_succ unitsOf_lt_succ

theorem unitsOf_zero : unitsOf 0 = 0 := rfl

theorem unitsOf_pos {m : Nat} (h : 0 < m) : 0 < unitsOf m := by
  have more := unitsOf_strictMono h
  rw [unitsOf_zero] at more
  exact more

/-- A step is more than the units of its magnitude by fifty-three doublings. -/
theorem unitsOf_lt_step (m : Nat) :
    unitsOf m < 2 ^ 53 * (unitsOf (m + 1) - unitsOf m) := by
  obtain ⟨e, q, rfl, inside, below⟩ := exists_place m
  rw [unitsOf_succ inside below, Nat.add_sub_cancel_left, unitsOf_place inside (by omega)]
  exact Nat.mul_lt_mul_of_pos_right below (Nat.two_pow_pos e)

/-! ## The interval around a magnitude -/

/-- A number of units lies between the midpoints around a magnitude; on a midpoint only if the
magnitude is even. -/
structure Rounds (m : Nat) (units : ℚ) : Prop where
  low : (unitsOf (m - 1) + unitsOf m : ℚ) ≤ 2 * units
  high : 2 * units ≤ unitsOf m + unitsOf (m + 1)
  low_lt : m % 2 = 1 → (unitsOf (m - 1) + unitsOf m : ℚ) < 2 * units
  high_lt : m % 2 = 1 → 2 * units < unitsOf m + unitsOf (m + 1)

/-- The units of a magnitude themselves lie there. -/
theorem rounds_unitsOf (m : Nat) : Rounds m (unitsOf m) := by
  have above : (unitsOf m : ℚ) < unitsOf (m + 1) := by exact_mod_cast unitsOf_lt_succ m
  have below : (unitsOf (m - 1) : ℚ) ≤ unitsOf m := by
    exact_mod_cast unitsOf_strictMono.monotone (Nat.sub_le m 1)
  refine ⟨by linarith, by linarith, fun odd => ?_, fun _ => by linarith⟩
  have less : (unitsOf (m - 1) : ℚ) < unitsOf m := by
    exact_mod_cast unitsOf_strictMono (show m - 1 < m by omega)
  linarith

/-! ## Rounding -/

/-- The floor of a number of units on the grid of magnitudes, and the choice that rounding makes
between it and the magnitude above. -/
theorem nearest_floor (num : Nat) {den : Nat} (positive : 0 < den) :
    ∃ f, unitsOf f * den ≤ num ∧ num < unitsOf (f + 1) * den ∧
      nearest num den =
        if (unitsOf f + unitsOf (f + 1)) * den < 2 * num ∨
            (2 * num = (unitsOf f + unitsOf (f + 1)) * den ∧ f % 2 = 1) then f + 1
        else f := by
  let whole := num / den
  let e := if whole < 2 ^ 53 then 0 else Nat.log2 whole - 52
  let q := whole / 2 ^ e
  have step : 0 < 2 ^ e := Nat.two_pow_pos e
  -- the exponent is chosen so that the floor is a place of the binade
  have place : (e = 0 ∨ 2 ^ 52 ≤ q) ∧ q < 2 ^ 53 := by
    by_cases small : whole < 2 ^ 53
    · have none : e = 0 := if_pos small
      have all : q = whole := by
        show whole / 2 ^ e = whole
        rw [none, Nat.pow_zero, Nat.div_one]
      exact ⟨.inl none, by rw [all]; exact small⟩
    · have exponent : e = Nat.log2 whole - 52 := if_neg small
      have some : whole ≠ 0 := by omega
      have large : 52 ≤ Nat.log2 whole := (Nat.le_log2 some).mpr (by omega)
      have least : 2 ^ (52 + e) ≤ whole := by
        rw [exponent, Nat.add_sub_cancel' large]
        exact Nat.log2_self_le some
      have most : whole < 2 ^ (53 + e) := by
        have top := Nat.lt_log2_self (n := whole)
        have same : 53 + e = Nat.log2 whole + 1 := by omega
        rw [same]
        exact top
      rw [Nat.pow_add] at least most
      exact ⟨.inr ((Nat.le_div_iff_mul_le step).mpr least), Nat.div_lt_of_lt_mul (by
        rw [Nat.mul_comm]
        exact most)⟩
  obtain ⟨inside, below⟩ := place
  have floor : unitsOf (e * 2 ^ 52 + q) = q * 2 ^ e := unitsOf_place inside (Nat.le_of_lt below)
  have next : unitsOf (e * 2 ^ 52 + q + 1) = q * 2 ^ e + 2 ^ e := by
    rw [unitsOf_succ inside below, floor]
  have kept : q * 2 ^ e ≤ whole := Nat.div_mul_le_self whole (2 ^ e)
  have passed : whole < q * 2 ^ e + 2 ^ e := by
    have behind := Nat.lt_mul_div_succ whole step
    rw [Nat.mul_succ, Nat.mul_comm] at behind
    exact behind
  have least : q * 2 ^ e * den ≤ num :=
    (Nat.mul_le_mul_right den kept).trans (Nat.div_mul_le_self num den)
  have most : num < (q * 2 ^ e + 2 ^ e) * den := by
    have behind := Nat.lt_mul_div_succ num positive
    rw [Nat.mul_comm] at behind
    exact behind.trans_le (Nat.mul_le_mul_right den passed)
  refine ⟨e * 2 ^ 52 + q, ?_, ?_, ?_⟩
  · rw [floor]
    exact least
  · rw [next]
    exact most
  · have total : (q * 2 ^ e + (q * 2 ^ e + 2 ^ e)) * den =
        2 * (q * 2 ^ e * den) + 2 ^ e * den := by ring
    have choice : nearest num den =
        if 2 * (num - q * 2 ^ e * den) > 2 ^ e * den ||
            (2 * (num - q * 2 ^ e * den) == 2 ^ e * den && (e * 2 ^ 52 + q) % 2 == 1) then
          e * 2 ^ 52 + q + 1
        else e * 2 ^ 52 + q := rfl
    rw [choice, floor, next, total]
    simp only [Bool.or_eq_true, Bool.and_eq_true, decide_eq_true_eq, beq_iff_eq, gt_iff_lt]
    refine if_congr ?_ rfl rfl
    omega

/-- **Rounding finds the magnitude around which a number of units lies.** -/
theorem nearest_of_rounds {m num den : Nat} (positive : 0 < den)
    (h : Rounds m ((num : ℚ) / den)) : nearest num den = m := by
  obtain ⟨f, least, most, choice⟩ := nearest_floor num positive
  have scale : (0 : ℚ) < den := by exact_mod_cast positive
  have double : 2 * ((num : ℚ) / den) = ((2 * num : Nat) : ℚ) / den := by
    push_cast
    ring
  -- the interval, and what rounding knows of its floor, in whole numbers
  have low : (unitsOf (m - 1) + unitsOf m) * den ≤ 2 * num := by
    have bound := h.low
    rw [double, le_div_iff₀ scale] at bound
    exact_mod_cast bound
  have high : 2 * num ≤ (unitsOf m + unitsOf (m + 1)) * den := by
    have bound := h.high
    rw [double, div_le_iff₀ scale] at bound
    exact_mod_cast bound
  have low_lt (odd : m % 2 = 1) : (unitsOf (m - 1) + unitsOf m) * den < 2 * num := by
    have bound := h.low_lt odd
    rw [double, lt_div_iff₀ scale] at bound
    exact_mod_cast bound
  have high_lt (odd : m % 2 = 1) : 2 * num < (unitsOf m + unitsOf (m + 1)) * den := by
    have bound := h.high_lt odd
    rw [double, div_lt_iff₀ scale] at bound
    exact_mod_cast bound
  have sum (a b : Nat) : (a + b) * den = a * den + b * den := Nat.add_mul a b den
  have grows {a b : Nat} (ab : a ≤ b) : unitsOf a * den ≤ unitsOf b * den :=
    Nat.mul_le_mul_right den (unitsOf_strictMono.monotone ab)
  rw [sum] at low high low_lt high_lt
  rw [choice, sum]
  rcases Nat.lt_trichotomy f m with below | same | above
  · -- the floor is the magnitude below, and the number lies above the midpoint
    obtain rfl : f + 1 = m := by
      by_contra apart
      have far := grows (show f + 1 ≤ m - 1 by omega)
      have step := grows (show m - 1 ≤ m by omega)
      omega
    rw [Nat.add_sub_cancel] at low low_lt
    refine if_pos ?_
    rcases Nat.lt_or_ge (unitsOf f * den + unitsOf (f + 1) * den) (2 * num) with past | tie
    · exact .inl past
    · have even : ¬ (f + 1) % 2 = 1 := fun odd => by
        have apart := low_lt odd
        omega
      exact .inr ⟨by omega, by omega⟩
  · subst same
    refine if_neg ?_
    rintro (past | ⟨tie, odd⟩)
    · omega
    · have apart := high_lt odd
      omega
  · have far := grows (show m + 1 ≤ f from above)
    have step : unitsOf m * den < unitsOf (m + 1) * den :=
      Nat.mul_lt_mul_of_pos_right (unitsOf_lt_succ m) positive
    omega

/-- A finite number is what its interval is rounded to. -/
theorem roundUnits_of_rounds {x : Binary64} {num den : Nat} (positive : 0 < den)
    (finite : x.isFinite = true) (h : Rounds x.magnitude ((num : ℚ) / den)) :
    roundUnits x.negative num den = x := by
  have found := nearest_of_rounds positive h
  have below : x.magnitude < infiniteMagnitude := of_decide_eq_true finite
  unfold roundUnits
  dsimp only
  rw [dif_pos (found ▸ below)]
  obtain ⟨negative, magnitude, bound⟩ := x
  congr

/-- Rounding looks at the ratio of its two numbers only. -/
theorem nearest_mul_right {num den k : Nat} (positive : 0 < den) (hk : 0 < k) :
    nearest (num * k) (den * k) = nearest num den := by
  obtain ⟨f, least, most, choice⟩ := nearest_floor num positive
  obtain ⟨f', least', most', choice'⟩ := nearest_floor (num * k) (Nat.mul_pos positive hk)
  rw [← Nat.mul_assoc] at least' most'
  replace least' := Nat.le_of_mul_le_mul_right least' hk
  replace most' := Nat.lt_of_mul_lt_mul_right most'
  -- both ratios have one floor
  have below {a b : Nat} (h : unitsOf a * den < unitsOf b * den) : a < b :=
    unitsOf_strictMono.lt_iff_lt.mp (Nat.lt_of_mul_lt_mul_right h)
  have first := below (least'.trans_lt most)
  have second := below (least.trans_lt most')
  obtain rfl : f' = f := by omega
  have scaled (a : Nat) : a * (den * k) = a * den * k := (Nat.mul_assoc a den k).symm
  have doubled : 2 * (num * k) = 2 * num * k := (Nat.mul_assoc 2 num k).symm
  rw [choice, choice', scaled, doubled]
  exact if_congr (or_congr (Nat.mul_lt_mul_right hk)
    (and_congr_left' (Nat.mul_left_inj hk.ne'))) rfl rfl

theorem nearest_congr {num den num' den' : Nat} (positive : 0 < den) (positive' : 0 < den')
    (same : num * den' = num' * den) : nearest num den = nearest num' den' := by
  rw [← nearest_mul_right positive positive', same, Nat.mul_comm den den',
    nearest_mul_right positive' positive]

theorem roundUnits_congr {num den num' den' : Nat} (negative : Bool) (positive : 0 < den)
    (positive' : 0 < den') (same : num * den' = num' * den) :
    roundUnits negative num den = roundUnits negative num' den' := by
  simp only [roundUnits, nearest_congr positive positive' same]

end Polystore.Binary64
