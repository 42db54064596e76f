import Mathlib
import Polystore.Binary64.Layout
import Polystore.Proofs.Binary64.Reading

/-!
# Written numbers read back

The shortest digits of a magnitude are those of a decimal in its interval, so that reading them
brings the magnitude back. That there is such a decimal among those of seventeen digits is a matter
of widths: the interval around a magnitude is wider than two steps in the sixteenth digit of its
units, so one of the two neighbours in the seventeenth lies inside.
-/

namespace Polystore.Binary64

/-! ## The grid of a number of digits -/

/-- The ratio of the two scales by which whole numbers are compared on a grid. -/
theorem ten_zpow (e : Int) : (10 : ℚ) ^ e * (10 ^ (-e).toNat : Nat) = (10 ^ e.toNat : Nat) := by
  push_cast
  rw [← zpow_natCast, ← zpow_natCast, ← zpow_add₀ (by decide)]
  congr 1
  omega

/-- The two comparisons by which a point of a grid is found to lie in the interval of a magnitude. -/
def IsInside (m : Nat) (point : Int) (count c : Nat) : Prop :=
  let low := unitsOf (m - 1) + unitsOf m
  let high := unitsOf m + unitsOf (m + 1)
  let scale := 10 ^ ((count : Int) - point).toNat
  let step := 2 * unitsPerOne * 10 ^ (point - (count : Int)).toNat
  (if m % 2 == 0 then low * scale ≤ c * step && c * step ≤ high * scale
    else low * scale < c * step && c * step < high * scale) = true

/-- What lies inside is rounded to the magnitude. -/
theorem rounds_of_isInside {m : Nat} {point : Int} {count c : Nat}
    (h : IsInside m point count c) : Rounds m (unitsOfDecimal c (point - count)) := by
  unfold IsInside at h
  dsimp only at h
  have opposite : (count : Int) - point = -(point - count) := by omega
  rw [opposite] at h
  generalize point - (count : Int) = e at h ⊢
  have scale : (0 : ℚ) < (10 ^ (-e).toNat : Nat) := by
    exact_mod_cast Nat.pow_pos (show 0 < 10 by decide)
  -- both sides of a comparison are multiples of the scale
  have value : 2 * unitsOfDecimal c e * (10 ^ (-e).toNat : Nat) =
      (c * (2 * unitsPerOne * 10 ^ e.toNat) : Nat) := by
    have ratio := ten_zpow e
    rw [unitsOfDecimal]
    push_cast at ratio ⊢
    linear_combination (2 * (c : ℚ) * unitsPerOne) * ratio
  have le_iff (a : Nat) : (a : ℚ) ≤ 2 * unitsOfDecimal c e ↔
      a * 10 ^ (-e).toNat ≤ c * (2 * unitsPerOne * 10 ^ e.toNat) := by
    rw [← mul_le_mul_iff_left₀ scale, value]
    exact_mod_cast Iff.rfl
  have ge_iff (a : Nat) : 2 * unitsOfDecimal c e ≤ (a : ℚ) ↔
      c * (2 * unitsPerOne * 10 ^ e.toNat) ≤ a * 10 ^ (-e).toNat := by
    rw [← mul_le_mul_iff_left₀ scale, value]
    exact_mod_cast Iff.rfl
  have low := le_iff (unitsOf (m - 1) + unitsOf m)
  have high := ge_iff (unitsOf m + unitsOf (m + 1))
  have low_lt := lt_iff_lt_of_le_iff_le (ge_iff (unitsOf (m - 1) + unitsOf m))
  have high_lt := lt_iff_lt_of_le_iff_le (le_iff (unitsOf m + unitsOf (m + 1)))
  push_cast at low high low_lt high_lt
  split at h
  · rename_i even
    have even : m % 2 = 0 := beq_iff_eq.mp even
    rw [Bool.and_eq_true, decide_eq_true_eq, decide_eq_true_eq] at h
    refine ⟨low.mpr h.1, high.mpr h.2, fun odd => ?_, fun odd => ?_⟩ <;> omega
  · rw [Bool.and_eq_true, decide_eq_true_eq, decide_eq_true_eq] at h
    exact ⟨low.mpr h.1.le, high.mpr h.2.le, fun _ => low_lt.mpr h.1, fun _ => high_lt.mpr h.2⟩

/-- The point of a grid next below the units of a magnitude. -/
def gridBelow (m : Nat) (point : Int) (count : Nat) : Nat :=
  2 * unitsOf m * 10 ^ ((count : Int) - point).toNat /
    (2 * unitsPerOne * 10 ^ (point - (count : Int)).toNat)

/-- What a grid has for a magnitude is one of the two points next to it, and lies inside; where it
has nothing neither of them does. -/
theorem onGrid_cases {tie : Tie} {m : Nat} {point : Int} {count : Nat} {o : Option Nat}
    (h : onGrid tie m point count = o) :
    (∃ c, o = some c ∧ IsInside m point count c) ∨
      (o = none ∧ ¬ IsInside m point count (gridBelow m point count) ∧
        ¬ IsInside m point count (gridBelow m point count + 1)) := by
  unfold onGrid at h
  dsimp only at h
  split at h
  · rename_i below above
    -- both neighbours lie inside, and one of them is chosen
    have chosen : o = some (gridBelow m point count) ∨
        o = some (gridBelow m point count + 1) := by
      split at h
      · exact .inl h.symm
      · split at h
        · exact .inr h.symm
        · split at h
          · exact .inr h.symm
          · split at h
            · exact .inl h.symm
            · exact .inr h.symm
    rcases chosen with rfl | rfl
    · exact .inl ⟨_, rfl, below⟩
    · exact .inl ⟨_, rfl, above⟩
  · rename_i below _
    exact .inl ⟨_, h.symm, below⟩
  · rename_i _ above
    exact .inl ⟨_, h.symm, above⟩
  · rename_i below above
    exact .inr ⟨h.symm, Bool.eq_false_iff.mp below, Bool.eq_false_iff.mp above⟩

theorem isInside_of_onGrid {tie : Tie} {m : Nat} {point : Int} {count c : Nat}
    (h : onGrid tie m point count = some c) : IsInside m point count c := by
  rcases onGrid_cases h with ⟨c', same, inside⟩ | ⟨none, _⟩
  · rw [Option.some.inj same]
    exact inside
  · cases none

/-- What is strictly between the midpoints lies inside, whether the magnitude is even or odd. -/
theorem isInside_of_lt {m : Nat} {point : Int} {count c : Nat}
    (low : (unitsOf (m - 1) + unitsOf m) * 10 ^ ((count : Int) - point).toNat <
      c * (2 * unitsPerOne * 10 ^ (point - (count : Int)).toNat))
    (high : c * (2 * unitsPerOne * 10 ^ (point - (count : Int)).toNat) <
      (unitsOf m + unitsOf (m + 1)) * 10 ^ ((count : Int) - point).toNat) :
    IsInside m point count c := by
  unfold IsInside
  dsimp only
  split
  · rw [Bool.and_eq_true, decide_eq_true_eq, decide_eq_true_eq]
    exact ⟨low.le, high.le⟩
  · rw [Bool.and_eq_true, decide_eq_true_eq, decide_eq_true_eq]
    exact ⟨low, high⟩

/-- One of the two points next to a magnitude lies inside when the interval is wider than the step
of the grid. -/
theorem onGrid_isSome {m : Nat} {point : Int} {count : Nat} (positive : 0 < m) (tie : Tie)
    (narrow : 2 * unitsPerOne * (10 : ℚ) ^ (point - count) + unitsOf (m - 1) < unitsOf (m + 1)) :
    (onGrid tie m point count).isSome = true := by
  rcases onGrid_cases (o := onGrid tie m point count) rfl with ⟨c, same, _⟩ | ⟨_, below, above⟩
  · rw [same]
    rfl
  · exfalso
    have notBelow := mt (and_imp.mpr isInside_of_lt) below
    have notAbove := mt (and_imp.mpr isInside_of_lt) above
    -- the interval and the step on the scale of the grid
    have wide : 2 * unitsPerOne * 10 ^ (point - count).toNat +
        unitsOf (m - 1) * 10 ^ ((count : Int) - point).toNat <
          unitsOf (m + 1) * 10 ^ ((count : Int) - point).toNat := by
      have opposite : (count : Int) - point = -(point - count) := by omega
      have scale : (0 : ℚ) < (10 ^ (-(point - count)).toNat : Nat) := by
        exact_mod_cast Nat.pow_pos (show 0 < 10 by decide)
      have scaled := mul_lt_mul_of_pos_right narrow scale
      rw [add_mul, mul_assoc, ten_zpow] at scaled
      rw [opposite]
      exact_mod_cast scaled
    have step : 0 < 2 * unitsPerOne * 10 ^ (point - count).toNat :=
      Nat.mul_pos (Nat.mul_pos (by decide) unitsPerOne_pos) (Nat.pow_pos (by decide))
    have scale : 0 < 10 ^ ((count : Int) - point).toNat := Nat.pow_pos (by decide)
    have previous : unitsOf (m - 1) * 10 ^ ((count : Int) - point).toNat <
        unitsOf m * 10 ^ ((count : Int) - point).toNat :=
      Nat.mul_lt_mul_of_pos_right (unitsOf_strictMono (by omega)) scale
    have next : unitsOf m * 10 ^ ((count : Int) - point).toNat <
        unitsOf (m + 1) * 10 ^ ((count : Int) - point).toNat :=
      Nat.mul_lt_mul_of_pos_right (unitsOf_lt_succ m) scale
    unfold gridBelow at notBelow notAbove
    generalize 2 * unitsPerOne * 10 ^ (point - (count : Int)).toNat = t at *
    generalize 10 ^ ((count : Int) - point).toNat = s at *
    have least := Nat.div_mul_le_self (2 * unitsOf m * s) t
    have most := Nat.lt_mul_div_succ (2 * unitsOf m * s) step
    generalize 2 * unitsOf m * s / t = b at *
    rw [Nat.mul_comm t] at most
    simp only [Nat.add_mul, Nat.one_mul, Nat.mul_assoc] at notBelow notAbove least most
    omega

/-- The first grid that has a point, of some grids one of which has one. -/
theorem rounds_firstGrid {tie : Tie} {m : Nat} {point : Int} {fuel count k : Nat}
    (from_le : count ≤ k) (lt_to : k < count + fuel)
    (there : (onGrid tie m point k).isSome = true) :
    Rounds m (unitsOfDecimal (firstGrid tie m point fuel count).2
      (point - ((firstGrid tie m point fuel count).1 : Nat))) := by
  induction fuel generalizing count with
  | zero => omega
  | succ fuel ih =>
    rw [firstGrid]
    cases found : onGrid tie m point count with
    | some c => exact rounds_of_isInside (isInside_of_onGrid found)
    | none =>
      have later : count ≠ k := by
        rintro rfl
        rw [found] at there
        cases there
      exact ih (by omega) (by omega)

/-! ## The decimal point -/

/-- As long as there is fuel enough, zeros are counted up to the first digit. -/
theorem le_leadingZeros {fuel u : Nat} (enough : unitsPerOne ≤ 10 ^ fuel * u) :
    unitsPerOne ≤ 10 ^ (leadingZeros fuel u + 1) * u := by
  induction fuel generalizing u with
  | zero =>
    rw [Nat.pow_zero, Nat.one_mul] at enough
    rw [leadingZeros]
    omega
  | succ fuel ih =>
    rw [leadingZeros]
    split
    · rename_i first
      omega
    · rw [Nat.pow_succ, Nat.mul_assoc] at enough
      have behind := ih enough
      rw [Nat.pow_succ, Nat.mul_assoc]
      exact behind

theorem pow_length_natDigits_le {n : Nat} (positive : 0 < n) :
    10 ^ ((Text.natDigits n).length - 1) ≤ n := by
  by_contra less
  rcases Nat.eq_zero_or_pos ((Text.natDigits n).length - 1) with single | several
  · rw [single, Nat.pow_zero] at less
    omega
  · have short := Nat.toDigits_length 10 n _ several (Nat.lt_of_not_le less)
    rw [← Text.natDigits] at short
    omega

/-- The first digit of a number stands in front of its units. -/
theorem pow_decimalPoint_le {u : Nat} (positive : 0 < u) :
    (10 : ℚ) ^ (decimalPoint u - 1) * unitsPerOne ≤ u := by
  unfold decimalPoint
  split
  · rename_i large
    have whole : 0 < u / unitsPerOne := Nat.div_pos large unitsPerOne_pos
    have digits := pow_length_natDigits_le whole
    have filled : 0 < (Text.natDigits (u / unitsPerOne)).length :=
      List.length_pos_of_ne_nil Nat.toDigits_ne_nil
    generalize (Text.natDigits (u / unitsPerOne)).length = n at digits filled ⊢
    have place : (n : Int) - 1 = ((n - 1 : Nat) : Int) := by omega
    have least : 10 ^ (n - 1) * unitsPerOne ≤ u :=
      (Nat.mul_le_mul_right unitsPerOne digits).trans (Nat.div_mul_le_self u unitsPerOne)
    rw [place, zpow_natCast]
    exact_mod_cast least
  · have one : unitsPerOne ≤ 1000 ^ 110 := by decide +kernel
    have enough {fuel : Nat} (h : 3 * 110 ≤ fuel) : unitsPerOne ≤ 10 ^ fuel * u :=
      (one.trans (thousand_pow_le h)).trans (Nat.le_mul_of_pos_right _ positive)
    have zeros := le_leadingZeros (enough (show 3 * 110 ≤ 330 by decide))
    generalize leadingZeros 330 u = k at zeros ⊢
    have place : -(k : Int) - 1 = -((k + 1 : Nat) : Int) := by omega
    have scale : (0 : ℚ) < 10 ^ (k + 1) := by positivity
    rw [place, zpow_neg, zpow_natCast, inv_mul_le_iff₀ scale]
    exact_mod_cast zeros

/-- Seventeen digits tell every magnitude from its neighbours. -/
theorem onGrid_seventeen {m : Nat} (positive : 0 < m) (tie : Tie) :
    (onGrid tie m (decimalPoint (unitsOf m)) 17).isSome = true := by
  refine onGrid_isSome positive tie ?_
  have first := pow_decimalPoint_le (unitsOf_pos positive)
  generalize decimalPoint (unitsOf m) = point at first ⊢
  have scaled : (10 : ℚ) ^ (point - (17 : Nat)) * 10 ^ 16 = (10 : ℚ) ^ (point - 1) := by
    rw [← zpow_natCast, ← zpow_add₀ (by decide)]
    congr 1
    omega
  -- the steps on both sides of the magnitude
  have above : unitsOf m < 2 ^ 53 * (unitsOf (m + 1) - unitsOf m) := unitsOf_lt_step m
  have below : unitsOf (m - 1) < 2 ^ 53 * (unitsOf m - unitsOf (m - 1)) := by
    have step := unitsOf_lt_step (m - 1)
    rw [Nat.sub_add_cancel positive] at step
    exact step
  have width : 2 * unitsOf m < 10 ^ 16 * (unitsOf (m + 1) - unitsOf (m - 1)) := by omega
  have cast : 2 * (unitsOf m : ℚ) < 10 ^ 16 * (unitsOf (m + 1) - unitsOf (m - 1)) := by
    have order : unitsOf (m - 1) ≤ unitsOf (m + 1) :=
      unitsOf_strictMono.monotone (by omega)
    have cast : ((2 * unitsOf m : Nat) : ℚ) <
        ((10 ^ 16 * (unitsOf (m + 1) - unitsOf (m - 1)) : Nat) : ℚ) := by exact_mod_cast width
    push_cast [Nat.cast_sub order] at cast
    exact cast
  rw [← scaled] at first
  nlinarith [first, cast]

/-! ## Decimals that spell a magnitude -/

/-- Zeros behind the digits count as places. -/
theorem unitsOfDecimal_zeros (digits zeros : Nat) (e : Int) :
    unitsOfDecimal (digits * 10 ^ zeros) e = unitsOfDecimal digits (e + zeros) := by
  rw [unitsOfDecimal, unitsOfDecimal, zpow_add₀ (by decide), zpow_natCast]
  push_cast
  ring

/-- A decimal has digits, and lies in the interval of a magnitude. -/
structure Decimal.Spells (d : Decimal) (m : Nat) : Prop where
  digits : ∀ c ∈ d.digits, c.isDigit = true
  filled : d.digits ≠ []
  rounds : Rounds m (unitsOfDecimal (Text.natOfDigits 0 d.digits) (d.point - d.digits.length))

/-- The zeros at the end of a text can be taken off and put back. -/
theorem exists_zeros (cs : List Char) :
    ∃ n, cs = (cs.reverse.dropWhile (· == '0')).reverse ++ List.replicate n '0' := by
  have parts := congrArg List.reverse (List.takeWhile_append_dropWhile (p := (· == '0'))
    (l := cs.reverse))
  rw [List.reverse_append, List.reverse_reverse] at parts
  have zeros : ∀ c ∈ (cs.reverse.takeWhile (· == '0')).reverse, c = '0' := by
    intro c hc
    have zero := List.mem_takeWhile_imp (List.mem_reverse.mp hc)
    exact beq_iff_eq.mp zero
  refine ⟨(cs.reverse.takeWhile (· == '0')).reverse.length, ?_⟩
  rw [← List.eq_replicate_of_mem zeros]
  exact parts.symm

/-- **The shortest decimal of a magnitude lies in its interval.** -/
theorem shortest_spells {m : Nat} (positive : 0 < m) (tie : Tie) : (shortest tie m).Spells m := by
  have last : 17 < 1 + 17 := by decide
  have inside := rounds_firstGrid (by decide) last (onGrid_seventeen positive tie)
  unfold shortest
  dsimp only
  generalize firstGrid tie m (decimalPoint (unitsOf m)) 17 1 = grid at inside ⊢
  obtain ⟨count, c⟩ := grid
  dsimp only at inside ⊢
  obtain ⟨zeros, parts⟩ := exists_zeros (Text.natDigits c)
  generalize trimmed : ((Text.natDigits c).reverse.dropWhile (· == '0')).reverse = ds at parts ⊢
  have value : c = Text.natOfDigits 0 ds * 10 ^ zeros := by
    rw [← Text.natOfDigits_zeros, ← Text.natOfDigits_append, ← parts, Text.natOfDigits_natDigits]
  have places : (Text.natDigits c).length = ds.length + zeros := by
    rw [parts, List.length_append, List.length_replicate]
  refine ⟨fun d hd => ?_, ?_, ?_⟩
  · refine Text.isDigit_of_mem_natDigits (n := c) ?_
    rw [parts]
    exact List.mem_append_left _ hd
  · rintro rfl
    -- without digits the decimal would be zero
    have nothing : c = 0 := by
      rw [value]
      exact Nat.zero_mul _
    have low := inside.low
    have own : (0 : ℚ) < unitsOf m := by exact_mod_cast unitsOf_pos positive
    have previous : (0 : ℚ) ≤ unitsOf (m - 1) := Nat.cast_nonneg _
    rw [nothing, unitsOfDecimal, Nat.cast_zero, zero_mul, zero_mul] at low
    linarith
  · have exponent : decimalPoint (unitsOf m) + ((Text.natDigits c).length : Int) - count -
        ds.length = decimalPoint (unitsOf m) - count + zeros := by
      rw [places]
      omega
    rw [exponent, ← unitsOfDecimal_zeros, ← value]
    exact inside

/-! ## Numbers without an exponent -/

/-- A number of a magnitude other than zero is read from every decimal that spells it, wherever the
point is set. -/
theorem read?_positional {x : Binary64} {d : Decimal} (finite : x.isFinite = true)
    (positive : 0 < x.magnitude) (h : d.Spells x.magnitude) :
    read? (signChars x.negative ++ positional [] d) = some x := by
  -- a decimal with the digits, and a power of ten that makes the value the same
  have read {c : Char} {cs : List Char} {n : Nat} {e : Int} (hc : c.isDigit = true)
      (spells : spelled? (c :: cs) = some (n, e))
      (same : unitsOfDecimal n e =
        unitsOfDecimal (Text.natOfDigits 0 d.digits) (d.point - d.digits.length)) :
      read? (signChars x.negative ++ c :: cs) = some x := by
    have rounds := h.rounds
    rw [← same] at rounds
    rw [read?_digits x.negative hc, spells, Option.map_some,
      ofDecimal_of_rounds finite positive rounds]
  have zeros (n : Nat) : ∀ c ∈ List.replicate n '0', c.isDigit = true := by
    intro c hc
    rw [List.eq_of_mem_replicate hc]
    decide
  unfold positional
  dsimp only
  split
  · rename_i small
    have digits : ∀ c ∈ List.replicate (-d.point).toNat '0' ++ d.digits, c.isDigit = true :=
      fun c hc => (List.mem_append.mp hc).elim (zeros _ c) (h.digits c)
    have zero : ∀ c ∈ ['0'], c.isDigit = true := by simp
    have spells := spelled?_point zero (List.cons_ne_nil '0' []) digits isExponent_nil
    rw [List.append_nil, Int.zero_sub] at spells
    have value : Text.natOfDigits 0 (['0'] ++ (List.replicate (-d.point).toNat '0' ++ d.digits)) =
        Text.natOfDigits 0 d.digits := by
      rw [Text.natOfDigits_append, Text.natOfDigits_append, Text.natOfDigits_zeros]
      exact congrArg (Text.natOfDigits · d.digits) (Nat.zero_mul _)
    have places : -((List.replicate (-d.point).toNat '0' ++ d.digits).length : Int) =
        d.point - d.digits.length := by
      rw [List.length_append, List.length_replicate]
      omega
    rw [value, places] at spells
    rw [List.append_assoc]
    exact read (zero '0' List.mem_cons_self) spells rfl
  · rename_i large
    split
    · rename_i whole
      rw [List.append_nil]
      have digits : ∀ c ∈ d.digits ++ List.replicate (d.point - d.digits.length).toNat '0',
          c.isDigit = true :=
        fun c hc => (List.mem_append.mp hc).elim (h.digits c) (zeros _ c)
      have spells := spelled?_whole digits (List.append_ne_nil_of_left_ne_nil h.filled _)
        isExponent_nil
      rw [List.append_nil, Text.natOfDigits_append, Text.natOfDigits_zeros] at spells
      obtain ⟨c, cs, first⟩ := List.exists_cons_of_ne_nil
        (List.append_ne_nil_of_left_ne_nil h.filled
          (List.replicate (d.point - d.digits.length).toNat '0'))
      rw [first] at spells digits ⊢
      refine read (digits c List.mem_cons_self) spells ?_
      rw [unitsOfDecimal_zeros]
      congr 1
      omega
    · rename_i among
      have before : ∀ c ∈ d.digits.take d.point.toNat, c.isDigit = true :=
        fun c hc => h.digits c (List.mem_of_mem_take hc)
      have behind : ∀ c ∈ d.digits.drop d.point.toNat, c.isDigit = true :=
        fun c hc => h.digits c (List.mem_of_mem_drop hc)
      have filled : d.digits.take d.point.toNat ≠ [] := by
        rw [Ne, List.take_eq_nil_iff, not_or]
        exact ⟨by omega, h.filled⟩
      have spells := spelled?_point before filled behind isExponent_nil
      rw [List.append_nil, Int.zero_sub, List.take_append_drop, List.length_drop] at spells
      obtain ⟨c, cs, first⟩ := List.exists_cons_of_ne_nil filled
      rw [first] at spells before ⊢
      refine read (before c List.mem_cons_self) spells ?_
      congr 1
      omega

/-- A number without an exponent is made of digits and a point. -/
theorem isBlank_positional {d : Decimal} (h : ∀ c ∈ d.digits, c.isDigit = true) :
    ∀ c ∈ positional [] d, Text.isBlank c = false := by
  have zeros (n : Nat) : ∀ c ∈ List.replicate n '0', Text.isBlank c = false := by
    intro c hc
    rw [List.eq_of_mem_replicate hc]
    decide
  unfold positional
  dsimp only
  split_ifs
  · refine List.forall_mem_append.mpr ⟨List.forall_mem_append.mpr ⟨?_, zeros _⟩,
      Text.solid_of_digits h⟩
    exact List.forall_mem_cons.mpr ⟨by decide, List.forall_mem_singleton.mpr (by decide)⟩
  · rw [List.append_nil]
    exact List.forall_mem_append.mpr ⟨Text.solid_of_digits h, zeros _⟩
  · refine List.forall_mem_append.mpr ⟨?_, List.forall_mem_cons.mpr ⟨by decide, ?_⟩⟩
    · exact Text.solid_of_digits fun c hc => h c (List.mem_of_mem_take hc)
    · exact Text.solid_of_digits fun c hc => h c (List.mem_of_mem_drop hc)

/-- Zero is read from its only digit. -/
theorem read?_zero {x : Binary64} (h : x.magnitude = 0) :
    read? (signChars x.negative ++ ['0']) = some x := by
  obtain ⟨negative, magnitude, bound⟩ := x
  obtain rfl : magnitude = 0 := h
  cases negative <;> rfl

theorem Layout.decimal_of_pos (layout : Layout) {m : Nat} (positive : 0 < m) :
    layout.decimal m = shortest layout.tie m := by
  rw [decimal, if_neg]
  rw [beq_iff_eq]
  omega

/-- **The plain text of a number is read as the number.** -/
theorem read?_plain {x : Binary64} (h : x.isNaN = false) :
    read? (Layout.plain.chars x) = some x := by
  rw [Layout.chars, h]
  cases finite : x.isFinite with
  | false =>
    -- the magnitude is neither below that of infinity nor above it
    have notBelow : ¬ x.magnitude < infiniteMagnitude := of_decide_eq_false finite
    have notAbove : ¬ infiniteMagnitude < x.magnitude := of_decide_eq_false h
    have exact : x.magnitude = infiniteMagnitude := by omega
    obtain ⟨negative, magnitude, bound⟩ := x
    obtain rfl : magnitude = infiniteMagnitude := exact
    cases negative <;> rfl
  | true =>
    show read? (signChars x.negative ++ positional [] (Layout.plain.decimal x.magnitude)) = some x
    rcases Nat.eq_zero_or_pos x.magnitude with zero | positive
    · rw [zero]
      exact read?_zero zero
    · rw [Layout.decimal_of_pos .plain positive]
      exact read?_positional finite positive (shortest_spells positive .up)

theorem tight_plain {x : Binary64} (h : x.isNaN = false) :
    Text.Tight (Layout.plain.chars x) := by
  refine tight_of_read? (read?_plain h) ?_
  rw [Layout.chars, h]
  cases finite : x.isFinite with
  | false =>
    show ∀ c ∈ signChars x.negative ++ ['i', 'n', 'f'], Text.isBlank c = false
    have word : ['i', 'n', 'f'].all (fun c => !Text.isBlank c) = true := by decide
    refine List.forall_mem_append.mpr ⟨isBlank_signChars _, fun c hc => ?_⟩
    exact (Bool.not_eq_true' _).mp (List.all_eq_true.mp word c hc)
  | true =>
    show ∀ c ∈ signChars x.negative ++ positional [] (Layout.plain.decimal x.magnitude),
      Text.isBlank c = false
    refine List.forall_mem_append.mpr ⟨isBlank_signChars _, isBlank_positional ?_⟩
    rcases Nat.eq_zero_or_pos x.magnitude with zero | positive
    · rw [zero]
      exact List.forall_mem_singleton.mpr (by decide)
    · rw [Layout.decimal_of_pos .plain positive]
      exact (shortest_spells positive .up).digits

theorem natAbs_truncate (x : Binary64) : x.truncate.natAbs = x.units / unitsPerOne := by
  unfold truncate
  dsimp only
  split
  · rw [Int.natAbs_neg, Int.natAbs_natCast]
  · rw [Int.natAbs_natCast]

/-- A whole number is the one nearest to its own whole part. -/
theorem round_truncate {x : Binary64} (h : x.isIntegral = true) :
    round x.negative x.truncate.natAbs 1 = x := by
  obtain ⟨finite, whole⟩ := Bool.and_eq_true_iff.mp h
  have whole : x.units % unitsPerOne = 0 := beq_iff_eq.mp whole
  have product := Nat.div_mul_cancel (Nat.dvd_of_mod_eq_zero whole)
  rw [natAbs_truncate, round, product]
  refine roundUnits_of_rounds Nat.one_pos finite ?_
  rw [Nat.cast_one, div_one]
  exact rounds_unitsOf x.magnitude

/-- **The exact text of a whole number is read as the number.** -/
theorem read?_wholeText {x : Binary64} (h : x.isIntegral = true) :
    read? x.wholeText.toList = some x := by
  rw [wholeText, String.toList_ofList]
  show read? (signChars x.negative ++ Text.natDigits x.truncate.natAbs) = some x
  rw [read?_whole _ (fun _ hc => Text.isDigit_of_mem_natDigits hc) Nat.toDigits_ne_nil,
    Text.natOfDigits_natDigits, round_truncate h]

theorem tight_wholeText {x : Binary64} (h : x.isIntegral = true) :
    Text.Tight x.wholeText.toList := by
  refine tight_of_read? (read?_wholeText h) ?_
  rw [wholeText, String.toList_ofList]
  exact List.forall_mem_append.mpr ⟨isBlank_signChars x.negative,
    Text.solid_of_digits fun c hc => Text.isDigit_of_mem_natDigits hc⟩

end Polystore.Binary64
