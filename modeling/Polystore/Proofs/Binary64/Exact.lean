import Mathlib
import Polystore.Proofs.Binary64.Reading

/-!
# Exact numbers

A whole number of at most fifty-three bits is a number of the format, and stays one when it is
doubled many times; so are the powers of ten up to the twenty-second. A product or a quotient of two
such numbers is rounded once, as if the decimal were read at once. Rounding keeps the order, so that
whole numbers of 64 bits are finite and no finite number overflows in a division by a power of ten.
-/

namespace Polystore.Binary64

/-- A finite number of so many ones. -/
structure IsExactly (x : Binary64) (n : Nat) : Prop where
  finite : x.isFinite = true
  units : x.units = n * unitsPerOne

/-- A number of at most fifty-three bits, doubled so often, has a magnitude. -/
theorem exists_unitsOf {n k : Nat} (positive : 0 < n) (small : n < 2 ^ 53) (le : k ≤ 900) :
    ∃ m, m < infiniteMagnitude ∧ unitsOf m = n * 2 ^ k * unitsPerOne := by
  have some : n ≠ 0 := by omega
  have bits : Nat.log2 n ≤ 52 := by
    have less : Nat.log2 n < 53 := (Nat.log2_lt some).mpr small
    omega
  have least : 2 ^ Nat.log2 n ≤ n := Nat.log2_self_le some
  have most : n < 2 ^ (Nat.log2 n + 1) := Nat.lt_log2_self
  -- shifted up to its binade, the number is a place there
  have inside : 2 ^ 52 ≤ n * 2 ^ (52 - Nat.log2 n) := by
    have shifted := Nat.mul_le_mul_right (2 ^ (52 - Nat.log2 n)) least
    rw [← Nat.pow_add, Nat.add_sub_cancel' bits] at shifted
    exact shifted
  have below : n * 2 ^ (52 - Nat.log2 n) < 2 ^ 53 := by
    have shifted := Nat.mul_lt_mul_of_pos_right most (Nat.two_pow_pos (52 - Nat.log2 n))
    have sum : Nat.log2 n + 1 + (52 - Nat.log2 n) = 53 := by omega
    rw [← Nat.pow_add, sum] at shifted
    exact shifted
  refine ⟨(1022 + k + Nat.log2 n) * 2 ^ 52 + n * 2 ^ (52 - Nat.log2 n), ?_, ?_⟩
  · rw [infiniteMagnitude]
    omega
  · have exponent : 52 - Nat.log2 n + (1022 + k + Nat.log2 n) = k + 1074 := by omega
    rw [unitsOf_place (.inr inside) (Nat.le_of_lt below), Nat.mul_assoc, ← Nat.pow_add, exponent,
      Nat.pow_add, ← Nat.mul_assoc, unitsPerOne]

/-- Such a number is rounded to itself. -/
theorem isExactly_round {n k : Nat} (small : n < 2 ^ 53) (le : k ≤ 900) (negative : Bool) :
    (round negative (n * 2 ^ k) 1).IsExactly (n * 2 ^ k) ∧
      (round negative (n * 2 ^ k) 1).negative = negative := by
  rcases Nat.eq_zero_or_pos n with rfl | positive
  · have zero : round negative 0 1 = ⟨negative, 0, by decide⟩ := by
      rw [round, Nat.zero_mul]
      rfl
    rw [Nat.zero_mul, zero]
    have none : (⟨negative, 0, by decide⟩ : Binary64).units = 0 := unitsOf_zero
    exact ⟨⟨rfl, none.trans (Nat.zero_mul unitsPerOne).symm⟩, rfl⟩
  · obtain ⟨m, below, units⟩ := exists_unitsOf positive small le
    have fits : m < 2 ^ 63 := below.trans (by decide)
    have rounds : Rounds m (((n * 2 ^ k * unitsPerOne : Nat) : ℚ) / (1 : Nat)) := by
      rw [← units, Nat.cast_one, div_one]
      exact rounds_unitsOf m
    have exact := roundUnits_of_rounds (x := ⟨negative, m, fits⟩) Nat.one_pos
      (decide_eq_true below) rounds
    rw [round, exact]
    exact ⟨⟨decide_eq_true below, units⟩, rfl⟩

/-- Whole numbers up to `2 ^ 53` are numbers of the format. -/
theorem isExactly_ofInt {n : Nat} (small : n ≤ 2 ^ 53) :
    (ofInt n).IsExactly n ∧ (ofInt n).negative = false := by
  have sign : decide ((n : Int) < 0) = false := by
    rw [decide_eq_false_iff_not]
    omega
  rw [ofInt, sign, Int.natAbs_natCast]
  rcases Nat.lt_or_eq_of_le small with less | rfl
  · have exact := isExactly_round (k := 0) less (by decide) false
    rw [Nat.pow_zero, Nat.mul_one] at exact
    exact exact
  · have exact := isExactly_round (n := 1) (k := 53) (by decide) (by decide) false
    rw [Nat.one_mul] at exact
    exact exact

/-! ## Decimals with small exponents -/

/-- The sign has no part in rounding. -/
theorem neg_round (num den : Nat) : (round false num den).neg = round true num den := by
  unfold round roundUnits
  dsimp only
  split <;> rfl

/-- The sign has no part in reading a decimal. -/
theorem neg_ofDecimal (digits : Nat) (exponent : Int) :
    (ofDecimal false digits exponent).neg = ofDecimal true digits exponent := by
  unfold ofDecimal
  dsimp only
  split
  · rfl
  · split
    · rfl
    · split <;> exact neg_round _ _

theorem isNaN_ofDecimal (negative : Bool) (digits : Nat) (exponent : Int) :
    (ofDecimal negative digits exponent).isNaN = false := by
  unfold ofDecimal
  dsimp only
  split
  · rfl
  · split
    · rfl
    · split <;> exact isNaN_roundUnits _ _ _

/-- A decimal is rounded once, as a quotient by the power of ten. -/
theorem ofDecimal_down (negative : Bool) (digits : Nat) {k : Nat} (positive : 0 < k)
    (small : k ≤ 1000) : ofDecimal negative digits (-(k : Int)) = round negative digits (10 ^ k) := by
  rcases Nat.eq_zero_or_pos digits with rfl | more
  · rw [ofDecimal_zero, round_zero negative (Nat.pow_pos (by decide))]
  · have some : ¬ (digits = 0 || -(k : Int) + (Nat.log2 digits / 3 : Nat) < -1000) = true := by
      rw [Bool.or_eq_true, decide_eq_true_eq, decide_eq_true_eq]
      omega
    unfold ofDecimal
    dsimp only
    rw [if_neg some, if_neg (by omega), if_neg (by omega), Int.neg_neg, Int.toNat_natCast]

/-- Powers of ten up to the twenty-second are numbers of the format. -/
theorem isExactly_powTen {k : Nat} (small : k ≤ 22) :
    (ofDecimal false 1 k).IsExactly (10 ^ k) ∧ (ofDecimal false 1 k).negative = false := by
  have odd : 5 ^ k < 2 ^ 53 := lt_of_le_of_lt (Nat.pow_le_pow_right (by decide) small) (by decide)
  have exact := isExactly_round (k := k) odd (by omega) false
  have power : 5 ^ k * 2 ^ k = 10 ^ k := by rw [← Nat.mul_pow]
  rw [ofDecimal_up false 1 (by omega), Nat.one_mul, ← power]
  exact exact

/-! ## Products and quotients -/

/-- The product of exact numbers is rounded once. -/
theorem IsExactly.mul {x y : Binary64} {a b : Nat} (hx : x.IsExactly a) (hy : y.IsExactly b) :
    x.mul y = round (x.negative != y.negative) (a * b) 1 := by
  rw [Binary64.mul, round, hx.units, hy.units]
  refine roundUnits_congr _ unitsPerOne_pos Nat.one_pos ?_
  ring

/-- The quotient of exact numbers is rounded once. -/
theorem IsExactly.div {x y : Binary64} {a b : Nat} (hx : x.IsExactly a) (hy : y.IsExactly b)
    (positive : 0 < b) : x.div y = round (x.negative != y.negative) a b := by
  rw [Binary64.div, round, hx.units, hy.units]
  refine roundUnits_congr _ (Nat.mul_pos positive unitsPerOne_pos) positive ?_
  ring

/-- One leaves a number alone. -/
theorem mul_one {x : Binary64} (finite : x.isFinite = true) : x.mul (ofDecimal false 1 0) = x := by
  obtain ⟨one, positive⟩ := isExactly_powTen (k := 0) (by decide)
  rw [Nat.cast_zero] at one positive
  have rounds : Rounds x.magnitude (((x.units * unitsPerOne : Nat) : ℚ) / unitsPerOne) := by
    have nonzero : (unitsPerOne : ℚ) ≠ 0 := by exact_mod_cast unitsPerOne_pos.ne'
    rw [Nat.cast_mul, mul_div_cancel_right₀ _ nonzero]
    exact rounds_unitsOf x.magnitude
  rw [mul, one.units, positive, Nat.pow_zero, Nat.one_mul, Bool.bne_false]
  exact roundUnits_of_rounds unitsPerOne_pos finite rounds

/-! ## Staying finite -/

/-- Nothing beyond a magnitude is next to a quotient that is not beyond its units. -/
theorem nearest_le {num den m : Nat} (positive : 0 < den) (h : num ≤ unitsOf m * den) :
    nearest num den ≤ m := by
  obtain ⟨f, least, -, choice⟩ := nearest_floor num positive
  have floor : f ≤ m := by
    refine unitsOf_strictMono.le_iff_le.mp ?_
    exact Nat.le_of_mul_le_mul_right (least.trans h) positive
  rw [choice]
  split
  · rename_i up
    -- the quotient would have to lie beyond the floor
    refine Nat.lt_of_le_of_ne floor ?_
    rintro rfl
    have step := Nat.mul_lt_mul_of_pos_right (unitsOf_lt_succ f) positive
    rw [Nat.add_mul] at up
    omega
  · exact floor

/-- A magnitude is not beyond what is next to a quotient of at least its units. -/
theorem le_nearest {num den m : Nat} (positive : 0 < den) (h : unitsOf m * den ≤ num) :
    m ≤ nearest num den := by
  obtain ⟨f, -, most, choice⟩ := nearest_floor num positive
  have floor : m ≤ f := by
    refine Nat.le_of_lt_succ (unitsOf_strictMono.lt_iff_lt.mp ?_)
    exact Nat.lt_of_mul_lt_mul_right (h.trans_lt most)
  rw [choice]
  split
  · exact Nat.le_succ_of_le floor
  · exact floor

/-- Powers of ten are not less than one. -/
theorem unitsPerOne_le_powTen {k : Nat} (small : k ≤ 400) :
    unitsPerOne ≤ (ofDecimal false 1 k).units := by
  obtain ⟨one, below, units⟩ := exists_unitsOf (n := 1) (k := 0) (by decide) (by decide) (by decide)
  rw [Nat.pow_zero, Nat.mul_one, Nat.one_mul] at units
  have least : one ≤ nearest (10 ^ k * unitsPerOne) 1 := by
    refine le_nearest Nat.one_pos ?_
    rw [units, Nat.mul_one]
    exact Nat.le_mul_of_pos_left unitsPerOne (Nat.pow_pos (by decide))
  have magnitude : one ≤ (ofDecimal false 1 k).magnitude := by
    rw [ofDecimal_up false 1 small, Nat.one_mul, round, roundUnits]
    split
    · exact least
    · exact Nat.le_of_lt below
  rw [← units]
  exact unitsOf_strictMono.monotone magnitude

/-- A finite number that is divided by no less than one stays finite. -/
theorem isFinite_div {x y : Binary64} (finite : x.isFinite = true) (one : unitsPerOne ≤ y.units) :
    (x.div y).isFinite = true := by
  have below : x.magnitude < infiniteMagnitude := of_decide_eq_true finite
  have fits : nearest (x.units * unitsPerOne) y.units < infiniteMagnitude := by
    refine (nearest_le (Nat.lt_of_lt_of_le unitsPerOne_pos one) ?_).trans_lt below
    exact Nat.mul_le_mul_left x.units one
  rw [div, roundUnits, dif_pos fits]
  exact decide_eq_true fits

/-- The magnitude next to a whole number of 64 bits is finite. -/
theorem nearest_whole_lt {n : Nat} (small : n < 2 ^ 64) :
    nearest (n * unitsPerOne) 1 < infiniteMagnitude := by
  obtain ⟨m, below, units⟩ := exists_unitsOf (n := 1) (k := 64) (by decide) (by decide) (by decide)
  refine (nearest_le Nat.one_pos ?_).trans_lt below
  rw [units, Nat.one_mul, Nat.mul_one]
  exact Nat.mul_le_mul_right unitsPerOne (Nat.le_of_lt small)

/-- Whole numbers of 64 bits do not overflow. -/
theorem isFinite_ofInt {n : Nat} (small : n < 2 ^ 64) : (ofInt n).isFinite = true := by
  have finite := nearest_whole_lt small
  rw [ofInt, Int.natAbs_natCast, round, roundUnits, dif_pos finite]
  exact decide_eq_true finite

end Polystore.Binary64
