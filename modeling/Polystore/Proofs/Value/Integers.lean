import Mathlib
import Polystore.Proofs.Binary64.Exact
import Polystore.Proofs.Value.Kinds

/-!
# Integers compared as numbers

Every comparison of two integers goes through the floating-point numbers that they are read as.
Reading rounds, and rounding keeps the order: it never turns two integers round. Integers of at most
fifty-three bits stay apart from all others; of longer ones, neighbours are read as one number, and
then nothing that compares values tells them apart.
-/

namespace Polystore

namespace Binary64

/-! ## Rounding keeps the order -/

/-- The larger of two quotients is not rounded to a smaller magnitude. -/
theorem nearest_mono {num num' den : Nat} (positive : 0 < den) (h : num ≤ num') :
    nearest num den ≤ nearest num' den := by
  obtain ⟨f, least, most, choice⟩ := nearest_floor num positive
  obtain ⟨f', least', most', choice'⟩ := nearest_floor num' positive
  have floors : f ≤ f' := by
    refine Nat.le_of_lt_succ (unitsOf_strictMono.lt_iff_lt.mp ?_)
    exact Nat.lt_of_mul_lt_mul_right (least.trans_lt (h.trans_lt most'))
  rw [choice, choice']
  rcases Nat.lt_or_eq_of_le floors with below | rfl
  · -- rounding up reaches the next floor at most
    split <;> split <;> omega
  · -- on one floor, what lies past the midpoint has everything larger past it
    by_cases same : num = num'
    · rw [same]
    · split <;> split <;> omega

/-- The magnitude of a whole number. -/
def wholeMagnitude (n : Nat) : Nat := nearest (n * unitsPerOne) 1

theorem wholeMagnitude_mono {k l : Nat} (h : k ≤ l) : wholeMagnitude k ≤ wholeMagnitude l :=
  nearest_mono Nat.one_pos (Nat.mul_le_mul_right unitsPerOne h)

/-- Whole numbers of 64 bits have their magnitude and their sign. -/
theorem ofInt_eq {n : Int} (small : n.natAbs < 2 ^ 64) :
    (ofInt n).magnitude = wholeMagnitude n.natAbs ∧ (ofInt n).negative = decide (n < 0) := by
  have finite := nearest_whole_lt small
  rw [ofInt, round, roundUnits, dif_pos finite]
  exact ⟨rfl, rfl⟩

/-- Up to `2 ^ 53` the magnitude stands for the whole number itself. -/
theorem unitsOf_wholeMagnitude {k : Nat} (h : k ≤ 2 ^ 53) :
    unitsOf (wholeMagnitude k) = k * unitsPerOne := by
  have magnitude : (ofInt k).magnitude = wholeMagnitude k := (ofInt_eq (by omega)).1
  rw [← magnitude]
  exact (isExactly_ofInt h).1.units

/-- A whole number of at most fifty-three bits has a smaller magnitude than every larger one. -/
theorem wholeMagnitude_lt {k l : Nat} (narrow : k < 2 ^ 53) (h : k < l) :
    wholeMagnitude k < wholeMagnitude l := by
  have next : wholeMagnitude k < wholeMagnitude (k + 1) := by
    rw [← unitsOf_strictMono.lt_iff_lt, unitsOf_wholeMagnitude (by omega),
      unitsOf_wholeMagnitude (by omega)]
    exact Nat.mul_lt_mul_of_pos_right (Nat.lt_succ_self k) unitsPerOne_pos
  exact next.trans_le (wholeMagnitude_mono h)

/-! ## Places of integers -/

/-- An integer of at most fifty-three bits and a sign. -/
def IsNarrow (n : Int) : Prop := n.natAbs < 2 ^ 53

instance (n : Int) : Decidable (IsNarrow n) := inferInstanceAs (Decidable (_ < _))

/-- The place of an integer in the order of all numbers. -/
def wholePlace (n : Int) : Int :=
  if n < 0 then -(wholeMagnitude n.natAbs : Int) else wholeMagnitude n.natAbs

theorem place_ofInt {n : Int} (small : n.natAbs < 2 ^ 64) :
    (ofInt n).place = some (wholePlace n) := by
  obtain ⟨magnitude, sign⟩ := ofInt_eq small
  rw [place, isNaN_ofInt, if_neg Bool.false_ne_true, magnitude, sign, wholePlace]
  simp only [decide_eq_true_eq]

/-- Zero lies apart from everything else. -/
theorem wholePlace_neg_lt {m n : Int} (hm : m < 0) (hn : 0 ≤ n) : wholePlace m < wholePlace n := by
  have some : 0 < wholeMagnitude m.natAbs :=
    Nat.zero_lt_of_lt (wholeMagnitude_lt (by decide) (Int.natAbs_pos.mpr hm.ne))
  rw [wholePlace, wholePlace, if_pos hm, if_neg (by omega)]
  omega

/-- Integers do not change places. -/
theorem wholePlace_mono {m n : Int} (h : m ≤ n) : wholePlace m ≤ wholePlace n := by
  by_cases hm : m < 0
  · by_cases hn : n < 0
    · have shrinks : wholeMagnitude n.natAbs ≤ wholeMagnitude m.natAbs :=
        wholeMagnitude_mono (by omega)
      rw [wholePlace, wholePlace, if_pos hm, if_pos hn]
      omega
    · exact (wholePlace_neg_lt hm (by omega)).le
  · have grows : wholeMagnitude m.natAbs ≤ wholeMagnitude n.natAbs :=
      wholeMagnitude_mono (by omega)
    rw [wholePlace, wholePlace, if_neg hm, if_neg (by omega)]
    omega

/-- An integer that is short enough shares its place with no other. -/
theorem wholePlace_lt {m n : Int} (narrow : IsNarrow m ∨ IsNarrow n) (h : m < n) :
    wholePlace m < wholePlace n := by
  unfold IsNarrow at narrow
  by_cases hm : m < 0
  · by_cases hn : n < 0
    · have shrinks : wholeMagnitude n.natAbs < wholeMagnitude m.natAbs :=
        wholeMagnitude_lt (by omega) (by omega)
      rw [wholePlace, wholePlace, if_pos hm, if_pos hn]
      omega
    · exact wholePlace_neg_lt hm (by omega)
  · have grows : wholeMagnitude m.natAbs < wholeMagnitude n.natAbs :=
      wholeMagnitude_lt (by omega) (by omega)
    rw [wholePlace, wholePlace, if_neg hm, if_neg (by omega)]
    omega

/-- Integers that share a place have one sign. -/
theorem neg_of_wholePlace {m n : Int} (same : wholePlace m = wholePlace n) (negative : m < 0) :
    n < 0 := by
  by_contra other
  have apart := wholePlace_neg_lt negative (Int.not_lt.mp other)
  omega

/-- Integers that share a place have one magnitude. -/
theorem wholeMagnitude_of_wholePlace {m n : Int} (same : wholePlace m = wholePlace n) :
    wholeMagnitude m.natAbs = wholeMagnitude n.natAbs := by
  by_cases negative : m < 0
  · have negative' := neg_of_wholePlace same negative
    rw [wholePlace, wholePlace, if_pos negative, if_pos negative'] at same
    omega
  · have positive : ¬n < 0 := fun h => negative (neg_of_wholePlace same.symm h)
    rw [wholePlace, wholePlace, if_neg negative, if_neg positive] at same
    omega

/-- A number is its sign and its magnitude. -/
theorem eq_of_parts {x y : Binary64} (sign : x.negative = y.negative)
    (magnitude : x.magnitude = y.magnitude) : x = y := by
  obtain ⟨signX, magnitudeX, _⟩ := x
  obtain ⟨signY, magnitudeY, _⟩ := y
  obtain rfl : signX = signY := sign
  obtain rfl : magnitudeX = magnitudeY := magnitude
  rfl

/-- Integers are read as one number just when they share a place. -/
theorem ofInt_eq_iff {m n : Int} (hm : m.natAbs < 2 ^ 64) (hn : n.natAbs < 2 ^ 64) :
    ofInt m = ofInt n ↔ wholePlace m = wholePlace n := by
  constructor
  · intro same
    have places := place_ofInt hm
    rw [same, place_ofInt hn] at places
    exact (Option.some.inj places).symm
  · intro same
    obtain ⟨magnitudeM, signM⟩ := ofInt_eq hm
    obtain ⟨magnitudeN, signN⟩ := ofInt_eq hn
    refine eq_of_parts ?_ ?_
    · rw [signM, signN, decide_eq_decide]
      exact ⟨neg_of_wholePlace same, neg_of_wholePlace same.symm⟩
    · rw [magnitudeM, magnitudeN, wholeMagnitude_of_wholePlace same]

/-- Two integers compare as integers, unless they are read as one number. -/
theorem compare_ofInt {m n : Int} (hm : m.natAbs < 2 ^ 64) (hn : n.natAbs < 2 ^ 64) :
    (ofInt m).compare (ofInt n) =
      some (if ofInt m = ofInt n then .eq else Ord.compare m n) := by
  have one := ofInt_eq_iff hm hn
  rw [compare, place_ofInt hm, place_ofInt hn]
  by_cases same : ofInt m = ofInt n
  · rw [if_pos same, one.mp same]
    exact congrArg some (compare_eq_iff_eq.mpr rfl)
  · have apart : wholePlace m ≠ wholePlace n := fun h => same (one.mpr h)
    rw [if_neg same]
    rcases lt_trichotomy m n with less | rfl | more
    · have places := lt_of_le_of_ne (wholePlace_mono less.le) apart
      exact congrArg some ((compare_lt_iff_lt.mpr places).trans (compare_lt_iff_lt.mpr less).symm)
    · exact absurd rfl same
    · have places := lt_of_le_of_ne (wholePlace_mono more.le) apart.symm
      exact congrArg some ((compare_gt_iff_gt.mpr places).trans (compare_gt_iff_gt.mpr more).symm)

end Binary64

namespace Value

open Binary64 (IsNarrow ofInt)

/-! ## Comparisons of integers -/

/-- Two integers are read as one number. -/
def Ties (m n : Int64) : Prop := ofInt m.toInt = ofInt n.toInt

instance (m n : Int64) : Decidable (Ties m n) := inferInstanceAs (Decidable (_ = _))

theorem natAbs_toInt_lt (n : Int64) : n.toInt.natAbs < 2 ^ 64 := by
  have low := n.le_toInt
  have high := n.toInt_lt
  omega

theorem Ties.refl (n : Int64) : Ties n n := rfl

theorem Ties.symm {m n : Int64} (h : Ties m n) : Ties n m := Eq.symm h

/-- A short integer ties with itself only. -/
theorem Ties.eq_of_narrow {m n : Int64} (h : Ties m n)
    (narrow : IsNarrow m.toInt ∨ IsNarrow n.toInt) : m = n := by
  have places := (Binary64.ofInt_eq_iff (natAbs_toInt_lt m) (natAbs_toInt_lt n)).mp h
  refine Int64.toInt_inj.mp ?_
  rcases lt_trichotomy m.toInt n.toInt with less | same | more
  · exact absurd places (Binary64.wholePlace_lt narrow less).ne
  · exact same
  · exact absurd places (Binary64.wholePlace_lt narrow.symm more).ne'

theorem compare_int (m n : Int64) :
    (Value.int m).compare (.int n) =
      some (if Ties m n then .eq else Ord.compare m.toInt n.toInt) := by
  have numbers : (Value.int m).compare (.int n) = (ofInt m.toInt).compare (ofInt n.toInt) := by
    simp [compare, readingOrder, isDate, numberOrder, asNumber]
  rw [numbers, Binary64.compare_ofInt (natAbs_toInt_lt m) (natAbs_toInt_lt n)]
  rfl

theorem looseEq_int (m n : Int64) : (Value.int m).looseEq (.int n) = true ↔ Ties m n := by
  have numbers : (Value.int m).looseEq (.int n) =
      (ofInt m.toInt).same (ofInt n.toInt) := by
    simp [looseEq, sameNumber, asNumber]
  rw [numbers, Binary64.same, Binary64.compare_ofInt (natAbs_toInt_lt m) (natAbs_toInt_lt n),
    beq_iff_eq, Option.some_inj]
  show (if Ties m n then _ else _) = _ ↔ _
  by_cases tie : Ties m n
  · rw [if_pos tie]
    exact iff_of_true rfl tie
  · rw [if_neg tie]
    refine iff_of_false (fun same => tie ?_) tie
    rw [Ties, compare_eq_iff_eq.mp same]

theorem looseEq_null_int (n : Int64) : Value.null.looseEq (.int n) = false := by
  simp [looseEq]

end Value

end Polystore
