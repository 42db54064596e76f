import Mathlib
import Polystore.Column.Coerce
import Polystore.Proofs.Binary64.Rational

/-!
# Numbers that columns keep

A column of integers takes the floats that stand for an integer, and a column of floats takes every
integer. Most numbers are kept as what they are. Of those that have no counterpart of the other kind
only the fractions are refused: a whole float beyond the integers of 64 bits becomes the last of
them, and an integer with more bits than a float has becomes the nearest float.
-/

namespace Polystore

/-! ## Floats in columns of integers -/

theorem toInt_clampInt64 (n : Int) :
    (clampInt64 n).toInt = max (-2 ^ 63) (min n (2 ^ 63 - 1)) := by
  unfold clampInt64
  split
  · rw [Int64.toInt_minValue]
    omega
  · split
    · rw [Int64.toInt_maxValue]
      omega
    · rw [Int64.toInt_ofInt_of_le (by omega) (by omega)]
      omega

namespace ColumnType

open Binary64 (HasFewBits ofInt)

/-- A float that stands for no integer is refused. -/
theorem convert_float_of_not_whole {x : Binary64}
    (fraction : x.isFinite = false ∨ ∀ k : Int, x.toRat ≠ k) :
    integer.convert (.float x) = none := by
  have broken : ¬x.isIntegral = true := by
    intro whole
    have finite : x.isFinite = true := (Bool.and_eq_true_iff.mp whole).1
    rcases fraction with infinite | apart
    · rw [finite] at infinite
      cases infinite
    · exact apart _ (Binary64.toRat_of_isIntegral whole)
  rw [convert, if_neg broken]

/-- A float that stands for an integer becomes the integer, held between the ends of the range. -/
theorem convert_float_of_whole {x : Binary64} {k : Int} (finite : x.isFinite = true)
    (stands : x.toRat = k) : integer.convert (.float x) = some (.int (clampInt64 k)) := by
  obtain ⟨whole, rfl⟩ := (Binary64.isIntegral_iff finite).mp stands
  rw [convert, if_pos whole]

/-! ## Both ways -/

/-- **Numbers are kept where they have a counterpart.** A float goes into a column of integers if it
stands for an integer and is refused if not; it is kept when 64 bits hold the integer, and becomes
the last integer on its side when they do not. An integer goes into a column of floats as a float
that no other one is nearer than. That float stands for the integer just when some float does, which
is when the integer has few enough bits. -/
theorem coerced_number_exact_iff (column : String) :
    (∀ x : Binary64, (x.isFinite = false ∨ ∀ k : Int, x.toRat ≠ k) →
      integer.coerce column (.float x) =
        .error (ExecutionError.typeMismatch column "integer" (Value.float x).display)) ∧
    (∀ (x : Binary64) (k : Int), x.isFinite = true → x.toRat = k → ∃ n : Int64,
      integer.coerce column (.float x) = .ok (.int n) ∧
      n.toInt = max (-2 ^ 63) (min k (2 ^ 63 - 1)) ∧
      ((n.toInt : ℚ) = x.toRat ↔ -2 ^ 63 ≤ x.toRat ∧ x.toRat < 2 ^ 63)) ∧
    ∀ n : Int64, ∃ y : Binary64, y.isFinite = true ∧
      float.coerce column (.int n) = .ok (.float y) ∧
      (∀ z : Binary64, z.isFinite = true → |y.toRat - n.toInt| ≤ |z.toRat - n.toInt|) ∧
      (y.toRat = n.toInt ↔ ∃ z : Binary64, z.isFinite = true ∧ z.toRat = n.toInt) ∧
      (y.toRat = n.toInt ↔ HasFewBits n.toInt) := by
  refine ⟨fun x fraction => ?refused, fun x k finite stands => ?whole, fun n => ?float⟩
  case refused =>
    rw [coerce, convert_float_of_not_whole fraction]
    rfl
  case whole =>
    refine ⟨_, coerce_eq_ok.mpr (convert_float_of_whole finite stands), toInt_clampInt64 k, ?_⟩
    have low : (-2 ^ 63 : ℚ) ≤ k ↔ -2 ^ 63 ≤ k := by exact_mod_cast Iff.rfl
    have high : (k : ℚ) < 2 ^ 63 ↔ k < 2 ^ 63 := by exact_mod_cast Iff.rfl
    rw [stands, toInt_clampInt64, low, high, Int.cast_inj]
    omega
  case float =>
    have small : n.toInt.natAbs < 2 ^ 64 := Value.natAbs_toInt_lt n
    have finite := Binary64.isFinite_ofInt_of_lt small
    refine ⟨ofInt n.toInt, finite, coerce_eq_ok.mpr rfl,
      fun z _ => Binary64.abs_toRat_ofInt_sub_le small z, ⟨fun stands => ⟨_, finite, stands⟩, ?_⟩,
      ⟨Binary64.hasFewBits_of_toRat, fun few => Binary64.toRat_ofInt few small⟩⟩
    rintro ⟨z, _, stands⟩
    exact Binary64.toRat_ofInt (Binary64.hasFewBits_of_toRat stands) small

/-- Two and a half. -/
def twoAndHalf : Binary64 := ⟨false, 0x4004000000000000, by decide⟩

theorem coerced_number_exact_iff_ends :
    ((∀ k : Int, twoAndHalf.toRat ≠ k) ∧
      integer.coerce "count" (.float twoAndHalf) =
        .error (ExecutionError.typeMismatch "count" "integer" (Value.float twoAndHalf).display)) ∧
    ((ofInt (-2 ^ 63)).isFinite = true ∧ (ofInt (-2 ^ 63)).toRat = (-2 ^ 63 : Int) ∧
      ∃ n : Int64, integer.coerce "count" (.float (ofInt (-2 ^ 63))) = .ok (.int n) ∧
        (n.toInt : ℚ) = (ofInt (-2 ^ 63)).toRat) ∧
    ∃ y : Binary64, y.isFinite = true ∧
      float.coerce "share" (.int 9007199254740994) = .ok (.float y) ∧
      y.toRat = (9007199254740994 : Int64).toInt := by
  have fraction (k : Int) : twoAndHalf.toRat ≠ k := by
    intro stands
    have whole := ((Binary64.isIntegral_iff (by decide)).mp stands).1
    exact absurd whole (by decide +kernel)
  have few : HasFewBits (-2 ^ 63) := ⟨1, 63, by decide, by decide⟩
  have stands := Binary64.toRat_ofInt few (by decide)
  have finite : (ofInt (-2 ^ 63)).isFinite = true := by decide +kernel
  obtain ⟨n, stored, -, kept⟩ := (coerced_number_exact_iff "count").2.1 _ _ finite stands
  obtain ⟨y, number, stored', -, -, exact⟩ :=
    (coerced_number_exact_iff "share").2.2 9007199254740994
  refine ⟨⟨fraction, (coerced_number_exact_iff "count").1 twoAndHalf (.inr fraction)⟩,
    ⟨finite, stands, n, stored, kept.mpr ?_⟩, y, number, stored', exact.mpr ?_⟩
  · rw [stands]
    norm_num
  · exact ⟨4503599627370497, 1, by decide, by decide⟩

/-- **A number without a counterpart is replaced by another one**: `10 ^ 19` by the last integer of
64 bits, and the integer behind `2 ^ 53` by `2 ^ 53`. -/
theorem number_without_counterpart_replaced :
    ((ofInt (10 ^ 19)).isFinite = true ∧ (ofInt (10 ^ 19)).toRat = (10 ^ 19 : Int) ∧
      integer.coerce "count" (.float (ofInt (10 ^ 19))) = .ok (.int Int64.maxValue) ∧
      (Int64.maxValue.toInt : ℚ) ≠ (ofInt (10 ^ 19)).toRat) ∧
    (float.coerce "share" (.int 9007199254740993) = .ok (.float (ofInt 9007199254740992)) ∧
      (ofInt 9007199254740992).toRat ≠ (9007199254740993 : Int64).toInt) := by
  have large : (ofInt (10 ^ 19)).toRat = (10 ^ 19 : Int) :=
    Binary64.toRat_ofInt ⟨5 ^ 19, 19, by decide, by decide⟩ (by decide)
  have next : (ofInt 9007199254740992).toRat = (9007199254740992 : Int) :=
    Binary64.toRat_ofInt ⟨1, 53, by decide, by decide⟩ (by decide)
  refine ⟨⟨by decide +kernel, large, ?_, ?_⟩, ?_, ?_⟩
  · have last : clampInt64 (10 ^ 19) = Int64.maxValue := by decide
    refine coerce_eq_ok.mpr ((convert_float_of_whole (by decide +kernel) large).trans ?_)
    rw [last]
  · rw [large, Int64.toInt_maxValue]
    norm_num
  · exact coerce_eq_ok.mpr (congrArg (some <| Value.float ·) (by decide +kernel))
  · rw [next]
    decide

end ColumnType

end Polystore
