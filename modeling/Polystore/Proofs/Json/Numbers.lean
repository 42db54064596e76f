import Mathlib
import Polystore.Proofs.Binary64.Exact
import Polystore.Proofs.Json.Opening

/-!
# Numbers in documents

The reader of documents collects the digits of a number as it goes. What it has collected at the end
are the digits and the power of ten that the text spells, provided that the digits fit 64 bits; the
number is then one of the three that `Quick` names. Where whole numbers and powers of ten are exact
the quick way rounds once, and what it finds is the number nearest to the decimal.
-/

namespace Polystore.Json

open Polystore.Text (isBlank natOfDigits digitValue)
open Polystore.Binary64 (IsExponent isExponent_nil signChars spelled?)

/-! ## What becomes of a decimal -/

/-- The number that a document is. -/
def number? : Json → Option Binary64
  | .int n => some (Binary64.ofInt n.val)
  | .float x => some x
  | _ => none

/-- The documents that the quick way makes of a decimal. -/
inductive Quick (negative : Bool) (digits : Nat) (power : Int) : Json → Prop where
  /-- A whole number, which is kept whole where 64 bits hold it. -/
  | whole : power = 0 → Quick negative digits power (wholeOf negative digits)
  /-- One product or quotient. -/
  | scaled {j : Json} : floatOf negative digits power = some j → Quick negative digits power j
  /-- Nothing is left when the exponent alone is beyond 32 bits. -/
  | vanished : digits = 0 ∨ power < -1000 →
      Quick negative digits power (.float ⟨negative, 0, by decide⟩)

/-- What is read of a decimal is a number, and the quick one as long as nothing was dropped. -/
structure IsRead (negative : Bool) (digits : Nat) (power : Int) (kept : Prop) (j : Json) : Prop where
  number : j.number?.isSome = true
  quick : kept → Quick negative digits power j

theorem isRead_of_floatOf {negative : Bool} {digits : Nat} {power : Int} {j : Json} (kept : Prop)
    (h : floatOf negative digits power = some j) : IsRead negative digits power kept j := by
  refine ⟨?_, fun _ => .scaled h⟩
  obtain ⟨x, -, rfl⟩ := Option.map_eq_some_iff.mp h
  rfl

theorem number?_wholeOf_isSome (negative : Bool) (n : Nat) :
    (wholeOf negative n).number?.isSome = true := by
  unfold wholeOf
  split <;> split <;> rfl

/-! ## Collecting digits -/

theorem le_natOfDigits (acc : Nat) (ds : List Char) : acc ≤ natOfDigits acc ds := by
  induction ds generalizing acc with
  | nil => exact Nat.le_refl acc
  | cons d ds ih =>
    have more := ih (10 * acc + digitValue d)
    rw [Text.natOfDigits_cons]
    omega

theorem digit_of_mem_cons {c : Char} {cs : List Char} (hc : c.isDigit = true)
    (h : ∀ d ∈ cs, d.isDigit = true) : ∀ d ∈ c :: cs, d.isDigit = true :=
  List.forall_mem_cons.mpr ⟨hc, h⟩

/-- What the run of digits in front of a text leaves does not begin with one. -/
theorem dropWhile_stops (cs : List Char) :
    (cs.dropWhile Char.isDigit).head?.all fun c => !c.isDigit := by
  induction cs with
  | nil => rfl
  | cons c cs ih =>
    rw [List.dropWhile_cons]
    split
    · exact ih
    · rename_i other
      rw [Bool.not_eq_true] at other
      rw [List.head?_cons, Option.all_some, other]
      rfl

/-- A text that begins with a digit and is cut where no digit follows has digits in front of the
cut. -/
theorem ne_nil_of_stops {c : Char} (hc : c.isDigit = true) {cs ds rest : List Char}
    (parts : c :: cs = ds ++ rest) (stop : rest.head?.all fun c => !c.isDigit) : ds ≠ [] := by
  rintro rfl
  rw [List.nil_append] at parts
  rw [← parts, List.head?_cons, Option.all_some, hc] at stop
  exact Bool.false_ne_true stop

/-! ## Exponents -/

/-- The zero that a sign gives is that of the sign. -/
theorem zero_signed (negative : Bool) :
    (if negative then Binary64.zero.neg else Binary64.zero) = ⟨negative, 0, by decide⟩ := by
  cases negative <;> rfl

/-- The digits of an exponent are taken up to the first other character. Where the exponent counts
from is no higher than the point unless digits were dropped. -/
theorem readExponentDigits_spec {negative down : Bool} {significand : Nat} {start : Int}
    {cs : List Char} {value : Nat} {j : Json} {rest : List Char}
    (h : readExponentDigits negative down significand start value cs = some (j, rest)) :
    ∃ ds, cs = ds ++ rest ∧ (∀ c ∈ ds, c.isDigit = true) ∧
      (rest.head?.all fun c => !c.isDigit) ∧
      IsRead negative significand
        (if down then start - natOfDigits value ds else start + natOfDigits value ds) (start ≤ 0)
        j := by
  have none : ∀ c ∈ ([] : List Char), c.isDigit = true := List.forall_mem_nil _
  -- over the text, for every value that the digits read before may have
  induction cs generalizing value with
  | nil =>
    rw [readExponentDigits] at h
    obtain ⟨k, scaled, result⟩ := Option.map_eq_some_iff.mp h
    obtain ⟨rfl, rfl⟩ := Prod.mk.inj result
    refine ⟨[], rfl, none, rfl, isRead_of_floatOf _ scaled⟩
  | cons c cs ih =>
    rw [readExponentDigits] at h
    split at h
    · rename_i digit
      dsimp only at h
      split at h
      · obtain ⟨ds, parts, digits, stop, quick⟩ := ih h
        exact ⟨c :: ds, congrArg (c :: ·) parts, digit_of_mem_cons digit digits, stop, quick⟩
      · rename_i large
        split at h
        · cases h
        · -- the exponent is too large for its digits, and points down
          rename_i vanishing
          obtain ⟨rfl, rfl⟩ := Prod.mk.inj (Option.some.inj h)
          refine ⟨c :: cs.takeWhile Char.isDigit, ?_, ?_, dropWhile_stops cs, rfl, fun low => ?_⟩
          · rw [List.cons_append, List.takeWhile_append_dropWhile]
          · exact digit_of_mem_cons digit fun d hd => List.mem_takeWhile_imp hd
          · have most := le_natOfDigits (10 * value + digitValue c) (cs.takeWhile Char.isDigit)
            simp only [Bool.and_eq_true, bne_iff_ne, Bool.not_eq_true', not_and_or,
              Bool.not_eq_false, not_not] at vanishing
            rw [zero_signed, Text.natOfDigits_cons]
            refine .vanished ?_
            rcases vanishing with zero | down
            · exact .inl zero
            · rw [if_pos down]
              exact .inr (by omega)
    · rename_i other
      obtain ⟨k, scaled, result⟩ := Option.map_eq_some_iff.mp h
      obtain ⟨rfl, rfl⟩ := Prod.mk.inj result
      rw [Bool.not_eq_true] at other
      refine ⟨[], rfl, none, ?_, isRead_of_floatOf _ scaled⟩
      rw [List.head?_cons, Option.all_some, other]
      rfl

theorem readDigits_of_digits {ds : List Char} (filled : ds ≠ []) (h : ∀ c ∈ ds, c.isDigit = true) :
    Text.readDigits ds = some (natOfDigits 0 ds) := by
  rw [Text.readDigits, List.isEmpty_eq_false_iff.mpr filled, List.all_eq_true.mpr h]
  rfl

/-- Digits without a sign are read as their number. -/
theorem readInt_of_digits {ds : List Char} (filled : ds ≠ []) (h : ∀ c ∈ ds, c.isDigit = true) :
    Text.readInt ds = some (natOfDigits 0 ds : Int) := by
  have read := readDigits_of_digits filled h
  obtain ⟨c, cs, rfl⟩ := List.exists_cons_of_ne_nil filled
  obtain ⟨minus, plus⟩ := Binary64.ne_sign_of_isDigit (h c List.mem_cons_self)
  unfold Text.readInt
  split
  · rename_i same
    exact absurd (List.cons.inj same).1 minus
  · unfold Text.readNat
    split
    · rename_i same
      exact absurd (List.cons.inj same).1 plus
    · rw [read]
      rfl

/-- The exponent behind its mark is a whole number, of which no character is blank. -/
theorem readExponent_spec {negative : Bool} {significand : Nat} {start : Int} {cs : List Char}
    {j : Json} {rest : List Char}
    (h : readExponent negative significand start cs = some (j, rest)) :
    ∃ mark e, cs = mark ++ rest ∧ Text.readInt mark = some e ∧
      (∀ c ∈ mark, isBlank c = false) ∧
      IsRead negative significand (start + e) (start ≤ 0) j := by
  unfold readExponent at h
  split at h
  rename_i down digits sign
  -- the digits are read alike behind every sign
  split at h
  · rename_i c tail
    split at h
    · rename_i digit
      obtain ⟨ds, parts, all, stop, quick⟩ := readExponentDigits_spec h
      have filled := ne_nil_of_stops digit parts stop
      have solid := Text.solid_of_digits all
      split at sign
      · obtain ⟨rfl, rfl⟩ := Prod.mk.inj sign
        refine ⟨'+' :: ds, natOfDigits 0 ds, congrArg ('+' :: ·) parts, ?_, ?_, quick⟩
        · show (Text.readDigits ds).map Int.ofNat = _
          rw [readDigits_of_digits filled all]
          rfl
        · exact List.forall_mem_cons.mpr ⟨by decide, solid⟩
      · obtain ⟨rfl, rfl⟩ := Prod.mk.inj sign
        refine ⟨'-' :: ds, -(natOfDigits 0 ds : Int), congrArg ('-' :: ·) parts, ?_, ?_, quick⟩
        · rw [Text.readInt, readDigits_of_digits filled all]
          rfl
        · exact List.forall_mem_cons.mpr ⟨by decide, solid⟩
      · obtain ⟨rfl, rfl⟩ := Prod.mk.inj sign
        exact ⟨ds, natOfDigits 0 ds, parts, readInt_of_digits filled all, solid, quick⟩
    · cases h
  · cases h

/-! ## Digits -/

/-- A text begins with an exponent or nothing, and goes on with the rest. -/
structure Behind (cs tail : List Char) (e : Int) (rest : List Char) : Prop where
  parts : cs = tail ++ rest
  exponent : IsExponent tail e
  solid : ∀ c ∈ tail, isBlank c = false

theorem behind_nil (rest : List Char) : Behind rest [] 0 rest :=
  ⟨rfl, isExponent_nil, List.forall_mem_nil _⟩

/-- The end of a number scales the digits by all powers. -/
theorem finishFloat_spec {negative : Bool} {significand : Nat} {start : Int} {cs : List Char}
    {j : Json} {rest : List Char}
    (h : finishFloat negative significand start cs = some (j, rest)) :
    ∃ tail e, Behind cs tail e rest ∧
      IsRead negative significand (start + e) (start ≤ 0) j := by
  have done {cs : List Char} (h : (floatOf negative significand start).map (·, cs) =
      some (j, rest)) :
      ∃ tail e, Behind cs tail e rest ∧
        IsRead negative significand (start + e) (start ≤ 0) j := by
    obtain ⟨k, scaled, result⟩ := Option.map_eq_some_iff.mp h
    obtain ⟨rfl, rfl⟩ := Prod.mk.inj result
    refine ⟨[], 0, behind_nil _, ?_⟩
    rw [Int.add_zero]
    exact isRead_of_floatOf _ scaled
  unfold finishFloat at h
  split at h
  · rename_i c cs
    split at h
    · rename_i mark
      obtain ⟨ds, e, rfl, read, solid, quick⟩ := readExponent_spec h
      have letter : c = 'e' ∨ c = 'E' := by
        rw [Bool.or_eq_true, beq_iff_eq, beq_iff_eq] at mark
        exact mark
      refine ⟨c :: ds, e, ⟨rfl, ⟨?_, ?_⟩, ?_⟩, quick⟩
      · rw [Binary64.readExponent, if_pos mark]
        exact read
      · rcases letter with rfl | rfl <;> rfl
      · refine List.forall_mem_cons.mpr ⟨?_, solid⟩
        rcases letter with rfl | rfl <;> decide
    · exact done h
  · exact done h

/-- The digits behind the point are collected as long as they fit. -/
theorem readFraction_spec {negative : Bool} {cs : List Char} {significand : Nat} {start : Int}
    {j : Json} {rest : List Char}
    (h : readFraction negative significand start cs = some (j, rest)) :
    ∃ fs behind tail e, cs = fs ++ behind ∧ (∀ c ∈ fs, c.isDigit = true) ∧
      Behind behind tail e rest ∧
      IsRead negative (natOfDigits significand fs) (start - fs.length + e)
        (start ≤ 0 ∧ natOfDigits significand fs < significandBound) j := by
  have finished {cs : List Char} {start : Int} {significand : Nat}
      (h : finishFloat negative significand start cs = some (j, rest)) :
      ∃ fs behind tail e, cs = fs ++ behind ∧ (∀ c ∈ fs, c.isDigit = true) ∧
        Behind behind tail e rest ∧
        IsRead negative (natOfDigits significand fs) (start - fs.length + e)
          (start ≤ 0 ∧ natOfDigits significand fs < significandBound) j := by
    obtain ⟨tail, e, behind, quick⟩ := finishFloat_spec h
    refine ⟨[], cs, tail, e, rfl, List.forall_mem_nil _, behind, quick.number, fun kept => ?_⟩
    rw [List.length_nil, Nat.cast_zero, Int.sub_zero]
    exact quick.quick kept.1
  induction cs generalizing significand start with
  | nil =>
    rw [readFraction] at h
    exact finished h
  | cons c cs ih =>
    rw [readFraction] at h
    split at h
    · rename_i digit
      dsimp only at h
      split at h
      · obtain ⟨fs, behind, tail, e, rfl, digits, stop, quick⟩ := ih h
        refine ⟨c :: fs, behind, tail, e, rfl, digit_of_mem_cons digit digits, stop, quick.number,
          fun ⟨low, fits⟩ => ?_⟩
        have power : start - ((c :: fs).length : Int) + e = start - 1 - fs.length + e := by
          rw [List.length_cons]
          push_cast
          omega
        rw [power]
        exact quick.quick ⟨by omega, fits⟩
      · -- the other digits are dropped, and the number does not fit
        rename_i large
        obtain ⟨tail, e, behind, quick⟩ := finishFloat_spec h
        refine ⟨c :: cs.takeWhile Char.isDigit, cs.dropWhile Char.isDigit, tail, e, ?_, ?_, behind,
          quick.number, fun ⟨_, fits⟩ => ?_⟩
        · rw [List.cons_append, List.takeWhile_append_dropWhile]
        · exact digit_of_mem_cons digit fun d hd => List.mem_takeWhile_imp hd
        · have most := le_natOfDigits (10 * significand + digitValue c)
            (cs.takeWhile Char.isDigit)
          rw [Text.natOfDigits_cons] at fits
          exact absurd (most.trans_lt fits) large
    · exact finished h

/-- The digits behind a point, with the point; or nothing. -/
inductive IsFraction : List Char → List Char → Prop where
  | none : IsFraction [] []
  | point {fs : List Char} : (∀ c ∈ fs, c.isDigit = true) → IsFraction ('.' :: fs) fs

/-- Behind the whole part stands a fraction or none. -/
theorem afterWhole_spec {negative : Bool} {significand : Nat} {start : Int} {cs : List Char}
    {j : Json} {rest : List Char}
    (h : afterWhole negative significand start cs = some (j, rest)) :
    ∃ part fs behind tail e, cs = part ++ behind ∧ IsFraction part fs ∧
      Behind behind tail e rest ∧
      IsRead negative (natOfDigits significand fs) (start - fs.length + e)
        (start ≤ 0 ∧ natOfDigits significand fs < significandBound) j := by
  unfold afterWhole at h
  split at h
  · split at h
    · obtain ⟨fs, behind, tail, e, parts, digits, stop, quick⟩ := readFraction_spec h
      exact ⟨'.' :: fs, fs, behind, tail, e, congrArg ('.' :: ·) parts, .point digits, stop, quick⟩
    · cases h
  · cases h
  · obtain ⟨tail, e, behind, quick⟩ := finishFloat_spec h
    refine ⟨[], [], cs, tail, e, rfl, .none, behind, quick.number, fun kept => ?_⟩
    rw [List.length_nil, Nat.cast_zero, Int.sub_zero]
    exact quick.quick kept.1

/-- The digits in front of the point are collected as long as they fit. -/
theorem readWhole_spec {negative : Bool} {cs : List Char} {significand : Nat} {j : Json}
    {rest : List Char} (h : readWhole negative significand cs = some (j, rest)) :
    ∃ ds part fs behind tail e, cs = ds ++ (part ++ behind) ∧ (∀ c ∈ ds, c.isDigit = true) ∧
      (cs.head?.any Char.isDigit = true → ds ≠ []) ∧ IsFraction part fs ∧ Behind behind tail e rest ∧
      IsRead negative (natOfDigits (natOfDigits significand ds) fs) (e - fs.length)
        (natOfDigits (natOfDigits significand ds) fs < significandBound) j := by
  have none : ∀ c ∈ ([] : List Char), c.isDigit = true := List.forall_mem_nil _
  -- a digit that does not fit ends the collecting, and then nothing is claimed of the quick way
  induction cs generalizing significand with
  | nil =>
    rw [readWhole] at h
    obtain ⟨rfl, rfl⟩ := Prod.mk.inj (Option.some.inj h)
    exact ⟨[], [], [], [], [], 0, rfl, none, fun digit => absurd digit Bool.false_ne_true, .none,
      behind_nil _, number?_wholeOf_isSome negative significand, fun _ => .whole rfl⟩
  | cons c cs ih =>
    rw [readWhole] at h
    split at h
    · rename_i digit
      dsimp only at h
      split at h
      · obtain ⟨ds, part, fs, behind, tail, e, parts, digits, -, fraction, stop, quick⟩ := ih h
        exact ⟨c :: ds, part, fs, behind, tail, e, congrArg (c :: ·) parts,
          digit_of_mem_cons digit digits, fun _ => List.cons_ne_nil c ds, fraction, stop, quick⟩
      · rename_i large
        obtain ⟨part, fs, behind, tail, e, parts, fraction, stop, quick⟩ := afterWhole_spec h
        refine ⟨c :: cs.takeWhile Char.isDigit, part, fs, behind, tail, e, ?_, ?_,
          fun _ => List.cons_ne_nil c _, fraction, stop, quick.number, fun fits => ?_⟩
        · rw [← parts, List.cons_append, List.takeWhile_append_dropWhile]
        · exact digit_of_mem_cons digit fun d hd => List.mem_takeWhile_imp hd
        · have most := le_natOfDigits (10 * significand + digitValue c)
            (cs.takeWhile Char.isDigit)
          rw [Text.natOfDigits_cons] at fits
          have all := (most.trans (le_natOfDigits _ fs)).trans_lt fits
          exact absurd all large
    · rename_i other
      split at h
      · obtain ⟨part, fs, behind, tail, e, parts, fraction, stop, quick⟩ := afterWhole_spec h
        refine ⟨[], part, fs, behind, tail, e, parts, none, fun digit => absurd digit other, fraction,
          stop, quick.number, fun fits => ?_⟩
        have exact := quick.quick ⟨Int.le_refl 0, fits⟩
        rw [Int.zero_sub, Int.add_comm] at exact
        exact exact
      · obtain ⟨rfl, rfl⟩ := Prod.mk.inj (Option.some.inj h)
        exact ⟨[], [], [], _, [], 0, rfl, none, fun digit => absurd digit other, .none,
          behind_nil _, number?_wholeOf_isSome negative significand, fun _ => .whole rfl⟩

/-! ## Whole numbers of the text -/

/-- The parts of a number spell its digits and its power of ten. -/
theorem spelled?_parts {ds part fs tail : List Char} {e : Int} (h : ∀ c ∈ ds, c.isDigit = true)
    (filled : ds ≠ []) (fraction : IsFraction part fs) (exponent : IsExponent tail e) :
    spelled? (ds ++ (part ++ tail)) =
      some (natOfDigits (natOfDigits 0 ds) fs, e - (fs.length : Int)) := by
  cases fraction with
  | none =>
    have whole := Binary64.spelled?_whole h filled exponent
    rw [← Int.sub_zero e] at whole
    exact whole
  | point digits =>
    rw [← Text.natOfDigits_append]
    exact Binary64.spelled?_point h filled digits exponent

/-- A text that spells a number: it begins with a digit and has no blank. -/
structure Spells (body : List Char) (digits : Nat) (power : Int) : Prop where
  first : ∃ c cs, body = c :: cs ∧ c.isDigit = true
  solid : ∀ c ∈ body, isBlank c = false
  spelled : spelled? body = some (digits, power)

/-- **A number behind its sign is what the quick way makes of the digits it spells.** -/
theorem readUnsigned_spec {negative : Bool} {cs : List Char} {j : Json} {rest : List Char}
    (h : readUnsigned negative cs = some (j, rest)) :
    ∃ body digits power, cs = body ++ rest ∧ Spells body digits power ∧
      IsRead negative digits power (digits < significandBound) j := by
  have read : readWhole negative 0 cs = some (j, rest) ∧ ∃ c tail, cs = c :: tail ∧
      c.isDigit = true := by
    unfold readUnsigned at h
    split at h
    · split at h
      · cases h
      · exact ⟨h, _, _, rfl, by decide⟩
    · split at h
      · rename_i digit
        exact ⟨h, _, _, rfl, digit⟩
      · cases h
    · cases h
  obtain ⟨whole, c, tail, rfl, digit⟩ := read
  obtain ⟨ds, part, fs, behind, tail', e, parts, digits, filled, fraction, stop, quick⟩ :=
    readWhole_spec whole
  replace filled := filled digit
  refine ⟨ds ++ (part ++ tail'), _, _, ?_, ⟨?_, ?_, spelled?_parts digits filled fraction
    stop.exponent⟩, quick⟩
  · rw [parts, stop.parts, List.append_assoc, List.append_assoc]
  · obtain ⟨d, ds, rfl⟩ := List.exists_cons_of_ne_nil filled
    exact ⟨d, _, rfl, digits d List.mem_cons_self⟩
  · refine List.forall_mem_append.mpr ⟨Text.solid_of_digits digits,
      List.forall_mem_append.mpr ⟨?_, stop.solid⟩⟩
    cases fraction with
    | none => exact List.forall_mem_nil _
    | point digits => exact List.forall_mem_cons.mpr ⟨by decide, Text.solid_of_digits digits⟩

/-! ## The exact cases -/

/-- Decimals that the quick way reads as exactly as any other: whole numbers of 64 bits, and those
whose digits and whose power of ten are both numbers of the format. -/
def IsShort (digits : Nat) (power : Int) : Prop :=
  (power = 0 ∧ digits < significandBound) ∨ (digits ≤ 2 ^ 53 ∧ power.natAbs ≤ 22)

instance (digits : Nat) (power : Int) : Decidable (IsShort digits power) :=
  inferInstanceAs (Decidable (_ ∨ _))

theorem IsShort.digits_lt {digits : Nat} {power : Int} (h : IsShort digits power) :
    digits < significandBound := by
  have bound : 2 ^ 53 < significandBound := by decide
  rcases h with ⟨-, fits⟩ | ⟨small, -⟩
  · exact fits
  · exact small.trans_lt bound

/-- A whole number is the one nearest to its decimal. -/
theorem number?_wholeOf (negative : Bool) {n : Nat} :
    ∃ x, (wholeOf negative n).number? = some x ∧
      x.same (Binary64.round negative n 1) = true := by
  unfold wholeOf
  cases negative with
  | true =>
    rw [if_pos rfl]
    split
    · exact ⟨_, rfl, Binary64.ofInt_same_round true n⟩
    · refine ⟨_, rfl, ?_⟩
      rw [Binary64.ofInt_natCast, Binary64.neg_round]
      exact Binary64.same_self (Binary64.isNaN_roundUnits _ _ _)
  | false =>
    rw [if_neg Bool.false_ne_true]
    split
    · exact ⟨_, rfl, Binary64.ofInt_same_round false n⟩
    · refine ⟨_, rfl, ?_⟩
      rw [Binary64.ofInt_natCast]
      exact Binary64.same_self (Binary64.isNaN_roundUnits _ _ _)

/-- One step of scaling, as no exponent of a short decimal needs more. -/
theorem scaled_eq {fuel : Nat} {x : Binary64} {power : Int} (small : power.natAbs ≤ 308) :
    scaled (fuel + 1) x power =
      if 0 ≤ power then
        let y := x.mul (Binary64.ofDecimal false 1 power.natAbs)
        if y.isFinite then some y else none
      else some (x.div (Binary64.ofDecimal false 1 power.natAbs)) := by
  rw [scaled, if_pos small]

/-- Digits and a power of ten that are exact are rounded once. -/
theorem scaled_short {fuel digits : Nat} {power : Int} {x : Binary64}
    (short : IsShort digits power)
    (h : scaled (fuel + 1) (Binary64.ofInt digits) power = some x) :
    x = Binary64.ofDecimal false digits power := by
  rcases short with ⟨rfl, fits⟩ | ⟨few, small⟩
  · -- a whole number is multiplied by one
    have one := Binary64.mul_one (Binary64.isFinite_ofInt fits)
    have none : ((0 : Int).natAbs : Int) = 0 := rfl
    rw [scaled_eq (by decide), if_pos (by decide), none, one] at h
    dsimp only at h
    split at h
    · rw [Binary64.ofDecimal_whole, ← Binary64.ofInt_natCast]
      exact (Option.some.inj h).symm
    · cases h
  · obtain ⟨exact, sign⟩ := Binary64.isExactly_ofInt few
    obtain ⟨tens, positive⟩ := Binary64.isExactly_powTen small
    rw [scaled_eq (by omega)] at h
    split at h
    · rename_i up
      obtain ⟨k, rfl⟩ : ∃ k : Nat, power = k := ⟨power.toNat, by omega⟩
      rw [Int.natAbs_natCast] at small tens positive h
      dsimp only at h
      split at h
      · rw [Binary64.ofDecimal_up false digits (by omega), ← Option.some.inj h, exact.mul tens, sign,
          positive]
        rfl
      · cases h
    · rename_i down
      obtain ⟨k, rfl⟩ : ∃ k : Nat, power = -(k : Int) := ⟨power.natAbs, by omega⟩
      rw [Int.natAbs_neg, Int.natAbs_natCast] at small tens positive h
      have tenfold : 0 < 10 ^ k := Nat.pow_pos (by decide)
      rw [Binary64.ofDecimal_down false digits (by omega) (by omega), ← Option.some.inj h,
        exact.div tens tenfold, sign, positive]
      rfl

/-- **A short decimal becomes the number nearest to it.** -/
theorem Quick.same_ofDecimal {negative : Bool} {digits : Nat} {power : Int} {j : Json}
    (quick : Quick negative digits power j) (short : IsShort digits power) :
    ∃ x, j.number? = some x ∧ x.same (Binary64.ofDecimal negative digits power) = true := by
  cases quick with
  | whole whole =>
    subst whole
    rw [Binary64.ofDecimal_whole]
    exact number?_wholeOf negative
  | vanished h =>
    rcases h with rfl | beyond
    · refine ⟨_, rfl, ?_⟩
      rw [Binary64.ofDecimal_zero]
      exact Binary64.same_self rfl
    · exfalso
      rcases short with ⟨rfl, -⟩ | ⟨-, small⟩ <;> omega
  | scaled h =>
    obtain ⟨x, read, rfl⟩ := Option.map_eq_some_iff.mp h
    have signed : (if negative then x.neg else x) = Binary64.ofDecimal negative digits power := by
      rw [scaled_short short read]
      cases negative with
      | true =>
        rw [if_pos rfl]
        exact Binary64.neg_ofDecimal digits power
      | false => exact if_neg Bool.false_ne_true
    rw [signed]
    exact ⟨_, rfl, Binary64.same_self (Binary64.isNaN_ofDecimal _ _ _)⟩

/-! ## Texts that are numbers -/

/-- **A text that holds a number is, between blanks, a sign and a number spelled out**, and the
number is what the quick way makes of its digits as long as they fit. -/
theorem read?_number {s : String} {j : Json} {x : Binary64} (h : read? s = some j)
    (number : j.number? = some x) :
    ∃ negative body digits power, Text.trim s.toList = signChars negative ++ body ∧
      Spells body digits power ∧
      (digits < significandBound → Quick negative digits power j) := by
  obtain ⟨rest, opening, behind⟩ := read?_eq_some h
  cases opening with
  | @number negative tail front unsigned =>
    obtain ⟨body, digits, power, rfl, spells, quick⟩ := readUnsigned_spec unsigned
    refine ⟨negative, body, digits, power, ?_, spells, quick.quick⟩
    rw [← List.append_assoc] at front
    refine trim_of_skipSpace front behind ?_
    obtain ⟨c, cs, rfl, -⟩ := spells.first
    exact Text.tight_of_forall (List.append_ne_nil_of_right_ne_nil _ (List.cons_ne_nil c cs))
      (List.forall_mem_append.mpr ⟨Binary64.isBlank_signChars negative, spells.solid⟩)
  | text _ _ other | null _ other | bool _ other | array other | object other =>
    rw [other] at number
    cases number

end Polystore.Json
