import Mathlib
import Polystore.Binary64.Read
import Polystore.Proofs.Binary64.Nearest
import Polystore.Proofs.Text.Digits
import Polystore.Proofs.Text.Tight

/-!
# Numbers that are read

A decimal is read as the number in whose interval it lies, whatever its digits and its exponent are:
the exponents that are settled without a calculation lie outside of all intervals. From this it
follows what is read from digits with a point among them, and that whole numbers are read as they
are converted.
-/

namespace Polystore

namespace Text

theorem natOfDigits_append (acc : Nat) (cs ds : List Char) :
    natOfDigits acc (cs ++ ds) = natOfDigits (natOfDigits acc cs) ds := by
  induction cs generalizing acc with
  | nil => rfl
  | cons c cs ih => exact ih _

theorem natOfDigits_natDigits (n : Nat) : natOfDigits 0 (natDigits n) = n := by
  rw [natOfDigits_eq, natDigits, Nat.ofDigitChars_ten_toDigits]

theorem natOfDigits_zeros (acc n : Nat) :
    natOfDigits acc (List.replicate n '0') = acc * 10 ^ n := by
  induction n generalizing acc with
  | zero =>
    rw [Nat.pow_zero, Nat.mul_one]
    rfl
  | succ n ih =>
    rw [List.replicate_succ, natOfDigits_cons, ih, Nat.pow_succ]
    show (10 * acc + 0) * 10 ^ n = acc * (10 ^ n * 10)
    ring

end Text

namespace Binary64

/-! ## Finite numbers -/

/-- No magnitude below that of infinity has more units. -/
theorem unitsOf_succ_le {m : Nat} (h : m < infiniteMagnitude) :
    unitsOf (m + 1) ≤ unitsOf infiniteMagnitude :=
  unitsOf_strictMono.monotone h

theorem isNaN_roundUnits (negative : Bool) (num den : Nat) :
    (roundUnits negative num den).isNaN = false := by
  unfold roundUnits
  dsimp only
  split
  · rename_i below
    exact decide_eq_false (Nat.not_lt.mpr (Nat.le_of_lt below))
  · rfl

theorem isNaN_ofInt (n : Int) : (ofInt n).isNaN = false := isNaN_roundUnits _ _ 1

/-- What is a number is the same as itself. -/
theorem same_self {x : Binary64} (h : x.isNaN = false) : x.same x = true := by
  have place : x.place = some (if x.negative then -(x.magnitude : Int) else x.magnitude) := by
    rw [Binary64.place, h]
    rfl
  rw [same, compare, place]
  simp

/-! ## Decimals -/

/-- The units of a decimal. -/
def unitsOfDecimal (digits : Nat) (exponent : Int) : ℚ :=
  digits * (10 : ℚ) ^ exponent * unitsPerOne

theorem unitsPerOne_pos : 0 < unitsPerOne := by
  rw [unitsPerOne]
  positivity

/-- The digits of a number are fewer than a third of its bits suggest, and one more. -/
theorem lt_pow_log2 (n : Nat) : n < 10 ^ (Nat.log2 n / 3 + 1) := by
  have bits : n < 2 ^ (Nat.log2 n + 1) := Nat.lt_log2_self
  have groups : 2 ^ (Nat.log2 n + 1) ≤ 2 ^ (3 * (Nat.log2 n / 3 + 1)) :=
    Nat.pow_le_pow_right (by decide) (by omega)
  rw [Nat.pow_mul] at groups
  exact bits.trans_le (groups.trans (Nat.pow_le_pow_left (by decide) _))

theorem thousand_pow_le {n k : Nat} (h : 3 * n ≤ k) : 1000 ^ n ≤ 10 ^ k := by
  have power : (10 ^ 3) ^ n ≤ 10 ^ k := by
    rw [← Nat.pow_mul]
    exact Nat.pow_le_pow_right (by decide) h
  exact power

/-- A decimal above half of the least magnitude does not vanish for its exponent. -/
theorem lead_of_half_le {digits : Nat} {exponent : Int}
    (h : (1 : ℚ) ≤ 2 * unitsOfDecimal digits exponent) :
    ¬ exponent + (Nat.log2 digits / 3 : Nat) < -1000 := by
  intro small
  obtain ⟨k, rfl⟩ : ∃ k : Nat, exponent = -(k : Int) := ⟨(-exponent).toNat, by omega⟩
  have scale : (0 : ℚ) < 10 ^ k := by positivity
  have bound : 10 ^ k ≤ 2 * digits * unitsPerOne := by
    rw [unitsOfDecimal, zpow_neg, zpow_natCast] at h
    have cleared : (1 : ℚ) * 10 ^ k ≤ 2 * (digits * (10 ^ k)⁻¹ * unitsPerOne) * 10 ^ k :=
      mul_le_mul_of_nonneg_right h scale.le
    have cancelled : 2 * ((digits : ℚ) * (10 ^ k)⁻¹ * unitsPerOne) * 10 ^ k =
        2 * digits * unitsPerOne := by
      rw [mul_right_comm (digits : ℚ), ← mul_assoc, ← mul_assoc, mul_assoc,
        inv_mul_cancel₀ scale.ne', mul_one]
    rw [one_mul, cancelled] at cleared
    exact_mod_cast cleared
  have large : 10 ^ (Nat.log2 digits / 3 + 1) * 1000 ^ 133 ≤ 10 ^ k := by
    obtain ⟨j, rfl⟩ : ∃ j, k = Nat.log2 digits / 3 + 1 + j := Nat.exists_eq_add_of_le (by omega)
    rw [Nat.pow_add 10 _ j]
    exact Nat.mul_le_mul_left _ (thousand_pow_le (by omega))
  have units : 2 * unitsPerOne ≤ 1000 ^ 133 := by decide +kernel
  have total : 2 * digits * unitsPerOne <
      10 ^ (Nat.log2 digits / 3 + 1) * 1000 ^ 133 := by
    calc 2 * digits * unitsPerOne = digits * (2 * unitsPerOne) := by ring
      _ ≤ digits * 1000 ^ 133 := Nat.mul_le_mul_left digits units
      _ < 10 ^ (Nat.log2 digits / 3 + 1) * 1000 ^ 133 :=
        Nat.mul_lt_mul_of_pos_right (lt_pow_log2 digits) (by decide)
  exact absurd (total.trans_le large) (Nat.not_lt.mpr bound)

/-- A decimal below the units of infinity does not overflow for its exponent. -/
theorem exponent_le_of_le {digits : Nat} {exponent : Int} (some : digits ≠ 0)
    (h : unitsOfDecimal digits exponent ≤ unitsOf infiniteMagnitude) : exponent ≤ 400 := by
  by_contra large
  obtain ⟨k, rfl⟩ : ∃ k : Nat, exponent = (k : Int) := ⟨exponent.toNat, by omega⟩
  have bound : digits * 10 ^ k * unitsPerOne ≤ unitsOf infiniteMagnitude := by
    rw [unitsOfDecimal, zpow_natCast] at h
    exact_mod_cast h
  have power : 1000 ^ 133 ≤ 10 ^ k := thousand_pow_le (by omega)
  have least : 1000 ^ 133 ≤ digits * 10 ^ k :=
    power.trans (Nat.le_mul_of_pos_left _ (Nat.pos_of_ne_zero some))
  have past : unitsOf infiniteMagnitude < 1000 ^ 133 * unitsPerOne := by decide +kernel
  exact absurd (past.trans_le (Nat.mul_le_mul_right unitsPerOne least)) (Nat.not_lt.mpr bound)

/-- **A decimal is read as the number in whose interval it lies.** -/
theorem ofDecimal_of_rounds {x : Binary64} {digits : Nat} {exponent : Int}
    (finite : x.isFinite = true) (positive : 0 < x.magnitude)
    (h : Rounds x.magnitude (unitsOfDecimal digits exponent)) :
    ofDecimal x.negative digits exponent = x := by
  have below : x.magnitude < infiniteMagnitude := of_decide_eq_true finite
  have own : (1 : ℚ) ≤ unitsOf x.magnitude := by
    exact_mod_cast unitsOf_pos positive
  have half : (1 : ℚ) ≤ 2 * unitsOfDecimal digits exponent := by
    have low := h.low
    have previous : (0 : ℚ) ≤ unitsOf (x.magnitude - 1) := Nat.cast_nonneg _
    linarith
  have some : digits ≠ 0 := by
    rintro rfl
    rw [unitsOfDecimal, Nat.cast_zero, zero_mul, zero_mul, mul_zero] at half
    linarith
  have top : unitsOfDecimal digits exponent ≤ unitsOf infiniteMagnitude := by
    have high := h.high
    have next : (unitsOf (x.magnitude + 1) : ℚ) ≤ unitsOf infiniteMagnitude := by
      exact_mod_cast unitsOf_succ_le below
    have step : (unitsOf x.magnitude : ℚ) ≤ unitsOf (x.magnitude + 1) := by
      exact_mod_cast (unitsOf_lt_succ _).le
    linarith
  unfold ofDecimal
  dsimp only
  have lead := lead_of_half_le half
  have bound := exponent_le_of_le some top
  rw [if_neg (by
    rw [Bool.or_eq_true, decide_eq_true_eq, decide_eq_true_eq, not_or]
    exact ⟨some, lead⟩), if_neg (by omega)]
  split
  · rename_i whole
    obtain ⟨k, rfl⟩ : ∃ k : Nat, exponent = (k : Int) := ⟨exponent.toNat, by omega⟩
    refine roundUnits_of_rounds (by decide) finite ?_
    have same : ((digits * 10 ^ k * unitsPerOne : Nat) : ℚ) / (1 : Nat) =
        unitsOfDecimal digits k := by
      rw [unitsOfDecimal, zpow_natCast]
      push_cast
      ring
    rw [Int.toNat_natCast, same]
    exact h
  · rename_i part
    obtain ⟨k, rfl⟩ : ∃ k : Nat, exponent = -(k : Int) := ⟨(-exponent).toNat, by omega⟩
    refine roundUnits_of_rounds (Nat.pow_pos (by decide)) finite ?_
    have same : ((digits * unitsPerOne : Nat) : ℚ) / (10 ^ k : Nat) =
        unitsOfDecimal digits (-(k : Int)) := by
      rw [unitsOfDecimal, zpow_neg, zpow_natCast]
      push_cast
      ring
    rw [Int.neg_neg, Int.toNat_natCast, same]
    exact h

/-- A decimal without digits other than zero is read as zero. -/
theorem ofDecimal_zero (negative : Bool) (exponent : Int) :
    ofDecimal negative 0 exponent = ⟨negative, 0, by decide⟩ := rfl

theorem round_zero (negative : Bool) {den : Nat} (positive : 0 < den) :
    round negative 0 den = ⟨negative, 0, by decide⟩ := by
  have one : round negative 0 den = round negative 0 1 := by
    rw [round, round, Nat.zero_mul]
    exact roundUnits_congr negative positive Nat.one_pos (by rw [Nat.zero_mul, Nat.zero_mul])
  rw [one, round, Nat.zero_mul]
  rfl

/-- A decimal is rounded once, the power of ten multiplied out. -/
theorem ofDecimal_up (negative : Bool) (digits : Nat) {k : Nat} (small : k ≤ 400) :
    ofDecimal negative digits k = round negative (digits * 10 ^ k) 1 := by
  rcases Nat.eq_zero_or_pos digits with rfl | positive
  · rw [ofDecimal_zero, Nat.zero_mul, round_zero negative Nat.one_pos]
  · have some : ¬ (digits = 0 || (k : Int) + (Nat.log2 digits / 3 : Nat) < -1000) = true := by
      rw [Bool.or_eq_true, decide_eq_true_eq, decide_eq_true_eq]
      omega
    unfold ofDecimal
    dsimp only
    rw [if_neg some, if_neg (by omega), if_pos (by omega), Int.toNat_natCast]

/-- A decimal without an exponent is rounded once. -/
theorem ofDecimal_whole (negative : Bool) (n : Nat) :
    ofDecimal negative n 0 = round negative n 1 := by
  have whole := ofDecimal_up negative n (k := 0) (by decide)
  rw [Nat.pow_zero, Nat.mul_one] at whole
  exact whole

/-! ## Text -/

/-- The digits of a number without its sign, as one whole number, and the power of ten that they
count: the exponent less the digits behind the point. -/
def spelled? (cs : List Char) : Option (Nat × Int) :=
  let whole := cs.takeWhile Char.isDigit
  let rest := cs.dropWhile Char.isDigit
  let afterPoint := match rest with
    | '.' :: tail => tail
    | _ => []
  let fraction := afterPoint.takeWhile Char.isDigit
  let tail := match rest with
    | '.' :: tail => tail.dropWhile Char.isDigit
    | _ => rest
  if whole.isEmpty && fraction.isEmpty then none
  else (readExponent tail).map fun exponent =>
    (Text.natOfDigits (Text.natOfDigits 0 whole) fraction, exponent - (fraction.length : Int))

/-- What begins with a digit is none of the words, and is read by its digits. -/
theorem readUnsigned_of_digit {c : Char} (hc : c.isDigit = true) (cs : List Char)
    (negative : Bool) :
    readUnsigned negative (c :: cs) =
      (spelled? (c :: cs)).map fun d => ofDecimal negative d.1 d.2 := by
  have first : c.toLower ≠ 'i' ∧ c.toLower ≠ 'n' := by
    have digit := Text.mem_of_isDigit hc
    change c ∈ ['0', '1', '2', '3', '4', '5', '6', '7', '8', '9'] at digit
    simp only [List.mem_cons, List.not_mem_nil, or_false] at digit
    rcases digit with rfl | rfl | rfl | rfl | rfl | rfl | rfl | rfl | rfl | rfl <;> decide
  have word {d : Char} (ds : List Char) (ne : c.toLower ≠ d) :
      (c.toLower :: cs.map Char.toLower == d :: ds) = false := by
    rw [List.cons_beq_cons, beq_false_of_ne ne, Bool.false_and]
  have inf := word "nf".toList first.1
  have infinity := word "nfinity".toList first.1
  have nan := word "an".toList first.2
  unfold readUnsigned
  rw [List.map_cons]
  dsimp only
  rw [show "inf".toList = 'i' :: "nf".toList from rfl, inf,
    show "infinity".toList = 'i' :: "nfinity".toList from rfl, infinity,
    show "nan".toList = 'n' :: "an".toList from rfl, nan, if_neg (by decide), if_neg (by decide)]
  have read (empty : Bool) (exponent : Option Int) (digits : Nat) (places : Int) :
      (if empty then none
        else exponent.map fun e => ofDecimal negative digits (e - places)) =
      (if empty then none else exponent.map fun e => (digits, e - places)).map fun d =>
        ofDecimal negative d.1 d.2 := by
    cases empty <;> cases exponent <;> rfl
  exact read _ _ _ _

/-- Digits in front of something else are taken off. -/
theorem takeWhile_digits {ds : List Char} (h : ∀ c ∈ ds, c.isDigit = true) {rest : List Char}
    (stop : rest.head?.all fun c => !c.isDigit) :
    (ds ++ rest).takeWhile Char.isDigit = ds ∧ (ds ++ rest).dropWhile Char.isDigit = rest := by
  induction ds with
  | nil =>
    cases rest with
    | nil => exact ⟨rfl, rfl⟩
    | cons c rest =>
      have other : c.isDigit = false := by simpa using stop
      rw [List.nil_append, List.takeWhile_cons, List.dropWhile_cons, other]
      exact ⟨rfl, rfl⟩
  | cons d ds ih =>
    have digit := h d List.mem_cons_self
    obtain ⟨taken, dropped⟩ := ih fun c hc => h c (List.mem_cons_of_mem d hc)
    rw [List.cons_append, List.takeWhile_cons, List.dropWhile_cons, digit]
    exact ⟨congrArg (d :: ·) taken, dropped⟩

/-- What may stand behind the digits of a number: nothing, or an exponent. -/
structure IsExponent (tail : List Char) (e : Int) : Prop where
  read : readExponent tail = some e
  stop : tail.head?.all fun c => !c.isDigit && c != '.'

theorem isExponent_nil : IsExponent [] 0 := ⟨rfl, rfl⟩

theorem IsExponent.head_not_digit {tail : List Char} {e : Int} (h : IsExponent tail e) :
    tail.head?.all fun c => !c.isDigit := by
  have stop := h.stop
  cases tail with
  | nil => rfl
  | cons c tail => exact (Bool.and_eq_true_iff.mp stop).1

/-- Digits spell their number, and an exponent behind them counts. -/
theorem spelled?_whole {ds tail : List Char} {e : Int} (h : ∀ c ∈ ds, c.isDigit = true)
    (filled : ds ≠ []) (behind : IsExponent tail e) :
    spelled? (ds ++ tail) = some (Text.natOfDigits 0 ds, e) := by
  have taken := takeWhile_digits h behind.head_not_digit
  have digits : ds.isEmpty = false := List.isEmpty_eq_false_iff.mpr filled
  -- the digits are not followed by a point, so that the reader takes no fraction
  have noPoint : ∀ rest, tail ≠ '.' :: rest := by
    rintro rest rfl
    exact absurd behind.stop Bool.false_ne_true
  rw [spelled?, taken.1, taken.2, digits]
  simp only
  rw [behind.read]
  show some (_, e - 0) = _
  rw [Int.sub_zero]
  rfl

/-- Digits with a point among them spell the number of all digits, counted from the last one. -/
theorem spelled?_point {ds es tail : List Char} {e : Int} (hd : ∀ c ∈ ds, c.isDigit = true)
    (filled : ds ≠ []) (he : ∀ c ∈ es, c.isDigit = true) (behind : IsExponent tail e) :
    spelled? (ds ++ '.' :: (es ++ tail)) =
      some (Text.natOfDigits 0 (ds ++ es), e - (es.length : Int)) := by
  have stop : ('.' :: (es ++ tail)).head?.all (fun c => !c.isDigit) = true := rfl
  have taken := takeWhile_digits hd stop
  have digits : ds.isEmpty = false := List.isEmpty_eq_false_iff.mpr filled
  have fraction := takeWhile_digits he behind.head_not_digit
  rw [spelled?, taken.1, taken.2, digits]
  simp only
  rw [fraction.1, fraction.2, behind.read, Text.natOfDigits_append]
  rfl

/-! ## Signs -/

/-- The mark of a sign in front of a number. -/
def signChars (negative : Bool) : List Char := if negative then ['-'] else []

theorem isBlank_signChars (negative : Bool) : ∀ c ∈ signChars negative, Text.isBlank c = false := by
  cases negative with
  | true => exact List.forall_mem_singleton.mpr (by decide)
  | false => exact List.forall_mem_nil _

/-- A sign is taken off in front of a number that does not begin with one. -/
theorem read?_sign (negative : Bool) {c : Char} (hc : c ≠ '-' ∧ c ≠ '+') (cs : List Char) :
    read? (signChars negative ++ c :: cs) = readUnsigned negative (c :: cs) := by
  cases negative with
  | true => rfl
  | false =>
    show read? (c :: cs) = _
    unfold read?
    split
    · rename_i same
      exact absurd (List.cons.inj same).1 hc.1
    · rename_i same
      exact absurd (List.cons.inj same).1 hc.2
    · rfl

theorem ne_sign_of_isDigit {c : Char} (hc : c.isDigit = true) : c ≠ '-' ∧ c ≠ '+' := by
  constructor <;> (rintro rfl; exact absurd hc (by decide))

/-- A number is read by its sign and its digits. -/
theorem read?_digits (negative : Bool) {c : Char} (hc : c.isDigit = true) (cs : List Char) :
    read? (signChars negative ++ c :: cs) =
      (spelled? (c :: cs)).map fun d => ofDecimal negative d.1 d.2 := by
  rw [read?_sign negative (ne_sign_of_isDigit hc), readUnsigned_of_digit hc]

/-- What begins like none of the numbers and is none of the words is not read. -/
theorem read?_eq_none {c : Char} {cs : List Char} (other : c ∉ "-+.0123456789".toList)
    (strange : (c :: cs).map Char.toLower ∉
      ["inf".toList, "infinity".toList, "nan".toList]) : read? (c :: cs) = none := by
  have sign : c ≠ '-' ∧ c ≠ '+' := by
    constructor <;> (rintro rfl; exact other (by decide))
  have noPoint : ∀ rest, c :: cs ≠ '.' :: rest := by
    intro rest same
    obtain ⟨rfl, -⟩ := List.cons.inj same
    exact other (by decide)
  have digit : c.isDigit = false := by
    rw [Bool.eq_false_iff]
    intro digit
    exact other (List.mem_cons_of_mem _ (List.mem_cons_of_mem _ (List.mem_cons_of_mem _
      (Text.mem_of_isDigit digit))))
  have whole : (c :: cs).takeWhile Char.isDigit = [] := by
    rw [List.takeWhile_cons, digit]
    rfl
  have rest : (c :: cs).dropWhile Char.isDigit = c :: cs := by
    rw [List.dropWhile_cons, digit]
    rfl
  have plain := read?_sign false sign cs
  rw [signChars, if_neg Bool.false_ne_true, List.nil_append] at plain
  simp only [List.mem_cons, List.not_mem_nil, or_false, not_or] at strange
  -- neither a word, nor a digit in front of a point or behind it
  rw [plain, readUnsigned, whole, rest]
  simp only [beq_iff_eq, strange, Bool.or_eq_true, or_self, if_false]
  rfl

/-- A text that is read has nothing to trim when it has no blank. -/
theorem tight_of_read? {cs : List Char} {x : Binary64} (h : read? cs = some x)
    (solid : ∀ c ∈ cs, Text.isBlank c = false) : Text.Tight cs := by
  refine Text.tight_of_forall ?_ solid
  rintro rfl
  cases h

/-! ## Whole numbers -/

/-- Digits behind a sign are read by rounding them once. -/
theorem read?_whole (negative : Bool) {ds : List Char} (h : ∀ c ∈ ds, c.isDigit = true)
    (filled : ds ≠ []) :
    read? (signChars negative ++ ds) = some (round negative (Text.natOfDigits 0 ds) 1) := by
  obtain ⟨c, cs, rfl⟩ := List.exists_cons_of_ne_nil filled
  have whole := spelled?_whole h filled isExponent_nil
  rw [List.append_nil] at whole
  rw [read?_digits negative (h c List.mem_cons_self), whole, Option.map_some,
    ofDecimal_whole]

/-- An integer is read from its digits as it is converted. -/
theorem read?_intDigits (n : Int) : read? (Text.intDigits n) = some (ofInt n) := by
  have signed : Text.intDigits n = signChars (n < 0) ++ Text.natDigits n.natAbs := by
    unfold Text.intDigits signChars
    by_cases negative : n < 0
    · simp [negative]
    · simp [negative]
  rw [signed, read?_whole _ (fun _ hc => Text.isDigit_of_mem_natDigits hc) Nat.toDigits_ne_nil,
    Text.natOfDigits_natDigits]
  rfl

theorem ofInt_natCast (n : Nat) : ofInt (n : Int) = round false n 1 := by
  have sign : ¬ (n : Int) < 0 := by omega
  rw [ofInt, Int.natAbs_natCast, decide_eq_false sign]

/-- Zeros of both signs are the same, and so are roundings of a number and of its opposite written
with a sign. -/
theorem ofInt_same_round (negative : Bool) (n : Nat) :
    (ofInt (if negative then -(n : Int) else n)).same (round negative n 1) = true := by
  cases negative with
  | false =>
    show (ofInt (n : Int)).same _ = true
    rw [ofInt_natCast]
    exact same_self (isNaN_roundUnits _ _ 1)
  | true =>
    cases n with
    | zero => decide +kernel
    | succ n =>
      have same : ofInt (-((n + 1 : Nat) : Int)) = round true (n + 1) 1 := by
        have sign : -((n + 1 : Nat) : Int) < 0 := by omega
        rw [ofInt, Int.natAbs_neg, Int.natAbs_natCast, decide_eq_true sign]
      show (ofInt (-((n + 1 : Nat) : Int))).same _ = true
      rw [same]
      exact same_self (isNaN_roundUnits _ _ 1)

theorem readDigits_eq_some {cs : List Char} {n : Nat} (h : Text.readDigits cs = some n) :
    cs ≠ [] ∧ (∀ c ∈ cs, c.isDigit = true) ∧ n = Text.natOfDigits 0 cs := by
  rw [Text.readDigits] at h
  split at h
  · cases h
  · rename_i digits
    rw [Bool.or_eq_true, not_or, Bool.not_eq_true, Bool.not_eq_true, Bool.not_eq_false'] at digits
    exact ⟨List.isEmpty_eq_false_iff.mp digits.1, List.all_eq_true.mp digits.2,
      (Option.some.inj h).symm⟩

/-- What is read as an integer is read as a number the same as it. -/
theorem read?_of_readInt {cs : List Char} {n : Int} (h : Text.readInt cs = some n) :
    ∃ x, read? cs = some x ∧ (ofInt n).same x = true := by
  unfold Text.readInt at h
  split at h
  · rename_i rest
    obtain ⟨k, cast, rfl⟩ := Option.map_eq_some_iff.mp h
    obtain ⟨n, digits, same⟩ := Option.bind_eq_some_iff.mp cast
    obtain rfl : (n : Int) = k := Option.some.inj same
    obtain ⟨filled, all, rfl⟩ := readDigits_eq_some digits
    exact ⟨_, read?_whole true all filled, ofInt_same_round true _⟩
  · obtain ⟨k, read, rfl⟩ := Option.map_eq_some_iff.mp h
    unfold Text.readNat at read
    split at read
    · rename_i rest _
      obtain ⟨filled, all, rfl⟩ := readDigits_eq_some read
      have unsigned : read? ('+' :: rest) = read? (signChars false ++ rest) := by
        obtain ⟨c, cs, rfl⟩ := List.exists_cons_of_ne_nil filled
        rw [read?_sign false (ne_sign_of_isDigit (all c List.mem_cons_self))]
        rfl
      exact ⟨_, unsigned.trans (read?_whole false all filled), ofInt_same_round false _⟩
    · obtain ⟨filled, all, rfl⟩ := readDigits_eq_some read
      exact ⟨_, read?_whole false all filled, ofInt_same_round false _⟩

end Binary64

end Polystore
