import Mathlib
import Polystore.Calendar.Read
import Polystore.Proofs.Binary64.Reading
import Polystore.Proofs.Calendar.Date
import Polystore.Proofs.Text.Tight

/-!
# Written instants read back

The text of an instant has every number in a fixed width, so the strict manner takes them off one
by one and finds the instant again, its fraction and a leap second included. It has to be an instant
whose year four digits hold: another year is written with a sign, which no manner admits in front
of a zone.
-/

namespace Polystore.Calendar

open Polystore.Text (natDigits natOfDigits paddedDigits isBlank Tight)

/-! ## Numbers of a fixed width -/

theorem isDigit_of_mem_paddedDigits {width n : Nat} {c : Char} (h : c ∈ paddedDigits width n) :
    c.isDigit = true := by
  rcases List.mem_append.mp h with zero | digit
  · rw [List.eq_of_mem_replicate zero]
    decide
  · exact Text.isDigit_of_mem_natDigits digit

theorem length_paddedDigits {width n : Nat} (positive : 0 < width) (h : n < 10 ^ width) :
    (paddedDigits width n).length = width := by
  have short : (natDigits n).length ≤ width := Nat.toDigits_length 10 n width positive h
  rw [paddedDigits, List.length_append, List.length_replicate]
  omega

theorem natOfDigits_paddedDigits (width n : Nat) : natOfDigits 0 (paddedDigits width n) = n := by
  rw [paddedDigits, Text.natOfDigits_append, Text.natOfDigits_zeros, Nat.zero_mul,
    Text.natOfDigits_natDigits]

/-- A number is taken off again at its width. -/
theorem takeDigits_padded {width n : Nat} (positive : 0 < width) (h : n < 10 ^ width)
    (rest : List Char) : takeDigits width (paddedDigits width n ++ rest) = some (n, rest) := by
  have length := length_paddedDigits positive h
  have digits : (paddedDigits width n).all Char.isDigit = true :=
    List.all_eq_true.mpr fun c hc => isDigit_of_mem_paddedDigits hc
  rw [takeDigits, List.take_left' length, List.drop_left' length, length, digits,
    natOfDigits_paddedDigits, beq_self_eq_true]
  rfl

/-- The digits behind a point count for nanoseconds by their width. -/
theorem takeNanos_padded {width n : Nat} (positive : 0 < width) (most : width ≤ 9)
    (h : n < 10 ^ width) {rest : List Char} (stop : rest.head?.all fun c => !c.isDigit) :
    takeNanos (paddedDigits width n ++ rest) = some (n * 10 ^ (9 - width), rest) := by
  have length := length_paddedDigits positive h
  have taken := Binary64.takeWhile_digits
    (fun c (hc : c ∈ paddedDigits width n) => isDigit_of_mem_paddedDigits hc) stop
  have filled : (paddedDigits width n).isEmpty = false := by
    rw [List.isEmpty_eq_false_iff, ← List.length_pos_iff, length]
    exact positive
  rw [takeNanos, taken.1, taken.2]
  dsimp only
  rw [filled, List.take_of_length_le (by omega), natOfDigits_paddedDigits, length]
  rfl

/-- The fraction of a second is written with as many digits as it needs. -/
theorem takeFraction_chars {nanos : Nat} (h : nanos < nanosPerSecond) {c : Char}
    (hc : c.isDigit = false ∧ c ≠ '.') (rest : List Char) :
    takeFraction (Instant.fractionChars .shortest nanos ++ c :: rest) = some (nanos, c :: rest) := by
  have bound : nanos < 10 ^ 9 := h
  have stop : ((c :: rest).head?.all fun c => !c.isDigit) = true := by
    show (!c.isDigit) = true
    rw [hc.1]
    rfl
  have behind {width n : Nat} (positive : 0 < width) (most : width ≤ 9) (small : n < 10 ^ width)
      (value : n * 10 ^ (9 - width) = nanos) :
      takeFraction ('.' :: paddedDigits width n ++ c :: rest) = some (nanos, c :: rest) := by
    rw [← value]
    exact takeNanos_padded positive most small stop
  unfold Instant.fractionChars
  dsimp only
  split_ifs with none milli micro
  · rw [beq_iff_eq] at none
    subst none
    show takeFraction (c :: rest) = some (0, c :: rest)
    unfold takeFraction
    split
    · rename_i point
      exact absurd (List.cons.inj point).1 hc.2
    · rfl
  · rw [beq_iff_eq] at milli
    exact behind (by decide) (by decide) (by omega) (by omega)
  · rw [beq_iff_eq] at micro
    exact behind (by decide) (by decide) (by omega) (by omega)
  · exact behind (by decide) (by decide) bound (by omega)

/-! ## The parts of an instant -/

/-- The second and the nanoseconds that the text of an instant shows: a leap second is the
sixtieth. -/
def Instant.shown (t : Instant) : Nat × Nat :=
  if nanosPerSecond ≤ t.nanos then (t.secondOfDay % 60 + 1, t.nanos - nanosPerSecond)
  else (t.secondOfDay % 60, t.nanos)

theorem Instant.shown_lt (t : Instant) : t.shown.1 < 100 ∧ t.shown.2 < nanosPerSecond := by
  have bound := t.nanos_lt
  unfold shown
  split <;> constructor <;> dsimp only <;> omega

/-- What the text shows of the time of day is the time of day. -/
theorem timeOfDay_shown (t : Instant) :
    timeOfDay (t.secondOfDay / 3600) (t.secondOfDay / 60 % 60) t.shown.1 t.shown.2 =
      some (t.secondOfDay, t.nanos) := by
  have day : t.secondOfDay < 86400 := by
    rw [Instant.secondOfDay]
    omega
  have parts : 3600 * (t.secondOfDay / 3600) + 60 * (t.secondOfDay / 60 % 60) +
      t.secondOfDay % 60 = t.secondOfDay := by omega
  have inside : ¬ (23 < t.secondOfDay / 3600 || 59 < t.secondOfDay / 60 % 60 ||
      60 < t.shown.1) = true := by
    have second : t.shown.1 ≤ 60 := by
      unfold Instant.shown
      split <;> dsimp only <;> omega
    simp only [Bool.or_eq_true, decide_eq_true_eq]
    omega
  rw [timeOfDay, if_neg inside]
  by_cases leap : nanosPerSecond ≤ t.nanos
  · -- a leap second follows the last second of a minute
    have last : t.secondOfDay % 60 = 59 := by
      have minute := t.leap_at_minute_end leap
      rw [Instant.secondOfDay]
      omega
    have shown : t.shown = (60, t.nanos - nanosPerSecond) := by
      rw [Instant.shown, if_pos leap, last]
    rw [last] at parts
    rw [shown, beq_self_eq_true, if_pos rfl, Nat.add_sub_cancel' leap, parts]
  · have shown : t.shown = (t.secondOfDay % 60, t.nanos) := if_neg leap
    have ordinary : (t.secondOfDay % 60 == 60) = false := by
      rw [beq_eq_false_iff_ne]
      omega
    rw [shown, ordinary, if_neg Bool.false_ne_true, parts]

/-- An instant is the one at its time of its day. -/
theorem instantAt_date {t : Instant} (h : t.date.isInRange = true) :
    instantAt t.date (t.secondOfDay, t.nanos) 0 = some t := by
  have seconds : 86400 * t.date.toDays + (t.secondOfDay : Int) - 60 * 0 = t.seconds := by
    rw [Instant.date, toDays_ofDays, Instant.secondOfDay]
    omega
  have valid : t.date.isValid = true := isValid_ofDays _
  rw [instantAt, valid, h]
  dsimp only
  rw [Bool.and_self, if_pos rfl]
  have sound : t.nanos < 2 * nanosPerSecond ∧ (nanosPerSecond ≤ t.nanos →
      (86400 * t.date.toDays + (t.secondOfDay : Int) - 60 * 0) % 60 = 59) := by
    rw [seconds]
    exact ⟨t.nanos_lt, t.leap_at_minute_end⟩
  rw [dif_pos sound]
  obtain ⟨s, n, bound, leap⟩ := t
  congr

/-! ## The whole text -/

/-- Whether four digits hold the year of an instant. -/
def Instant.HasPlainYear (t : Instant) : Prop := 0 ≤ t.date.year ∧ t.date.year ≤ 9999

instance (t : Instant) : Decidable t.HasPlainYear :=
  inferInstanceAs (Decidable (0 ≤ t.date.year ∧ t.date.year ≤ 9999))

theorem Instant.chars_eq {t : Instant} (h : t.HasPlainYear) :
    t.chars .shortest .offset =
      paddedDigits 4 t.date.year.toNat ++ '-' :: (paddedDigits 2 t.date.month ++
      '-' :: (paddedDigits 2 t.date.day ++ 'T' :: (paddedDigits 2 (t.secondOfDay / 3600) ++
      ':' :: (paddedDigits 2 (t.secondOfDay / 60 % 60) ++ ':' :: (paddedDigits 2 t.shown.1 ++
      (fractionChars .shortest t.shown.2 ++ '+' :: ['0', '0', ':', '0', '0'])))))) := by
  have year : yearChars t.date.year = paddedDigits 4 t.date.year.toNat := by
    rw [yearChars, decide_eq_true h.1, decide_eq_true h.2]
    rfl
  rw [chars, year]
  show paddedDigits 4 t.date.year.toNat ++ '-' :: paddedDigits 2 t.date.month ++
    '-' :: paddedDigits 2 t.date.day ++ 'T' :: paddedDigits 2 (t.secondOfDay / 3600) ++
    ':' :: paddedDigits 2 (t.secondOfDay / 60 % 60) ++ ':' :: paddedDigits 2 t.shown.1 ++
    fractionChars .shortest t.shown.2 ++ ['+', '0', '0', ':', '0', '0'] = _
  simp only [List.append_assoc, List.cons_append]

/-- A reading that succeeds goes on with what was read. -/
theorem bind_of_eq_some {α β : Type} {x : Option α} {a : α} {f : α → Option β} (h : x = some a) :
    (x >>= f) = f a := by
  rw [h]
  rfl

theorem takeChar_self (c : Char) (rest : List Char) : takeChar c (c :: rest) = some rest := by
  rw [takeChar, beq_self_eq_true, if_pos rfl]

/-- **The strict manner reads an instant from its text.** -/
theorem readStrict_chars {t : Instant} (h : t.HasPlainYear) :
    readStrict (t.chars .shortest .offset) = some t := by
  have valid := isValid_ofDays (t.seconds / 86400)
  rw [← Instant.date, Date.isValid] at valid
  simp only [Bool.and_eq_true, decide_eq_true_eq] at valid
  have length : monthLength t.date.year t.date.month ≤ 31 := by
    unfold monthLength
    split_ifs <;> omega
  have day : t.secondOfDay < 86400 := by
    rw [Instant.secondOfDay]
    omega
  have range : t.date.isInRange = true := by
    rw [Date.isInRange, yearRange, Bool.and_eq_true, decide_eq_true_eq, decide_eq_true_eq]
    have bounds := h
    unfold Instant.HasPlainYear at bounds
    omega
  have year : (t.date.year.toNat : Int) = t.date.year := Int.toNat_of_nonneg h.1
  have fourDigits : t.date.year.toNat < 10 ^ 4 := by
    have bound := h.2
    omega
  have two {n : Nat} (small : n < 10 ^ 2) (rest : List Char) :
      takeDigits 2 (paddedDigits 2 n ++ rest) = some (n, rest) :=
    takeDigits_padded (by decide) small rest
  have mark (rest : List Char) : (takeChar 'T' ('T' :: rest)).or
      ((takeChar 't' ('T' :: rest)).or (takeChar ' ' ('T' :: rest))) = some rest := by
    rw [takeChar_self, Option.some_or]
  have zone : takeOffset ('+' :: ['0', '0', ':', '0', '0']) = some (0, []) := by decide
  rw [Instant.chars_eq h, readStrict]
  -- the date, part by part
  refine (bind_of_eq_some (takeDigits_padded (by decide) fourDigits _)).trans ?_
  refine (bind_of_eq_some (takeChar_self '-' _)).trans ?_
  refine (bind_of_eq_some (two (by omega) _)).trans ?_
  refine (bind_of_eq_some (takeChar_self '-' _)).trans ?_
  refine (bind_of_eq_some (two (by omega) _)).trans ?_
  refine (bind_of_eq_some (mark _)).trans ?_
  -- the time of day
  refine (bind_of_eq_some (two (by omega) _)).trans ?_
  refine (bind_of_eq_some (takeChar_self ':' _)).trans ?_
  refine (bind_of_eq_some (two (by omega) _)).trans ?_
  refine (bind_of_eq_some (takeChar_self ':' _)).trans ?_
  refine (bind_of_eq_some (two t.shown_lt.1 _)).trans ?_
  refine (bind_of_eq_some (takeFraction_chars t.shown_lt.2 (by decide) _)).trans ?_
  refine (bind_of_eq_some zone).trans ?_
  refine (bind_of_eq_some (timeOfDay_shown t)).trans ?_
  rw [List.isEmpty_nil, if_pos rfl, year]
  exact instantAt_date range

/-- The text begins with a digit of the year and ends with one of the zone. -/
theorem tight_chars {t : Instant} (h : t.HasPlainYear) : Tight (t.chars .shortest .offset) := by
  have fourDigits : t.date.year.toNat < 10 ^ 4 := by
    have bound := h.2
    omega
  have year : Tight (paddedDigits 4 t.date.year.toNat) := by
    refine Text.tight_of_forall (List.ne_nil_of_length_pos ?_)
      (Text.solid_of_digits fun c hc => isDigit_of_mem_paddedDigits hc)
    rw [length_paddedDigits (by decide) fourDigits]
    decide
  have zone : Tight ['+', '0', '0', ':', '0', '0'] :=
    Tight.enclosed (by decide) (by decide) ['0', '0', ':', '0']
  rw [Instant.chars_eq h]
  have ends := year.append zone ('-' :: (paddedDigits 2 t.date.month ++
    '-' :: (paddedDigits 2 t.date.day ++ 'T' :: (paddedDigits 2 (t.secondOfDay / 3600) ++
    ':' :: (paddedDigits 2 (t.secondOfDay / 60 % 60) ++ ':' :: (paddedDigits 2 t.shown.1 ++
    Instant.fractionChars .shortest t.shown.2))))))
  simp only [List.append_assoc, List.cons_append] at ends
  exact ends

/-- **The text of an instant is read as the instant.** -/
theorem ofText?_text {t : Instant} (h : t.HasPlainYear) : Instant.ofText? t.text = some t := by
  rw [Instant.ofText?, Instant.text, String.toList_ofList, Instant.read?, (tight_chars h).trim_eq,
    readStrict_chars h, Option.some_or]

end Polystore.Calendar
