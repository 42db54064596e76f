import Mathlib
import Polystore.Calendar.Date

/-!
# Days and dates

Every day has a date, and the date counts back to the day. The count goes by years that begin in
March: an era of four hundred of them has four centuries, a century twenty-five groups of four
years, and the leap day is the last of a group. Only the fourth century is complete, so that the
other three lose the leap day of their last group; this is what the corrections in
`Date.ofDays` are about.
-/

namespace Polystore.Calendar

/-! ## The year of a day -/

/-- A day of an era by its century, its group of four years, and the day of the group. -/
structure DayOfEra (day century group rest : Int) : Prop where
  sum : day = 36524 * century + 1461 * group + rest
  centuries : 0 ≤ century ∧ century ≤ 3
  groups : 0 ≤ group ∧ group ≤ 24
  rests : 0 ≤ rest ∧ rest ≤ 1460
  /-- Only the fourth century keeps its last day. -/
  last : group = 24 → rest = 1460 → century = 3

theorem exists_dayOfEra {day : Int} (low : 0 ≤ day) (high : day < 146097) :
    ∃ century group rest, DayOfEra day century group rest := by
  let century := day / 36524 - day / 146096
  let within := day - 36524 * century
  have centuries : 0 ≤ century ∧ century ≤ 3 := by omega
  have days : 0 ≤ within ∧ within ≤ 36524 ∧ (within = 36524 → century = 3) := by omega
  refine ⟨century, within / 1461, within % 1461, ?_, centuries, ?_, ?_, ?_⟩ <;> omega

/-- The year of an era in which a day lies, as `Date.ofDays` finds it. -/
def yearOfEra (day : Int) : Int := (day - day / 1460 + day / 36524 - day / 146096) / 365

/-- The day of the year that begins in March. -/
def dayOfYear (day : Int) : Int :=
  day - (365 * yearOfEra day + yearOfEra day / 4 - yearOfEra day / 100)

/-- The last day of a group belongs to its fourth year, which the corrections leave there. -/
theorem DayOfEra.yearOfEra_eq {day century group rest : Int}
    (h : DayOfEra day century group rest) :
    yearOfEra day = 100 * century + 4 * group + (if rest = 1460 then 3 else rest / 365) := by
  obtain ⟨rfl, centuries, groups, rests, last⟩ := h
  have corrected : (36524 * century + 1461 * group + rest) / 36524 -
      (36524 * century + 1461 * group + rest) / 146096 = century := by
    have inside : 1461 * group + rest ≤ 36523 ∨ (century = 3 ∧ group = 24 ∧ rest = 1460) := by
      omega
    rcases inside with inside | ⟨rfl, rfl, rfl⟩
    · have centuries : (36524 * century + 1461 * group + rest) / 36524 = century := by omega
      have fours : (36524 * century + 1461 * group + rest) / 146096 = 0 := by omega
      rw [centuries, fours, sub_zero]
    · rfl
  -- a group is one day longer than the divisor, so that the quotient runs ahead by one at its end
  have quotient : (36524 * century + 1461 * group + rest) / 1460 = 25 * century + group ∨
      ((36524 * century + 1461 * group + rest) / 1460 = 25 * century + group + 1 ∧
        1364 ≤ rest) := by
    omega
  rw [yearOfEra, add_sub_assoc, corrected]
  split <;> rcases quotient with exact | ⟨ahead, late⟩ <;> omega

theorem DayOfEra.dayOfYear_eq {day century group rest : Int}
    (h : DayOfEra day century group rest) :
    dayOfYear day = if rest = 1460 then 365 else rest % 365 := by
  rw [dayOfYear, h.yearOfEra_eq]
  obtain ⟨rfl, centuries, groups, rests, last⟩ := h
  split <;> omega

/-- What there is to know of the year of a day: it is one of the era, the day is one of the year,
and only a year before a leap year has a day more. -/
theorem yearOfEra_spec {day : Int} (low : 0 ≤ day) (high : day < 146097) :
    (0 ≤ yearOfEra day ∧ yearOfEra day < 400) ∧ (0 ≤ dayOfYear day ∧ dayOfYear day ≤ 365) ∧
      (dayOfYear day = 365 → isLeapYear (yearOfEra day + 1) = true) := by
  obtain ⟨century, group, rest, h⟩ := exists_dayOfEra low high
  rw [h.dayOfYear_eq, h.yearOfEra_eq]
  obtain ⟨rfl, centuries, groups, rests, last⟩ := h
  refine ⟨by split <;> omega, by split <;> omega, fun leap => ?_⟩
  have final : rest = 1460 := by
    by_contra other
    rw [if_neg other] at leap
    omega
  rw [if_pos final, isLeapYear, Bool.and_eq_true, Bool.or_eq_true, beq_iff_eq, bne_iff_ne,
    beq_iff_eq]
  -- the fourth year of a group is a leap year, unless the century ends with it
  have atEnd : group = 24 → century = 3 := fun h => last h final
  omega

/-! ## The month of a day -/

theorem isLeapYear_add_eras (year era : Int) : isLeapYear (year + 400 * era) = isLeapYear year := by
  have four : (year + 400 * era) % 4 = year % 4 := by omega
  have hundred : (year + 400 * era) % 100 = year % 100 := by omega
  have era : (year + 400 * era) % 400 = year % 400 := by omega
  rw [isLeapYear, four, hundred, era, isLeapYear]

/-- A date by the parts from which `Date.ofDays` puts it together. -/
theorem ofDays_eq (days : Int) :
    Date.ofDays days =
      let day := (days + 719468) % 146097
      let month := (5 * dayOfYear day + 2) / 153
      { year := yearOfEra day + 400 * ((days + 719468) / 146097) + (if 10 ≤ month then 1 else 0)
        month := (if month < 10 then month + 3 else month - 9).toNat
        day := (dayOfYear day - (153 * month + 2) / 5 + 1).toNat } := rfl

/-- **Every day has a date of the calendar.** -/
theorem isValid_ofDays (days : Int) : (Date.ofDays days).isValid = true := by
  rw [ofDays_eq]
  generalize era : (days + 719468) / 146097 = e
  have spec := yearOfEra_spec (Int.emod_nonneg (days + 719468) (by decide : (146097 : Int) ≠ 0))
    (Int.emod_lt_of_pos _ (by decide))
  dsimp only
  generalize (days + 719468) % 146097 = day at spec ⊢
  obtain ⟨-, inYear, leap⟩ := spec
  generalize dayOfYear day = d at inYear leap ⊢
  generalize yearOfEra day = y at leap ⊢
  have month : 0 ≤ (5 * d + 2) / 153 ∧ (5 * d + 2) / 153 ≤ 11 := by omega
  generalize place : (5 * d + 2) / 153 = m at month ⊢
  have shape : (1 ≤ (if m < 10 then m + 3 else m - 9).toNat) ∧
      (if m < 10 then m + 3 else m - 9).toNat ≤ 12 := by split <;> omega
  rw [Date.isValid]
  simp only [Bool.and_eq_true, decide_eq_true_eq]
  refine ⟨⟨shape, by omega⟩, ?_⟩
  obtain ⟨least, most⟩ := month
  -- February is the last month, and its length the only one that depends on the year
  by_cases february : m = 11
  · subst february
    have next : (if (10 : Int) ≤ 11 then (1 : Int) else 0) = 1 := rfl
    have reordered : y + 400 * e + 1 = y + 1 + 400 * e := by omega
    rw [next, reordered]
    show (d - (153 * 11 + 2) / 5 + 1).toNat ≤ monthLength (y + 1 + 400 * e) 2
    have length : monthLength (y + 1 + 400 * e) 2 = if isLeapYear (y + 1) then 29 else 28 := by
      rw [← isLeapYear_add_eras (y + 1) e]
      rfl
    rw [length]
    split
    · omega
    · rename_i common
      have before : d ≠ 365 := fun h => common (leap h)
      omega
  · interval_cases m <;> simp [monthLength] <;> omega

/-- **The date of a day counts back to the day.** -/
theorem toDays_ofDays (days : Int) : (Date.ofDays days).toDays = days := by
  rw [ofDays_eq]
  have split_day : 146097 * ((days + 719468) / 146097) + (days + 719468) % 146097 =
      days + 719468 := Int.mul_ediv_add_emod _ _
  have spec := yearOfEra_spec (Int.emod_nonneg (days + 719468) (by decide : (146097 : Int) ≠ 0))
    (Int.emod_lt_of_pos _ (by decide))
  generalize (days + 719468) / 146097 = e at split_day ⊢
  generalize (days + 719468) % 146097 = day at spec split_day ⊢
  obtain ⟨inEra, inYear, -⟩ := spec
  have counted : dayOfYear day =
      day - (365 * yearOfEra day + yearOfEra day / 4 - yearOfEra day / 100) := rfl
  dsimp only
  generalize dayOfYear day = d at inYear counted ⊢
  generalize yearOfEra day = y at inEra counted ⊢
  have month : 0 ≤ (5 * d + 2) / 153 ∧ (5 * d + 2) / 153 ≤ 11 := by omega
  have inMonth : 0 ≤ d - (153 * ((5 * d + 2) / 153) + 2) / 5 := by omega
  generalize (5 * d + 2) / 153 = m at month inMonth ⊢
  -- the parts that `Date.toDays` takes out of the date are those that went into it
  have year : (if (if m < 10 then m + 3 else m - 9).toNat ≤ 2 then
      y + 400 * e + (if 10 ≤ m then 1 else 0) - 1
      else y + 400 * e + (if 10 ≤ m then 1 else 0)) = y + 400 * e := by
    split_ifs <;> omega
  have place : (((if m < 10 then m + 3 else m - 9).toNat : Int) + 9) % 12 = m := by
    split_ifs <;> omega
  have dayOfMonth : ((d - (153 * m + 2) / 5 + 1).toNat : Int) = d - (153 * m + 2) / 5 + 1 := by
    omega
  rw [Date.toDays]
  dsimp only
  rw [year, place, dayOfMonth]
  omega

end Polystore.Calendar
