import Polystore.Text.Whole

/-!
# Reading written numbers

The decimal digits of a number read back as the number.
-/

namespace Polystore.Text

theorem natOfDigits_cons (acc : Nat) (c : Char) (cs : List Char) :
    natOfDigits acc (c :: cs) = natOfDigits (10 * acc + digitValue c) cs := by
  rfl

theorem natOfDigits_eq (cs : List Char) (acc : Nat) :
    natOfDigits acc cs = Nat.ofDigitChars 10 cs acc := by
  induction cs generalizing acc with
  | nil =>
    rw [Nat.ofDigitChars_nil]
    rfl
  | cons c cs ih =>
    rw [natOfDigits_cons, ih, Nat.ofDigitChars_cons]
    rfl

theorem isDigit_of_mem_natDigits {n : Nat} {c : Char} (h : c ∈ natDigits n) : c.isDigit = true :=
  Nat.isDigit_of_mem_toDigits (by decide) (by decide) h

theorem readDigits_natDigits (n : Nat) : readDigits (natDigits n) = some n := by
  have filled : (natDigits n).isEmpty = false :=
    List.isEmpty_eq_false_iff.mpr Nat.toDigits_ne_nil
  have digits : (natDigits n).all Char.isDigit = true :=
    List.all_eq_true.mpr fun c hc => isDigit_of_mem_natDigits hc
  rw [readDigits, filled, digits, natOfDigits_eq, natDigits, Nat.ofDigitChars_ten_toDigits]
  rfl

/-- A number has digits, and none of them is a sign. -/
theorem exists_cons_natDigits (n : Nat) :
    ∃ c cs, natDigits n = c :: cs ∧ c.isDigit = true := by
  cases h : natDigits n with
  | nil => exact absurd h Nat.toDigits_ne_nil
  | cons c cs => exact ⟨c, cs, rfl, isDigit_of_mem_natDigits (by rw [h]; exact List.mem_cons_self)⟩

theorem readNat_natDigits (n : Nat) : readNat (natDigits n) = some n := by
  have read := readDigits_natDigits n
  obtain ⟨c, cs, h, hc⟩ := exists_cons_natDigits n
  rw [h] at read ⊢
  unfold readNat
  split
  · rename_i e
    cases e
    exact absurd hc (by decide)
  · exact read

/-- A digit is one of ten characters. -/
theorem mem_of_isDigit {c : Char} (h : c.isDigit = true) : c ∈ "0123456789".toList := by
  have bounds : 48 ≤ c.toNat ∧ c.toNat ≤ 57 := by
    simp only [Char.isDigit, Bool.and_eq_true, decide_eq_true_eq, UInt32.le_iff_toNat_le,
      ge_iff_le] at h
    exact h
  have codes : c.toNat = 48 ∨ c.toNat = 49 ∨ c.toNat = 50 ∨ c.toNat = 51 ∨ c.toNat = 52 ∨
      c.toNat = 53 ∨ c.toNat = 54 ∨ c.toNat = 55 ∨ c.toNat = 56 ∨ c.toNat = 57 := by omega
  rw [← Char.ofNat_toNat c]
  rcases codes with e | e | e | e | e | e | e | e | e | e <;> rw [e] <;> decide

theorem readInt_intDigits (n : Int) : readInt (intDigits n) = some n := by
  by_cases negative : n < 0
  · rw [intDigits, if_pos negative, readInt, readDigits_natDigits]
    show some (-(n.natAbs : Int)) = some n
    congr 1
    omega
  · have read := readNat_natDigits n.natAbs
    obtain ⟨c, cs, h, hc⟩ := exists_cons_natDigits n.natAbs
    rw [intDigits, if_neg negative]
    rw [h] at read ⊢
    unfold readInt
    split
    · rename_i e
      cases e
      exact absurd hc (by decide)
    · rw [read, Option.map_some]
      congr 1
      show (n.natAbs : Int) = n
      omega

/-- A 64-bit integer reads back from its digits. -/
theorem readInt64_intDigits (n : Int64) : readInt64 (intDigits n.toInt) = some n := by
  have bounds : -2 ^ 63 ≤ n.toInt ∧ n.toInt < 2 ^ 63 := ⟨n.le_toInt, n.toInt_lt⟩
  rw [readInt64, readInt_intDigits]
  show (if -2 ^ 63 ≤ n.toInt ∧ n.toInt < 2 ^ 63 then some (Int64.ofInt n.toInt) else none) = some n
  rw [if_pos bounds, Int64.ofInt_toInt]

/-- A number below a bound reads back from its digits. -/
theorem readNatBelow_natDigits {n bound : Nat} (h : n < bound) :
    readNatBelow bound (natDigits n) = some n := by
  rw [readNatBelow, readNat_natDigits]
  simp [h]

end Polystore.Text
