import Mathlib
import Polystore.Json.Reader
import Polystore.Proofs.Binary64.Reading

/-!
# How documents begin

The first character of a document tells of which kind it is, and a scalar takes up all of a text but
the blanks around it. What a text holds is thereby traced back to the reader of one kind.
-/

namespace Polystore.Json

open Polystore.Text (isBlank)
open Polystore.Binary64 (signChars)

/-- Arrays and objects come from brackets and braces. -/
theorem readItems_array {fuel depth : Nat} {seen : List Json} {cs : List Char} {j : Json}
    {rest : List Char} (h : readItems fuel depth seen cs = some (j, rest)) :
    ∃ items, j = .array items := by
  induction fuel generalizing seen cs with
  | zero => cases h
  | succ fuel ih =>
    rw [readItems] at h
    split at h
    · cases h
    · split at h
      · exact ih h
      · exact ⟨_, (Prod.mk.inj (Option.some.inj h)).1.symm⟩
      · cases h

theorem readFields_object {fuel depth : Nat} {seen : List (String × Json)} {cs : List Char}
    {j : Json} {rest : List Char} (h : readFields fuel depth seen cs = some (j, rest)) :
    ∃ fields, j = .object fields := by
  induction fuel generalizing seen cs with
  | zero => cases h
  | succ fuel ih =>
    rw [readFields] at h
    split at h
    · split at h
      · cases h
      · split at h
        · split at h
          · cases h
          · split at h
            · exact ih h
            · exact ⟨_, (Prod.mk.inj (Option.some.inj h)).1.symm⟩
            · cases h
        · cases h
    · cases h

/-- How a document is read from a text without blanks in front. -/
inductive Opening (cs : List Char) (j : Json) (rest : List Char) : Prop where
  | number {negative : Bool} {tail : List Char} : cs = signChars negative ++ tail →
      readUnsigned negative tail = some (j, rest) → Opening cs j rest
  | text {tail : List Char} {s : String} : cs = '\x22' :: tail → readString tail = some (s, rest) →
      j = .text s → Opening cs j rest
  | null : cs = "null".toList ++ rest → j = .null → Opening cs j rest
  | bool {b : Bool} : cs = (if b then "true" else "false").toList ++ rest → j = .bool b →
      Opening cs j rest
  | array {items : List Json} : j = .array items → Opening cs j rest
  | object {fields : List (String × Json)} : j = .object fields → Opening cs j rest

theorem readWord_eq_some {word : List Char} {value j : Json} {cs rest : List Char}
    (h : readWord word value cs = some (j, rest)) : cs = word ++ rest ∧ j = value := by
  rw [readWord] at h
  split at h
  · rename_i front
    obtain ⟨rfl, rfl⟩ := Prod.mk.inj (Option.some.inj h)
    obtain ⟨tail, rfl⟩ := List.isPrefixOf_iff_prefix.mp front
    exact ⟨by rw [List.drop_left], rfl⟩
  · cases h

/-- Its first character tells how a document is read. -/
theorem readValue_opening {fuel depth : Nat} {cs : List Char} {j : Json} {rest : List Char}
    (h : readValue fuel depth cs = some (j, rest)) : Opening (skipSpace cs) j rest := by
  cases fuel with
  | zero => cases h
  | succ fuel =>
    rw [readValue] at h
    split at h
    · cases h
    · rename_i c tail text
      rw [text]
      -- one case for each first character, in the order in which the reader tries them
      split_ifs at h with quote bracket brace minus digit n t f
      · obtain ⟨⟨s, behind⟩, read, result⟩ := Option.map_eq_some_iff.mp h
        obtain ⟨rfl, rfl⟩ := Prod.mk.inj result
        rw [beq_iff_eq] at quote
        exact .text (congrArg (· :: tail) quote) read rfl
      · split at h
        · cases h
        · split at h
          · exact .array (Prod.mk.inj (Option.some.inj h)).1.symm
          · obtain ⟨items, array⟩ := readItems_array h
            exact .array array
      · split at h
        · cases h
        · split at h
          · exact .object (Prod.mk.inj (Option.some.inj h)).1.symm
          · obtain ⟨fields, object⟩ := readFields_object h
            exact .object object
      · rw [beq_iff_eq] at minus
        have signed : c :: tail = signChars true ++ tail := congrArg (· :: tail) minus
        exact .number signed h
      · have unsigned : c :: tail = signChars false ++ (c :: tail) := rfl
        exact .number unsigned h
      · rw [beq_iff_eq] at n
        obtain ⟨rfl, null⟩ := readWord_eq_some h
        exact .null (congrArg (· :: _) n) null
      · rw [beq_iff_eq] at t
        obtain ⟨rfl, bool⟩ := readWord_eq_some h
        exact .bool (congrArg (· :: _) t) bool
      · rw [beq_iff_eq] at f
        obtain ⟨rfl, bool⟩ := readWord_eq_some h
        exact .bool (congrArg (· :: _) f) bool

theorem isBlank_of_isSpace {c : Char} (h : isSpace c = true) : isBlank c = true := by
  simp only [isSpace, Bool.or_eq_true, beq_iff_eq] at h
  rcases h with ((rfl | rfl) | rfl) | rfl <;> decide

/-- A text that holds a document has nothing but blanks behind it. -/
theorem read?_eq_some {s : String} {j : Json} (h : read? s = some j) :
    ∃ rest, Opening (skipSpace s.toList) j rest ∧ ∀ c ∈ rest, isBlank c = true := by
  unfold read? at h
  dsimp only at h
  split at h
  · rename_i k rest value
    split at h
    · rename_i last
      obtain rfl : k = j := Option.some.inj h
      rw [skipSpace, List.isEmpty_iff, List.dropWhile_eq_nil_iff] at last
      exact ⟨rest, readValue_opening value, fun c hc => isBlank_of_isSpace (last c hc)⟩
    · cases h
  · cases h

/-- Between blanks stands what trimming leaves. -/
theorem trim_of_skipSpace {cs body rest : List Char} (front : skipSpace cs = body ++ rest)
    (behind : ∀ c ∈ rest, isBlank c = true) (tight : Text.Tight body) : Text.trim cs = body := by
  have before : ∀ c ∈ cs.takeWhile isSpace, isBlank c = true :=
    fun c hc => isBlank_of_isSpace (List.mem_takeWhile_imp hc)
  have parts : cs = cs.takeWhile isSpace ++ (body ++ rest) := by
    rw [← front, skipSpace, List.takeWhile_append_dropWhile]
  rw [parts]
  exact tight.trim_between before behind

/-! ## Texts between quotes -/

theorem length_of_readHex4 {cs : List Char} {n : Nat} {rest : List Char}
    (h : readHex4 cs = some (n, rest)) : rest.length ≤ cs.length := by
  unfold readHex4 at h
  split at h
  · simp only [bind, Option.bind_eq_some_iff, Option.some.injEq, Prod.mk.injEq] at h
    obtain ⟨_, _, _, _, _, _, _, _, _, rfl⟩ := h
    simp only [List.length_cons]
    omega
  · cases h

theorem length_of_readUnit {cs : List Char} {c : Char} {rest : List Char}
    (h : readUnit cs = some (c, rest)) : rest.length ≤ cs.length := by
  obtain ⟨⟨unit, behind⟩, first, h⟩ := Option.bind_eq_some_iff.mp h
  have shorter := length_of_readHex4 first
  dsimp only at h
  split at h
  · split at h
    · obtain ⟨⟨low, end'⟩, second, h⟩ := Option.bind_eq_some_iff.mp h
      have further := length_of_readHex4 second
      dsimp only at h
      split at h
      · obtain ⟨-, rfl⟩ := Prod.mk.inj (Option.some.inj h)
        simp only [List.length_cons] at shorter
        omega
      · cases h
    · cases h
  · split at h
    · cases h
    · obtain ⟨-, rfl⟩ := Prod.mk.inj (Option.some.inj h)
      exact shorter

/-- Every character of a text takes up at least one of the document, and the closing quote one
more. -/
theorem length_of_readChars {fuel : Nat} {seen cs : List Char} {s : String} {rest : List Char}
    (h : readChars fuel seen cs = some (s, rest)) :
    s.toList.length < seen.length + cs.length := by
  -- what is seen and what is left never become longer together
  induction fuel generalizing seen cs with
  | zero => cases h
  | succ fuel ih =>
    cases cs with
    | nil => cases h
    | cons c cs =>
      unfold readChars at h
      split_ifs at h with quote backslash control
      · obtain ⟨rfl, -⟩ := Prod.mk.inj (Option.some.inj h)
        rw [String.toList_ofList, List.length_reverse, List.length_cons]
        omega
      · split at h
        · split at h
          · rename_i unit
            have more := ih h
            have shorter := length_of_readUnit unit
            simp only [List.length_cons] at more ⊢
            omega
          · cases h
        · split at h
          · have more := ih h
            simp only [List.length_cons] at more ⊢
            omega
          · cases h
        · cases h
      · have more := ih h
        simp only [List.length_cons] at more ⊢
        omega

end Polystore.Json
