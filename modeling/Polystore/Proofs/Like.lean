import Mathlib.Data.List.Forall2
import Polystore.Like
import Polystore.Text.Basic

/-!
# What a pattern accounts for

Matching works on all suffixes of a text at once and never looks for a cut. What it decides is
nevertheless whether the text can be cut: into one piece for each character of the pattern, in their
order, with nothing left over. The equations below take one character off the pattern and one off
the text; an induction on the pattern follows them, and for `%` a second one on the text.
-/

namespace Polystore.Like

/-! ## Cutting a text -/

/-- A character of a pattern accounts for a piece of text: `%` for any piece, `_` for any single
character, and every other character for itself. -/
inductive Accounts : Char → List Char → Prop
  | run (piece : List Char) : Accounts '%' piece
  | one (d : Char) : Accounts '_' [d]
  | itself {c : Char} : c ≠ '%' → c ≠ '_' → Accounts c [c]

/-- The text falls into consecutive pieces for which the characters of the pattern account one by
one. -/
def Cuts (pattern text : List Char) : Prop :=
  ∃ pieces : List (List Char), pieces.flatten = text ∧ List.Forall₂ Accounts pattern pieces

theorem cuts_nil_iff {text : List Char} : Cuts [] text ↔ text = [] := by
  constructor
  · rintro ⟨pieces, rfl, accounts⟩
    cases accounts
    rfl
  · rintro rfl
    exact ⟨[], rfl, .nil⟩

theorem cuts_cons_iff {c : Char} {pattern text : List Char} :
    Cuts (c :: pattern) text ↔
      ∃ piece rest, text = piece ++ rest ∧ Accounts c piece ∧ Cuts pattern rest := by
  constructor
  · rintro ⟨pieces, rfl, accounts⟩
    cases accounts with
    | @cons _ piece _ pieces first others => exact ⟨piece, _, rfl, first, pieces, rfl, others⟩
  · rintro ⟨piece, rest, rfl, first, pieces, rfl, others⟩
    exact ⟨piece :: pieces, rfl, .cons first others⟩

theorem cuts_run_nil_iff {pattern : List Char} : Cuts ('%' :: pattern) [] ↔ Cuts pattern [] := by
  rw [cuts_cons_iff]
  constructor
  · rintro ⟨piece, rest, nothing, _, cuts⟩
    obtain ⟨rfl, rfl⟩ := List.append_eq_nil_iff.mp nothing.symm
    exact cuts
  · intro cuts
    exact ⟨[], [], rfl, .run [], cuts⟩

/-- A run ends in front of a character, or takes it in. -/
theorem cuts_run_cons_iff {pattern text : List Char} {d : Char} :
    Cuts ('%' :: pattern) (d :: text) ↔
      Cuts pattern (d :: text) ∨ Cuts ('%' :: pattern) text := by
  rw [cuts_cons_iff, cuts_cons_iff]
  constructor
  · rintro ⟨piece, rest, whole, _, cuts⟩
    cases piece with
    | nil =>
      rw [List.nil_append] at whole
      exact .inl (whole ▸ cuts)
    | cons e piece =>
      rw [List.cons_append, List.cons.injEq] at whole
      exact .inr ⟨piece, rest, whole.2, .run piece, cuts⟩
  · rintro (cuts | ⟨piece, rest, rfl, _, cuts⟩)
    · exact ⟨[], d :: text, rfl, .run [], cuts⟩
    · exact ⟨d :: piece, rest, rfl, .run _, cuts⟩

/-- The characters other than `%` account for just those that they accept. -/
theorem accounts_iff {c : Char} (single : c ≠ '%') {piece : List Char} :
    Accounts c piece ↔ ∃ d, piece = [d] ∧ accepts c d = true := by
  constructor
  · intro accounts
    cases accounts with
    | run => exact absurd rfl single
    | one d => exact ⟨d, rfl, by simp [accepts]⟩
    | itself _ _ => exact ⟨c, rfl, by simp [accepts]⟩
  · rintro ⟨d, rfl, accepted⟩
    by_cases any : c = '_'
    · subst any
      exact .one d
    · have same : c = d := by simpa [accepts, any] using accepted
      subst same
      exact .itself single any

theorem cuts_one_nil_iff {c : Char} (single : c ≠ '%') {pattern : List Char} :
    ¬Cuts (c :: pattern) [] := by
  rw [cuts_cons_iff]
  rintro ⟨piece, rest, nothing, accounts, _⟩
  obtain ⟨d, rfl, _⟩ := (accounts_iff single).mp accounts
  cases nothing

theorem cuts_one_cons_iff {c d : Char} (single : c ≠ '%') {pattern text : List Char} :
    Cuts (c :: pattern) (d :: text) ↔ accepts c d = true ∧ Cuts pattern text := by
  rw [cuts_cons_iff]
  constructor
  · rintro ⟨piece, rest, whole, accounts, cuts⟩
    obtain ⟨e, rfl, accepted⟩ := (accounts_iff single).mp accounts
    rw [List.singleton_append, List.cons.injEq] at whole
    obtain ⟨rfl, rfl⟩ := whole
    exact ⟨accepted, cuts⟩
  · rintro ⟨accepted, cuts⟩
    exact ⟨[d], text, rfl, (accounts_iff single).mpr ⟨d, rfl, accepted⟩, cuts⟩

/-! ## Matching, one character after the other -/

theorem answers_run (pattern text : List Char) :
    answers ('%' :: pattern) text = anySuffix (answers pattern text) := rfl

theorem answers_one {c : Char} (single : c ≠ '%') (pattern text : List Char) :
    answers (c :: pattern) text = oneMore c text (answers pattern text) := by
  simp [answers, single]

/-- For the empty text there is one answer. -/
theorem answers_nil (pattern : List Char) : answers pattern [] = [matchesChars pattern []] := by
  suffices ∃ b, answers pattern [] = [b] by
    obtain ⟨b, alone⟩ := this
    rw [matchesChars, alone, List.headD_cons]
  induction pattern with
  | nil => exact ⟨true, rfl⟩
  | cons c pattern ih =>
    obtain ⟨b, alone⟩ := ih
    by_cases run : c = '%'
    · subst run
      rw [answers_run, alone]
      exact ⟨_, rfl⟩
    · rw [answers_one run, alone]
      exact ⟨_, rfl⟩

/-- For a longer text there is one answer more than for what is behind its first character. -/
theorem answers_cons (pattern : List Char) (d : Char) (text : List Char) :
    answers pattern (d :: text) = matchesChars pattern (d :: text) :: answers pattern text := by
  suffices ∃ b, answers pattern (d :: text) = b :: answers pattern text by
    obtain ⟨b, split⟩ := this
    rw [matchesChars, split, List.headD_cons]
  induction pattern with
  | nil => exact ⟨false, rfl⟩
  | cons c pattern ih =>
    obtain ⟨b, split⟩ := ih
    by_cases run : c = '%'
    · subst run
      rw [answers_run, answers_run, split]
      exact ⟨_, rfl⟩
    · rw [answers_one run, answers_one run, split]
      exact ⟨_, rfl⟩

theorem matchesChars_nil (text : List Char) : matchesChars [] text = text.isEmpty := by
  cases text <;> rfl

theorem matchesChars_run_nil (pattern : List Char) :
    matchesChars ('%' :: pattern) [] = matchesChars pattern [] := by
  rw [matchesChars, answers_run, answers_nil]
  simp [anySuffix]

theorem matchesChars_run_cons (pattern : List Char) (d : Char) (text : List Char) :
    matchesChars ('%' :: pattern) (d :: text) =
      (matchesChars pattern (d :: text) || matchesChars ('%' :: pattern) text) := by
  rw [matchesChars, answers_run, answers_cons]
  rfl

theorem matchesChars_one_nil {c : Char} (single : c ≠ '%') (pattern : List Char) :
    matchesChars (c :: pattern) [] = false := by
  rw [matchesChars, answers_one single]
  rfl

theorem matchesChars_one_cons {c : Char} (single : c ≠ '%') (pattern : List Char) (d : Char)
    (text : List Char) :
    matchesChars (c :: pattern) (d :: text) = (accepts c d && matchesChars pattern text) := by
  rw [matchesChars, answers_one single, answers_cons]
  rfl

/-- **A text matches a pattern just when it can be cut into pieces for which the characters of the
pattern account.** -/
theorem matchesChars_iff {pattern text : List Char} :
    matchesChars pattern text = true ↔ Cuts pattern text := by
  induction pattern generalizing text with
  | nil => rw [matchesChars_nil, cuts_nil_iff, List.isEmpty_iff]
  | cons c pattern ih =>
    by_cases run : c = '%'
    · subst run
      -- a run is tried at every place of the text
      induction text with
      | nil => rw [matchesChars_run_nil, cuts_run_nil_iff, ih]
      | cons d text behind =>
        rw [matchesChars_run_cons, cuts_run_cons_iff, Bool.or_eq_true, ih, behind]
    · cases text with
      | nil =>
        rw [matchesChars_one_nil run]
        exact iff_of_false Bool.false_ne_true (cuts_one_nil_iff run)
      | cons d text =>
        rw [matchesChars_one_cons run, cuts_one_cons_iff run, Bool.and_eq_true, ih]

/-! ## Letters of both cases -/

/-- All characters of the text are ASCII. -/
def IsAscii (text : String) : Prop := ∀ c ∈ text.toList, c.toNat < 128

instance (text : String) : Decidable (IsAscii text) :=
  List.decidableBAll (fun c : Char => c.toNat < 128) text.toList

theorem map_fold_of_ascii {text : String} (ascii : IsAscii text) :
    text.toList.map Text.fold = (Text.asciiLower text).toList := by
  rw [Text.asciiLower, String.toList_ofList]
  refine List.map_congr_left ?_
  intro c hc
  rw [Text.fold, if_pos (ascii c hc)]

end Polystore.Like
