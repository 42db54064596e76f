import Polystore.Proofs.Text.Digits
import Polystore.Text.Basic

/-!
# Tight texts

The readers trim whatever they cut out. A text is tight when trimming leaves it alone: it is not
empty and neither end is blank. Between blanks a tight text is what trimming brings back.
-/

namespace Polystore.Text

/-- The text is not empty, and its first and last characters are not blank. -/
structure Tight (cs : List Char) : Prop where
  first : ∃ c rest, cs = c :: rest ∧ isBlank c = false
  last : ∃ start c, cs = start ++ [c] ∧ isBlank c = false

theorem tight_singleton {c : Char} (h : isBlank c = false) : Tight [c] :=
  ⟨⟨c, [], rfl, h⟩, ⟨[], c, rfl, h⟩⟩

/-- A text without any blank is tight, unless it is empty. -/
theorem tight_of_forall {cs : List Char} (filled : cs ≠ [])
    (h : ∀ c ∈ cs, isBlank c = false) : Tight cs := by
  constructor
  · obtain ⟨c, rest, rfl⟩ := List.exists_cons_of_ne_nil filled
    exact ⟨c, rest, rfl, h c List.mem_cons_self⟩
  · exact ⟨cs.dropLast, cs.getLast filled, (List.dropLast_concat_getLast filled).symm,
      h _ (List.getLast_mem filled)⟩

/-- No digit is blank. -/
theorem solid_of_digits {cs : List Char} (h : ∀ c ∈ cs, c.isDigit = true) :
    ∀ c ∈ cs, isBlank c = false := by
  intro c hc
  have digits : "0123456789".toList.all (fun d => !isBlank d) = true := by decide
  exact (Bool.not_eq_true' _).mp (List.all_eq_true.mp digits c (mem_of_isDigit (h c hc)))

/-- Tight texts with anything between them are tight together. -/
theorem Tight.append {cs ds : List Char} (hc : Tight cs) (hd : Tight ds) (mid : List Char) :
    Tight (cs ++ (mid ++ ds)) := by
  obtain ⟨c, rest, rfl, first⟩ := hc.first
  obtain ⟨start, d, rfl, last⟩ := hd.last
  constructor
  · exact ⟨c, rest ++ (mid ++ (start ++ [d])), rfl, first⟩
  · refine ⟨c :: rest ++ (mid ++ start), d, ?_, last⟩
    simp only [List.append_assoc]

theorem Tight.enclosed {a b : Char} (ha : isBlank a = false) (hb : isBlank b = false)
    (cs : List Char) : Tight (a :: cs ++ [b]) :=
  ⟨⟨a, cs ++ [b], rfl, ha⟩, ⟨a :: cs, b, rfl, hb⟩⟩

theorem Tight.ne_nil {cs : List Char} (h : Tight cs) : cs ≠ [] := by
  obtain ⟨c, rest, rfl, _⟩ := h.first
  exact List.cons_ne_nil c rest

theorem dropWhile_blanks {blanks : List Char} (h : ∀ c ∈ blanks, isBlank c = true)
    (cs : List Char) : (blanks ++ cs).dropWhile isBlank = cs.dropWhile isBlank := by
  induction blanks with
  | nil => rfl
  | cons b blanks ih =>
    rw [List.cons_append, List.dropWhile_cons_of_pos (h b List.mem_cons_self)]
    exact ih fun c hc => h c (List.mem_cons_of_mem b hc)

/-- Nothing remains of blanks. -/
theorem trim_blanks {blanks : List Char} (h : ∀ c ∈ blanks, isBlank c = true) :
    trim blanks = [] := by
  have rest := dropWhile_blanks h []
  rw [List.append_nil] at rest
  rw [trim, trimStart, rest]
  rfl

theorem Tight.trimStart_append {cs : List Char} (h : Tight cs) (rest : List Char) :
    trimStart (cs ++ rest) = cs ++ rest := by
  obtain ⟨c, tail, rfl, first⟩ := h.first
  exact trimStart_cons_of_not_blank first (tail ++ rest)

theorem Tight.trimStart_eq {cs : List Char} (h : Tight cs) : trimStart cs = cs := by
  obtain ⟨c, tail, rfl, first⟩ := h.first
  exact trimStart_cons_of_not_blank first tail

/-- Trimming brings a tight text back from between blanks. -/
theorem Tight.trim_between {cs before behind : List Char} (h : Tight cs)
    (hbefore : ∀ c ∈ before, isBlank c = true) (hbehind : ∀ c ∈ behind, isBlank c = true) :
    trim (before ++ (cs ++ behind)) = cs := by
  rw [trim, trimStart, dropWhile_blanks hbefore, ← trimStart, h.trimStart_append]
  obtain ⟨start, c, rfl, last⟩ := h.last
  rw [trimEnd, List.reverse_append,
    dropWhile_blanks fun d hd => hbehind d (List.mem_reverse.mp hd), List.reverse_append,
    List.reverse_singleton, List.singleton_append,
    List.dropWhile_cons_of_neg (by rw [last]; exact Bool.false_ne_true)]
  rw [← List.singleton_append, List.reverse_append, List.reverse_reverse, List.reverse_singleton]

theorem Tight.trim_eq {cs : List Char} (h : Tight cs) : trim cs = cs := by
  have between := h.trim_between (fun c (hc : c ∈ []) => nomatch hc)
    (fun c (hc : c ∈ []) => nomatch hc)
  rw [List.nil_append, List.append_nil] at between
  exact between

end Polystore.Text
