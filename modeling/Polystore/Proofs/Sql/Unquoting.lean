import Polystore.Proofs.Sql.Quotation

/-!
# Which tokens are taken for quotations

A token is a quotation when its first character is a mark, content follows, and its last character
closes the quotation. `unquote` looks at the two ends only. Main statement: it gives the meaning of
every quotation, and it errs on just the tokens between two equal marks that come to no quotation,
because a mark closes it too early or because the mark at the end is itself content.
-/

namespace Polystore.Sql

variable {q : Char} {cs ds ms ns : List Char}

/-- The token is one quotation from its first character to its last one, and means the second
text. -/
def Quotes (token ms : List Char) : Prop :=
  ∃ q cs, isQuote q = true ∧ Content q cs ms ∧ token = q :: cs ++ [q]

/-- What stands in front of a last mark and does not lead up to it as the closing one. -/
inductive Strays (q : Char) : List Char → Prop
  /-- A single mark has closed the quotation before. -/
  | closed {cs ms rest : List Char} {c : Char} :
    Content q cs ms → c ≠ q → Strays q (cs ++ q :: c :: rest)
  /-- The last mark is the second one of a doubled mark. -/
  | doubled {cs ms : List Char} : Content q cs ms → Strays q (cs ++ [q])
  /-- The last mark is escaped. -/
  | escaped {cs ms : List Char} : Content q cs ms → Strays q (cs ++ ['\\'])

/-- The token stands between two equal marks and is no quotation. -/
def Misread (token : List Char) : Prop :=
  ∃ q cs, isQuote q = true ∧ Strays q cs ∧ token = q :: cs ++ [q]

/-! ## Contents end to end -/

theorem Content.append (h : Content q cs ms) (h' : Content q ds ns) :
    Content q (cs ++ ds) (ms ++ ns) := by
  induction h with
  | nil => exact h'
  | plain hc hb _ ih => exact .plain hc hb ih
  | doubled _ ih => exact .doubled ih
  | escaped _ ih => exact .escaped ih

theorem Strays.behind (h : Content q cs ms) (h' : Strays q ds) : Strays q (cs ++ ds) := by
  cases h' with
  | closed inner other =>
    rw [← List.append_assoc]
    exact .closed (h.append inner) other
  | doubled inner =>
    rw [← List.append_assoc]
    exact .doubled (h.append inner)
  | escaped inner =>
    rw [← List.append_assoc]
    exact .escaped (h.append inner)

/-- What follows a content within a content is itself a content: there is only one way to read
on. -/
theorem Content.rest (hq : isQuote q = true) (h : Content q cs ms) {os : List Char}
    (whole : Content q (cs ++ ds) os) : ∃ ns, Content q ds ns := by
  have backslash := isQuote_ne_backslash hq
  induction h generalizing os with
  | nil => exact ⟨os, whole⟩
  | @plain c cs ms hc hb _ ih =>
    rw [List.cons_append] at whole
    generalize cs ++ ds = tail at whole ih
    cases whole with
    | plain _ _ tail => exact ih tail
    | doubled => exact absurd rfl hc
    | escaped => exact absurd rfl hb
  | @doubled cs ms _ ih =>
    rw [List.cons_append, List.cons_append] at whole
    generalize cs ++ ds = tail at whole ih
    cases whole with
    | plain hc => exact absurd rfl hc
    | doubled tail => exact ih tail
    | escaped => exact absurd rfl backslash
  | @escaped c cs ms _ ih =>
    rw [List.cons_append, List.cons_append] at whole
    generalize cs ++ ds = tail at whole ih
    cases whole with
    | plain _ hb => exact absurd rfl hb
    | doubled => exact absurd rfl backslash
    | escaped tail => exact ih tail

theorem not_content_backslash (hq : isQuote q = true) : ¬ Content q ['\\'] ms := by
  intro h
  cases h with
  | plain _ hb => exact absurd rfl hb

theorem not_content_mark (hq : isQuote q = true) : ¬ Content q [q] ms := by
  intro h
  cases h with
  | plain hc => exact absurd rfl hc

theorem not_content_closed (hq : isQuote q = true) {c : Char} (other : c ≠ q) :
    ¬ Content q (q :: c :: ds) ms := by
  intro h
  cases h with
  | plain hc => exact absurd rfl hc
  | doubled => exact absurd rfl other
  | escaped => exact absurd rfl (isQuote_ne_backslash hq)

theorem Strays.not_content (hq : isQuote q = true) (h : Strays q cs) : ¬ Content q cs ms := by
  intro whole
  cases h with
  | closed inner other =>
    obtain ⟨ns, tail⟩ := inner.rest hq whole
    exact not_content_closed hq other tail
  | doubled inner =>
    obtain ⟨ns, tail⟩ := inner.rest hq whole
    exact not_content_mark hq tail
  | escaped inner =>
    obtain ⟨ns, tail⟩ := inner.rest hq whole
    exact not_content_backslash hq tail

/-- Between two marks stands content, or something that strays. -/
theorem content_or_strays (q : Char) (cs : List Char) : (∃ ms, Content q cs ms) ∨ Strays q cs := by
  have onward : ∀ {front tail ms : List Char}, Content q front ms →
      (∃ ns, Content q tail ns) ∨ Strays q tail →
      (∃ ns, Content q (front ++ tail) ns) ∨ Strays q (front ++ tail) := by
    intro front tail ms h read
    rcases read with ⟨ns, inner⟩ | strays
    · exact .inl ⟨ms ++ ns, h.append inner⟩
    · exact .inr (.behind h strays)
  fun_induction unescape q cs with
  | case1 => exact .inl ⟨[], .nil⟩
  | case2 c =>
    by_cases hc : c = q
    · subst hc
      exact .inr (.doubled .nil)
    · by_cases hb : c = '\\'
      · subst hb
        exact .inr (.escaped .nil)
      · exact .inl ⟨[c], .plain hc hb .nil⟩
  | case3 c d rest escape ih =>
    obtain rfl : c = '\\' := beq_iff_eq.mp escape
    exact onward (.escaped .nil) ih
  | case4 c d rest plain doubled ih =>
    rw [Bool.and_eq_true, beq_iff_eq, beq_iff_eq] at doubled
    obtain ⟨rfl, rfl⟩ := doubled
    exact onward (.doubled .nil) ih
  | case5 c d rest plain single ih =>
    rw [beq_iff_eq] at plain
    by_cases hc : c = q
    · subst hc
      have other : d ≠ c := by
        rintro rfl
        exact single (by simp)
      exact .inr (.closed .nil other)
    · exact onward (.plain hc plain .nil) ih

/-! ## Tokens -/

theorem unquote_enclosed (hq : isQuote q = true) (cs : List Char) :
    unquote (q :: cs ++ [q]) = some (unescape q cs) := by
  rw [List.cons_append, unquote, List.getLast?_concat, List.dropLast_concat, if_pos (by simp [hq])]

/-- `unquote` looks at the ends of a token. -/
theorem exists_of_unquote {token : List Char} (h : (unquote token).isSome = true) :
    ∃ q cs, isQuote q = true ∧ token = q :: cs ++ [q] := by
  cases token with
  | nil => cases h
  | cons q rest =>
    rw [unquote] at h
    split at h
    · rename_i ends
      rw [Bool.and_eq_true, beq_iff_eq, List.getLast?_eq_some_iff] at ends
      obtain ⟨hq, cs, rfl⟩ := ends
      exact ⟨q, cs, hq, rfl⟩
    · cases h

theorem Quotes.unquote_eq {token : List Char} (h : Quotes token ms) : unquote token = some ms := by
  obtain ⟨q, cs, hq, content, rfl⟩ := h
  exact unquote_content hq content

theorem Misread.isSome_unquote {token : List Char} (h : Misread token) :
    (unquote token).isSome = true := by
  obtain ⟨q, cs, hq, _, rfl⟩ := h
  rw [unquote_enclosed hq]
  rfl

/-- A misread token is no quotation. -/
theorem Misread.not_quotes {token : List Char} (h : Misread token) : ¬ Quotes token ms := by
  obtain ⟨q, cs, hq, strays, rfl⟩ := h
  rintro ⟨q', cs', _, content, same⟩
  rw [List.cons_append, List.cons_append] at same
  obtain ⟨rfl, inner⟩ := List.cons.inj same
  obtain rfl := List.append_cancel_right inner
  exact strays.not_content hq content

/-- **Quotations are taken, and a token is taken for one in error just when it is misread.** -/
theorem quotations_taken_iff (token : List Char) :
    (∀ ms, Quotes token ms → unquote token = some ms) ∧
      (((unquote token).isSome = true ↔ ∃ ms, Quotes token ms) ↔ ¬ Misread token) := by
  refine ⟨fun ms => Quotes.unquote_eq, fun right misread => ?_, fun read => ⟨fun taken => ?_, ?_⟩⟩
  · obtain ⟨ms, quotes⟩ := right.mp misread.isSome_unquote
    exact misread.not_quotes quotes
  · obtain ⟨q, cs, hq, rfl⟩ := exists_of_unquote taken
    rcases content_or_strays q cs with ⟨ms, content⟩ | strays
    · exact ⟨ms, q, cs, hq, content, rfl⟩
    · exact absurd ⟨q, cs, hq, strays, rfl⟩ read
  · rintro ⟨ms, quotes⟩
    rw [quotes.unquote_eq]
    rfl

/-- An apostrophe that is doubled and a line break that is escaped. -/
theorem quotations_taken_iff_note :
    Quotes "'it''s\\n'".toList "it's\n".toList ∧
      unquote "'it''s\\n'".toList = some "it's\n".toList := by
  have content : Content '\x27' "it''s\\n".toList "it's\n".toList :=
    .plain (by decide) (by decide) <| .plain (by decide) (by decide) <| .doubled <|
      .plain (by decide) (by decide) <| .escaped .nil
  have quotes : Quotes "'it''s\\n'".toList "it's\n".toList := ⟨'\x27', _, rfl, content, rfl⟩
  exact ⟨quotes, (quotations_taken_iff _).1 _ quotes⟩

/-- **Two quotations with something between them are taken for one,** whose content starts and ends
without a mark and has marks inside. -/
theorem joined_quotations_taken_for_one :
    parseValue "'x' || 'y'".toList = some (.text "x' || 'y") ∧
      ¬ ∀ token, (unquote token).isSome = true ↔ ∃ ms, Quotes token ms := by
  refine ⟨rfl, fun every => ?_⟩
  have content : Content '\x27' ['x'] ['x'] := .plain (by decide) (by decide) .nil
  have misread : Misread "'x' || 'y'".toList :=
    ⟨'\x27', "x' || 'y".toList, rfl, .closed (c := ' ') content (by decide), rfl⟩
  obtain ⟨ms, quotes⟩ := (every _).mp misread.isSome_unquote
  exact misread.not_quotes quotes

end Polystore.Sql
