import Polystore.Proofs.Sql.Quotation

/-!
# Looking for clauses

The reader of statements cuts the text behind the head at keywords that stand outside quotations and
parentheses. It steps over a character unless a keyword stands in front of it, and then the text up
to the next keyword is the body of a clause. The lemmas here say which characters can be stepped
over, and what stepping over a quotation or reaching a keyword comes to.
-/

namespace Polystore.Sql

/-- Outside quotations at a depth of parentheses, not in a word. -/
def Standing.at (depth : Int) : Standing := ⟨.outside, depth, false⟩

/-- What is found behind some characters that belong to the text in front of the clauses. -/
def behind (cs : List Char) (found : List Char × List (String × List Char)) :
    List Char × List (String × List Char) := (cs ++ found.1, found.2)

theorem behind_behind (cs ds : List Char) (found : List Char × List (String × List Char)) :
    behind cs (behind ds found) = behind (cs ++ ds) found := by
  rw [behind, behind, behind, List.append_assoc]

/-! ## Stepping over characters -/

/-- Whether a keyword of a clause can start with the character. -/
def opensKeyword (c : Char) : Bool := ['w', 'g', 'o', 'l'].any (Text.sameFold · c)

theorem afterKeyword_eq_none {c : Char} (h : opensKeyword c = false) (rest : List Char) :
    afterKeyword (c :: rest) clauseKeywords = none := by
  have letters : Text.sameFold 'w' c = false ∧ Text.sameFold 'g' c = false ∧
      Text.sameFold 'o' c = false ∧ Text.sameFold 'l' c = false := by
    simpa [opensKeyword] using h
  obtain ⟨w, g, o, l⟩ := letters
  have stops : ∀ {d : Char} (word : List Char), Text.sameFold d c = false →
      afterWord (d :: word) (c :: rest) = none := by
    intro d word hd
    rw [afterWord, hd]
    rfl
  have whole : afterWord "where".toList (c :: rest) = none := stops _ w
  have group : afterWord "group".toList (c :: rest) = none := stops _ g
  have order : afterWord "order".toList (c :: rest) = none := stops _ o
  have limit : afterWord "limit".toList (c :: rest) = none := stops _ l
  have offset : afterWord "offset".toList (c :: rest) = none := stops _ o
  simp only [clauseKeywords, afterKeyword, afterWords, whole, group, order, limit, offset]
  rfl

theorem keywordLength_eq_none {s : Standing} {cs : List Char}
    (h : s.quoting.mark ≠ none ∨ s.inWord = true ∨ afterKeyword cs clauseKeywords = none) :
    keywordLength s cs = none := by
  unfold keywordLength
  split
  · rename_i counts
    rw [Bool.and_eq_true, Bool.and_eq_true] at counts
    rcases h with h | h | h
    · exact absurd (Option.isNone_iff_eq_none.mp counts.1.1) h
    · rw [h] at counts
      exact absurd counts.2 (by decide)
    · rw [h]
      rfl
  · rfl

/-- Where no keyword stands, one character is stepped over. -/
theorem clausesFrom_step {s : Standing} {c : Char} {rest : List Char}
    (h : s.quoting.mark ≠ none ∨ s.inWord = true ∨
      afterKeyword (c :: rest) clauseKeywords = none) :
    clausesFrom s 0 (c :: rest) = behind [c] (clausesFrom (s.after c) 0 rest) := by
  rw [clausesFrom, keywordLength_eq_none h]
  rfl

theorem clausesFrom_quiet {s : Standing} {c : Char} (h : opensKeyword c = false)
    (rest : List Char) :
    clausesFrom s 0 (c :: rest) = behind [c] (clausesFrom (s.after c) 0 rest) :=
  clausesFrom_step (.inr (.inr (afterKeyword_eq_none h rest)))

/-! ## Quotations -/

/-- In a quotation at a depth of parentheses; it does not matter what the character in front is. -/
def Standing.within (q : Char) (depth : Int) (inWord : Bool) : Standing :=
  ⟨⟨some q, false⟩, depth, inWord⟩

variable {q : Char} {cs ms : List Char}

theorem isQuote_opens_nothing (hq : isQuote q = true) :
    opensKeyword q = false ∧ (Text.isAlphanumeric q || q == '_') = false := by
  unfold isQuote at hq
  rw [Bool.or_eq_true, Bool.or_eq_true] at hq
  rcases hq with (hq | hq) | hq <;> rw [beq_iff_eq.mp hq] <;> decide

theorem within_after {c : Char} (hq : c ≠ q) (hb : c ≠ '\\') (depth : Int) (w : Bool) :
    (Standing.within q depth w).after c =
      Standing.within q depth (Text.isAlphanumeric c || c == '_') := by
  have mark : (c == q) = false := beq_eq_false_iff_ne.mpr hq
  have backslash : (c == '\\') = false := beq_eq_false_iff_ne.mpr hb
  simp [Standing.after, Standing.within, Quoting.after, mark, backslash]

theorem within_after_mark (hq : isQuote q = true) (depth : Int) (w : Bool) :
    (Standing.within q depth w).after q = Standing.at depth := by
  have backslash : (q == '\\') = false := beq_eq_false_iff_ne.mpr (isQuote_ne_backslash hq)
  simp [Standing.after, Standing.within, Standing.at, Quoting.after, backslash,
    (isQuote_opens_nothing hq).2]

theorem at_after_mark (hq : isQuote q = true) (depth : Int) :
    (Standing.at depth).after q = Standing.within q depth false := by
  have shape : q ≠ '(' ∧ q ≠ ')' := by
    constructor <;> rintro rfl <;> exact absurd hq (by decide)
  simp [Standing.after, Standing.within, Standing.at, Quoting.after, Quoting.outside, hq,
    (isQuote_opens_nothing hq).2, shape]

theorem clausesFrom_within {c : Char} (depth : Int) (w : Bool) (rest : List Char) :
    clausesFrom (Standing.within q depth w) 0 (c :: rest) =
      behind [c] (clausesFrom ((Standing.within q depth w).after c) 0 rest) :=
  clausesFrom_step (.inl (Option.some_ne_none q))

theorem clausesFrom_content (hq : isQuote q = true) (h : Content q cs ms) (depth : Int) (w : Bool)
    (rest : List Char) :
    clausesFrom (Standing.within q depth w) 0 (cs ++ q :: rest) =
      behind (cs ++ [q]) (clausesFrom (Standing.at depth) 0 rest) := by
  induction h generalizing w with
  | nil =>
    rw [List.nil_append, clausesFrom_within, within_after_mark hq]
    rfl
  | plain hc hb _ ih =>
    rw [List.cons_append, clausesFrom_within, within_after hc hb, ih, behind_behind]
    rfl
  | doubled _ ih =>
    -- the first mark closes the quotation and the second one opens it again
    rw [List.cons_append, List.cons_append, clausesFrom_within, within_after_mark hq,
      clausesFrom_quiet (isQuote_opens_nothing hq).1, at_after_mark hq, ih, behind_behind,
      behind_behind]
    rfl
  | @escaped c cs ms _ ih =>
    have steps : ((Standing.within q depth w).after '\\').after c =
        Standing.within q depth (Text.isAlphanumeric c || c == '_') := by
      have backslash : ('\\' == q) = false :=
        beq_eq_false_iff_ne.mpr (isQuote_ne_backslash hq).symm
      simp [Standing.after, Standing.within, Quoting.after]
    rw [List.cons_append, List.cons_append, clausesFrom_within,
      clausesFrom_step (.inl (Option.some_ne_none q)), steps, ih, behind_behind, behind_behind]
    rfl

/-- Nothing in a quotation is the keyword of a clause. -/
theorem clausesFrom_quotation (hq : isQuote q = true) (h : Content q cs ms) (depth : Int)
    (rest : List Char) :
    clausesFrom (Standing.at depth) 0 (q :: cs ++ q :: rest) =
      behind (q :: cs ++ [q]) (clausesFrom (Standing.at depth) 0 rest) := by
  rw [List.cons_append, clausesFrom_quiet (isQuote_opens_nothing hq).1, at_after_mark hq,
    clausesFrom_content hq h, behind_behind]
  rfl

end Polystore.Sql
