import Polystore.Proofs.Outcome
import Polystore.Proofs.Sql.Parsing

/-!
# What a reader has taken

The converse of reading what is derived. A reader that finds something has taken tokens off the
front, and these tokens derive what it found; the numbers of parameters move on accordingly. With
the other direction the reader of predicates accepts exactly what the grammar derives.

Each reader is opened once, in the order in which one uses the other. A keyword that was looked for
and not found leaves everything as it was, and the parts of a predicate go by the fuel that they are
read with.
-/

namespace Polystore.Sql

namespace Reader

variable {α β : Type} {s s' : Remaining} {t : Token}

theorem run_bind_eq_ok {r : Reader α} {f : α → Reader β} {w : β} :
    (r >>= f).run s = .ok (w, s') ↔
      ∃ v u, r.run s = .ok (v, u) ∧ (f v).run u = .ok (w, s') := by
  rw [StateT.run_bind, Outcome.bind_eq_ok]
  constructor
  · rintro ⟨⟨v, u⟩, hr, hf⟩
    exact ⟨v, u, hr, hf⟩
  · rintro ⟨v, u, hr, hf⟩
    exact ⟨⟨v, u⟩, hr, hf⟩

theorem run_pure_eq_ok {v w : α} : (pure v : Reader α).run s = .ok (w, s') ↔ v = w ∧ s = s' := by
  constructor
  · intro h
    cases h
    exact ⟨rfl, rfl⟩
  · rintro ⟨rfl, rfl⟩
    rfl

/-- An outcome reads nothing. -/
theorem lift_eq_ok {o : Outcome α} {v : α} (h : (o : Reader α).run s = .ok (v, s')) :
    o = .ok v ∧ s = s' := by
  cases o with
  | ok w =>
    cases h
    exact ⟨rfl, rfl⟩
  | error e => cases h

/-- A token that cannot stand somewhere is never accepted. -/
theorem unexpected_ne_ok {v : α} : (unexpected t : Reader α).run s ≠ .ok (v, s') := by
  intro h
  cases h

theorem throw_ne_ok {e : Error} {v : α} : (throw e : Reader α).run s ≠ .ok (v, s') := by
  intro h
  cases h

/-! ## Tokens -/

theorem next_eq_ok {expected : String} (h : (next expected).run s = .ok (t, s')) :
    s.tokens = t :: s'.tokens ∧ s'.nextParam = s.nextParam := by
  obtain ⟨tokens, position, n⟩ := s
  cases tokens with
  | nil => cases h
  | cons u rest =>
    cases h
    exact ⟨rfl, rfl⟩

theorem peek_eq_ok {front : Option Token} (h : peek.run s = .ok (front, s')) :
    front = s.tokens.head? ∧ s' = s := by
  cases h
  exact ⟨rfl, rfl⟩

/-- Either the keyword stood in front, or nothing has changed and it did not. -/
theorem eatKeyword_eq_ok {k : String} {found : Bool} (h : (eatKeyword k).run s = .ok (found, s')) :
    (found = true ∧ s'.nextParam = s.nextParam ∧
        ∃ t, t.isKeyword k = true ∧ s.tokens = t :: s'.tokens) ∨
      (found = false ∧ s' = s ∧ ∀ t tail, s.tokens = t :: tail → t.isKeyword k = false) := by
  obtain ⟨tokens, position, n⟩ := s
  cases tokens with
  | nil =>
    cases h
    exact .inr ⟨rfl, rfl, fun t tail e => nomatch e⟩
  | cons u rest =>
    change (if u.isKeyword k then _ else _ : Reader Bool).run _ = _ at h
    by_cases isKeyword : u.isKeyword k = true
    · rw [if_pos isKeyword] at h
      cases h
      exact .inl ⟨rfl, rfl, u, isKeyword, rfl⟩
    · rw [if_neg isKeyword] at h
      cases h
      refine .inr ⟨rfl, rfl, fun t tail e => ?_⟩
      cases e
      exact Bool.eq_false_iff.mpr isKeyword

/-- Whether a `NOT` stood in front. -/
theorem negation_eq_ok {negated : Bool} (h : (eatKeyword "NOT").run s = .ok (negated, s')) :
    s'.nextParam = s.nextParam ∧
      ∃ nots, IsNegation negated nots ∧ s.tokens = nots ++ s'.tokens := by
  rcases eatKeyword_eq_ok h with ⟨rfl, number, t, isNot, tokens⟩ | ⟨rfl, rfl, _⟩
  · exact ⟨number, [t], .present isNot, tokens⟩
  · exact ⟨rfl, [], .absent, rfl⟩

theorem expectKeyword_eq_ok {k : String} {u : Unit} (h : (expectKeyword k).run s = .ok (u, s')) :
    s'.nextParam = s.nextParam ∧ ∃ t, t.isKeyword k = true ∧ s.tokens = t :: s'.tokens := by
  obtain ⟨t, m, taken, h⟩ := run_bind_eq_ok.mp h
  obtain ⟨tokens, number⟩ := next_eq_ok taken
  by_cases isKeyword : t.isKeyword k = true
  · rw [if_pos isKeyword] at h
    obtain ⟨_, rfl⟩ := run_pure_eq_ok.mp h
    exact ⟨number, t, isKeyword, tokens⟩
  · rw [if_neg isKeyword] at h
    exact absurd h unexpected_ne_ok

/-! ## Values -/

theorem operand_eq_ok {o : Operand} (h : operand.run s = .ok (o, s')) :
    ∃ t, s.tokens = t :: s'.tokens ∧ IsValue s.nextParam t o s'.nextParam := by
  obtain ⟨t, m, taken, h⟩ := run_bind_eq_ok.mp h
  obtain ⟨tokens, number⟩ := next_eq_ok taken
  refine ⟨t, ?_⟩
  rw [tokens, ← number]
  cases t with
  | word w =>
    dsimp only at h
    split at h
    · rename_i v spelled
      obtain ⟨rfl, rfl⟩ := run_pure_eq_ok.mp h
      exact ⟨rfl, .word spelled⟩
    · -- a word that spells no literal is the next parameter
      rename_i unspelled
      cases h
      exact ⟨rfl, .param unspelled⟩
  | quoted w =>
    obtain ⟨rfl, rfl⟩ := run_pure_eq_ok.mp h
    exact ⟨rfl, .quoted w⟩
  | _ => exact absurd h unexpected_ne_ok

theorem listItems_eq_ok {fuel : Nat} {os : List Operand}
    (h : (listItems fuel).run s = .ok (os, s')) :
    ∃ ts, s.tokens = ts ++ .rightParen :: s'.tokens ∧ AreValues s.nextParam ts os s'.nextParam := by
  induction fuel generalizing s os with
  | zero => exact absurd h throw_ne_ok
  | succ fuel ih =>
    obtain ⟨o, m, item, h⟩ := run_bind_eq_ok.mp h
    obtain ⟨u, m', taken, h⟩ := run_bind_eq_ok.mp h
    obtain ⟨t, here, isValue⟩ := operand_eq_ok item
    obtain ⟨behind, number⟩ := next_eq_ok taken
    rw [here, behind]
    rw [← number] at isValue
    cases u with
    | comma =>
      obtain ⟨rest, m'', items, h⟩ := run_bind_eq_ok.mp h
      obtain ⟨rfl, rfl⟩ := run_pure_eq_ok.mp h
      obtain ⟨ts, tokens, areValues⟩ := ih items
      rw [tokens]
      exact ⟨t :: .comma :: ts, rfl, .more isValue areValues⟩
    | rightParen =>
      obtain ⟨rfl, rfl⟩ := run_pure_eq_ok.mp h
      exact ⟨[t], rfl, .one isValue⟩
    | _ => exact absurd h unexpected_ne_ok

theorem list_eq_ok {o : Operand} (h : list.run s = .ok (o, s')) :
    ∃ ts, s.tokens = ts ++ s'.tokens ∧ IsList s.nextParam ts o s'.nextParam := by
  obtain ⟨t, m, taken, h⟩ := run_bind_eq_ok.mp h
  obtain ⟨tokens, number⟩ := next_eq_ok taken
  rw [tokens, ← number]
  cases t with
  | leftParen =>
    obtain ⟨front, m', seen, h⟩ := run_bind_eq_ok.mp h
    obtain ⟨rfl, rfl⟩ := peek_eq_ok seen
    -- only an empty list is closed without an item
    by_cases empty : m'.tokens.head? = some .rightParen
    · rw [if_pos empty] at h
      obtain ⟨t, m'', taken, h⟩ := run_bind_eq_ok.mp h
      obtain ⟨rfl, rfl⟩ := run_pure_eq_ok.mp h
      obtain ⟨tokens, number⟩ := next_eq_ok taken
      rw [tokens] at empty ⊢
      obtain rfl : t = .rightParen := Option.some.inj empty
      rw [number]
      exact ⟨[.leftParen, .rightParen], rfl, .empty _⟩
    · rw [if_neg empty] at h
      obtain ⟨left, m'', here, h⟩ := run_bind_eq_ok.mp h
      obtain ⟨os, m''', items, h⟩ := run_bind_eq_ok.mp h
      obtain ⟨rfl, rfl⟩ := run_pure_eq_ok.mp h
      cases here
      obtain ⟨ts, tokens, areValues⟩ := listItems_eq_ok items
      rw [tokens]
      exact ⟨.leftParen :: ts ++ [.rightParen], by simp, .filled areValues⟩
  | _ => exact absurd h unexpected_ne_ok

/-! ## Comparisons -/

theorem column_eq_ok {name : String} {number : Option Value}
    (h : column.run s = .ok ((name, number), s'))
    (notNot : ∀ t tail, s.tokens = t :: tail → t.isKeyword "NOT" = false) :
    s'.nextParam = s.nextParam ∧ ∃ t, s.tokens = t :: s'.tokens ∧ IsColumn t name number := by
  obtain ⟨t, m, taken, h⟩ := run_bind_eq_ok.mp h
  obtain ⟨tokens, moved⟩ := next_eq_ok taken
  have plain := notNot t m.tokens tokens
  cases t with
  | word w =>
    obtain ⟨same, rfl⟩ := run_pure_eq_ok.mp h
    obtain ⟨rfl, rfl⟩ := Prod.mk.inj same
    exact ⟨moved, .word w, tokens, .word plain⟩
  | quoted w =>
    obtain ⟨same, rfl⟩ := run_pure_eq_ok.mp h
    obtain ⟨rfl, rfl⟩ := Prod.mk.inj same
    exact ⟨moved, .quoted w, tokens, .quoted w⟩
  | _ => exact absurd h unexpected_ne_ok

/-- Behind a column and a symbol stands one value. -/
theorem symbolComparison_eq_ok {t : Token} {name symbol : String} {number : Option Value}
    {p : Predicate} (hc : IsColumn t name number)
    (h : (symbolComparison name number symbol).run s = .ok (p, s')) :
    ∃ v, s.tokens = v :: s'.tokens ∧
      IsComparison s.nextParam [t, .symbol symbol, v] p s'.nextParam := by
  unfold symbolComparison at h
  split at h
  · exact absurd h throw_ne_ok
  · rename_i op known
    obtain ⟨o, m, value, h⟩ := run_bind_eq_ok.mp h
    obtain ⟨v, tokens, isValue⟩ := operand_eq_ok value
    refine ⟨v, ?_⟩
    split at h
    · -- the comparison is settled, and reading went on because it did not fail
      rename_i left right
      obtain ⟨truth, m', settled, h⟩ := run_bind_eq_ok.mp h
      obtain ⟨rfl, rfl⟩ := run_pure_eq_ok.mp h
      obtain ⟨settles, rfl⟩ := lift_eq_ok settled
      exact ⟨tokens, .settled hc known isValue settles⟩
    · rename_i unsettled
      obtain ⟨rfl, rfl⟩ := run_pure_eq_ok.mp h
      refine ⟨tokens, .symbol hc known isValue ?_⟩
      cases number with
      | none => exact .inl rfl
      | some left => exact .inr fun right same => unsettled left right rfl same

/-- Behind a column, and perhaps a `NOT`, stands a word and what it asks for. -/
theorem wordComparison_eq_ok {t : Token} {name word : String} {number : Option Value}
    {negated : Bool} {nots : List Token} {p : Predicate} (hc : IsColumn t name number)
    (hn : IsNegation negated nots) (h : (wordComparison name negated word).run s = .ok (p, s')) :
    ∃ ts, s.tokens = ts ++ s'.tokens ∧
      IsComparison s.nextParam (t :: nots ++ .word word :: ts) p s'.nextParam := by
  simp only [wordComparison] at h
  by_cases isIs : ((Token.word word).isKeyword "IS" && !negated) = true
  · rw [if_pos isIs] at h
    obtain ⟨is, plain⟩ := Bool.and_eq_true_iff.mp isIs
    -- `IS` stands behind no `NOT`, but a `NOT` may stand behind it
    cases hn with
    | present _ => cases plain
    | absent =>
      obtain ⟨isNot, m, negation, h⟩ := run_bind_eq_ok.mp h
      obtain ⟨_, m', null, h⟩ := run_bind_eq_ok.mp h
      obtain ⟨rfl, rfl⟩ := run_pure_eq_ok.mp h
      obtain ⟨moved, nots, hn, tokens⟩ := negation_eq_ok negation
      obtain ⟨moved', u, isNull, tokens'⟩ := expectKeyword_eq_ok null
      refine ⟨nots ++ [u], ?_, ?_⟩
      · rw [tokens, tokens', List.append_assoc]
        rfl
      · rw [moved', moved]
        exact .null hc is hn isNull
  rw [if_neg isIs] at h
  by_cases isLike : (Token.word word).isKeyword "LIKE" = true
  · rw [if_pos isLike] at h
    obtain ⟨o, m, value, h⟩ := run_bind_eq_ok.mp h
    obtain ⟨rfl, rfl⟩ := run_pure_eq_ok.mp h
    obtain ⟨v, tokens, isValue⟩ := operand_eq_ok value
    exact ⟨[v], tokens, .like hc hn isLike isValue⟩
  rw [if_neg isLike] at h
  by_cases isIn : (Token.word word).isKeyword "IN" = true
  · rw [if_pos isIn] at h
    obtain ⟨o, m, values, h⟩ := run_bind_eq_ok.mp h
    obtain ⟨rfl, rfl⟩ := run_pure_eq_ok.mp h
    obtain ⟨ts, tokens, isList⟩ := list_eq_ok values
    exact ⟨ts, tokens, .within hc hn isIn isList⟩
  rw [if_neg isIn] at h
  by_cases isBetween : (Token.word word).isKeyword "BETWEEN" = true
  · rw [if_pos isBetween] at h
    obtain ⟨low, m, lowValue, h⟩ := run_bind_eq_ok.mp h
    obtain ⟨_, m', and, h⟩ := run_bind_eq_ok.mp h
    obtain ⟨high, m'', highValue, h⟩ := run_bind_eq_ok.mp h
    obtain ⟨rfl, rfl⟩ := run_pure_eq_ok.mp h
    obtain ⟨v, tokens, isLow⟩ := operand_eq_ok lowValue
    obtain ⟨moved, u, isAnd, tokens'⟩ := expectKeyword_eq_ok and
    obtain ⟨w, tokens'', isHigh⟩ := operand_eq_ok highValue
    rw [moved] at isHigh
    refine ⟨[v, u, w], ?_, .between hc hn isBetween isLow isAnd isHigh⟩
    rw [tokens, tokens', tokens'']
    rfl
  · rw [if_neg isBetween] at h
    exact absurd h throw_ne_ok

theorem comparison_eq_ok {p : Predicate} (h : comparison.run s = .ok (p, s'))
    (notNot : ∀ t tail, s.tokens = t :: tail → t.isKeyword "NOT" = false) :
    ∃ ts, s.tokens = ts ++ s'.tokens ∧ IsComparison s.nextParam ts p s'.nextParam := by
  obtain ⟨⟨name, number⟩, m, first, h⟩ := run_bind_eq_ok.mp h
  obtain ⟨negated, m', negation, h⟩ := run_bind_eq_ok.mp h
  obtain ⟨u, m'', operator, h⟩ := run_bind_eq_ok.mp h
  obtain ⟨moved, t, front, isColumn⟩ := column_eq_ok first notNot
  obtain ⟨moved', nots, isNegation, between⟩ := negation_eq_ok negation
  obtain ⟨behind, moved''⟩ := next_eq_ok operator
  rw [front, between, behind, ← moved, ← moved', ← moved'']
  cases u with
  | symbol symbol =>
    -- a symbol stands behind no `NOT`
    obtain _ | _ := isNegation
    · obtain ⟨v, last, comparison⟩ := symbolComparison_eq_ok isColumn h
      exact ⟨[t, .symbol symbol, v], by rw [last]; rfl, comparison⟩
    · exact absurd h unexpected_ne_ok
  | word word =>
    obtain ⟨ts, last, comparison⟩ := wordComparison_eq_ok isColumn isNegation h
    exact ⟨t :: nots ++ .word word :: ts, by rw [last]; simp, comparison⟩
  | _ => exact absurd h unexpected_ne_ok

/-! ## Rows of terms -/

theorem conjunction_eq_ok {found : Option Bool} (read : conjunction.run s = .ok (found, s')) :
    (∃ joining t, found = some joining ∧ Joins t joining ∧ s.tokens = t :: s'.tokens ∧
        s'.nextParam = s.nextParam) ∨
      (found = none ∧ s' = s) := by
  obtain ⟨isAnd, m, and, h⟩ := run_bind_eq_ok.mp read
  rcases eatKeyword_eq_ok and with ⟨rfl, moved, t, keyword, tokens⟩ | ⟨rfl, rfl, _⟩
  · obtain ⟨rfl, rfl⟩ := run_pure_eq_ok.mp h
    exact .inl ⟨true, t, rfl, .and keyword, tokens, moved⟩
  · obtain ⟨isOr, m', or, last⟩ := run_bind_eq_ok.mp h
    rcases eatKeyword_eq_ok or with ⟨rfl, moved, t, keyword, tokens⟩ | ⟨rfl, rfl, _⟩
    · obtain ⟨rfl, rfl⟩ := run_pure_eq_ok.mp last
      exact .inl ⟨false, t, rfl, .or keyword, tokens, moved⟩
    · obtain ⟨rfl, rfl⟩ := run_pure_eq_ok.mp last
      exact .inr ⟨rfl, rfl⟩

theorem expectRightParen_eq_ok {input : List Char} {u : Unit}
    (h : (expectRightParen input).run s = .ok (u, s')) :
    s.tokens = .rightParen :: s'.tokens ∧ s'.nextParam = s.nextParam := by
  obtain ⟨here, m, seen, h⟩ := run_bind_eq_ok.mp h
  cases seen
  split at h
  · rename_i rest tokens
    obtain ⟨t, m', taken, h⟩ := run_bind_eq_ok.mp h
    obtain ⟨_, rfl⟩ := run_pure_eq_ok.mp h
    obtain ⟨tokens', moved⟩ := next_eq_ok taken
    obtain ⟨rfl, rfl⟩ := List.cons.inj (tokens.symm.trans tokens')
    exact ⟨tokens, moved⟩
  · exact absurd h throw_ne_ok

/-- What a part finds is derived by the tokens that it took. -/
theorem readerOf_eq_ok {input : List Char} {fuel : Nat} (part : Part) {p : Predicate}
    (read : (readerOf input fuel part).run s = .ok (p, s')) :
    ∃ ts, s.tokens = ts ++ s'.tokens ∧ Derives part s.nextParam ts p s'.nextParam := by
  -- what a part reads next has less fuel, whichever part it is
  induction fuel generalizing part s s' p with
  | zero =>
    cases part with
    | term => exact absurd read throw_ne_ok
    | whole => exact absurd read throw_ne_ok
    | more joined =>
      obtain ⟨rfl, rfl⟩ := run_pure_eq_ok.mp read
      exact ⟨[], rfl, .done _ _⟩
  | succ fuel ih =>
    cases part with
    | term =>
      obtain ⟨front, m, seen, h⟩ := run_bind_eq_ok.mp read
      obtain ⟨rfl, rfl⟩ := peek_eq_ok seen
      split at h
      · rename_i paren
        obtain ⟨t, m', opening, h⟩ := run_bind_eq_ok.mp h
        obtain ⟨q, m'', inner, h⟩ := run_bind_eq_ok.mp h
        obtain ⟨_, m''', closing, h⟩ := run_bind_eq_ok.mp h
        obtain ⟨rfl, rfl⟩ := run_pure_eq_ok.mp h
        obtain ⟨tokens, moved⟩ := next_eq_ok opening
        obtain ⟨ts, tokens', derives⟩ := ih .whole inner
        obtain ⟨tokens'', moved'⟩ := expectRightParen_eq_ok closing
        rw [tokens] at paren
        -- the token that was peeked at is the one that was taken
        obtain rfl : t = .leftParen := Option.some.inj paren
        refine ⟨.leftParen :: ts ++ [.rightParen], ?_, ?_⟩
        · rw [tokens, tokens', tokens'']
          simp
        · rw [moved', ← moved]
          exact .group derives
      · obtain ⟨isNot, m', not, other⟩ := run_bind_eq_ok.mp h
        rcases eatKeyword_eq_ok not with ⟨rfl, moved, t, keyword, tokens⟩ | ⟨rfl, rfl, notNot⟩
        · obtain ⟨q, m'', inner, last⟩ := run_bind_eq_ok.mp other
          obtain ⟨rfl, rfl⟩ := run_pure_eq_ok.mp last
          obtain ⟨ts, tokens', derives⟩ := ih .term inner
          refine ⟨t :: ts, by rw [tokens, tokens']; rfl, ?_⟩
          rw [← moved]
          exact .not keyword derives
        · obtain ⟨ts, tokens, comparison⟩ := comparison_eq_ok other notNot
          exact ⟨ts, tokens, .comparison comparison⟩
    | whole =>
      obtain ⟨q, m, first, h⟩ := run_bind_eq_ok.mp read
      obtain ⟨ts, tokens, term⟩ := ih .term first
      obtain ⟨us, tokens', more⟩ := ih (.more q) h
      exact ⟨ts ++ us, by rw [tokens, tokens', List.append_assoc], .whole term more⟩
    | more joined =>
      obtain ⟨found, m, joining, h⟩ := run_bind_eq_ok.mp read
      rcases conjunction_eq_ok joining with ⟨c, t, rfl, joins, tokens, moved⟩ | ⟨rfl, rfl⟩
      · obtain ⟨q, m', right, h⟩ := run_bind_eq_ok.mp h
        obtain ⟨ts, tokens', term⟩ := ih .term right
        obtain ⟨us, tokens'', more⟩ := ih (.more (join c joined q)) h
        refine ⟨t :: ts ++ us, ?_, ?_⟩
        · rw [tokens, tokens', tokens'']
          simp
        · rw [moved] at term
          exact .more joins term more
      · obtain ⟨rfl, rfl⟩ := run_pure_eq_ok.mp h
        exact ⟨[], rfl, .done _ _⟩

/-! ## Whole predicates -/

theorem finish_eq_ok {input : List Char} {u : Unit} (h : (finish input).run s = .ok (u, s')) :
    s.tokens = [] ∧ s' = s := by
  obtain ⟨front, m, seen, h⟩ := run_bind_eq_ok.mp h
  obtain ⟨rfl, rfl⟩ := peek_eq_ok seen
  split at h
  · rename_i none
    obtain ⟨_, rfl⟩ := run_pure_eq_ok.mp h
    exact ⟨List.head?_eq_none_iff.mp none, rfl⟩
  · exact absurd h throw_ne_ok
  · exact absurd h unexpected_ne_ok

/-- The reader of predicates accepts what the grammar derives, and nothing else. -/
theorem predicate_eq_ok {input : List Char} {ts : List Token} {position a : Nat} {p : Predicate} :
    (predicate input).run ⟨ts, position, a⟩ = .ok (p, s') ↔
      s' = ⟨[], position + ts.length, s'.nextParam⟩ ∧ Derives .whole a ts p s'.nextParam := by
  constructor
  · intro h
    obtain ⟨here, m, seen, read⟩ := run_bind_eq_ok.mp h
    cases seen
    obtain ⟨q, m, whole, read⟩ := run_bind_eq_ok.mp read
    obtain ⟨_, m', last, read⟩ := run_bind_eq_ok.mp read
    obtain ⟨rfl, rfl⟩ := run_pure_eq_ok.mp read
    obtain ⟨empty, rfl⟩ := finish_eq_ok last
    have part : (readerOf input (2 * ts.length + 2) .whole).run ⟨ts, position, a⟩ =
      .ok (q, m') := whole
    obtain ⟨us, tokens, derives⟩ := readerOf_eq_ok .whole part
    rw [empty, List.append_nil] at tokens
    obtain rfl : ts = us := tokens
    -- the position is that of the converse
    have found := takes_predicate derives input position
    rw [List.append_nil, h] at found
    obtain ⟨_, same⟩ := Prod.mk.inj (Except.ok.inj found)
    exact ⟨same, derives⟩
  · rintro ⟨same, derives⟩
    have found := takes_predicate derives input position
    rw [List.append_nil] at found
    rw [found, ← same]

end Reader

/-- **A text reads as a predicate exactly if its tokens derive the predicate.** -/
theorem parsePredicate_eq_ok {cs : List Char} {p : Predicate} {a b : Nat} :
    parsePredicate a cs = .ok (p, b) ↔
      ∃ ts, tokenize cs = .ok ts ∧ Derives .whole a ts p b := by
  constructor
  · intro h
    obtain ⟨ts, spelled, h⟩ := Outcome.bind_eq_ok.mp h
    obtain ⟨⟨q, s⟩, found, h⟩ := Outcome.bind_eq_ok.mp h
    cases h
    exact ⟨ts, spelled, (Reader.predicate_eq_ok.mp found).2⟩
  · rintro ⟨ts, spelled, derives⟩
    exact parsePredicate_of_derives spelled derives

end Polystore.Sql
