import Polystore.Proofs.Sql.Grammar

/-!
# Reading what is derived

On tokens that derive a predicate the reader of predicates finds this predicate and stops behind
them. What follows does not matter, unless it is a keyword that joins on. Fuel is counted by tokens:
a term needs less than two for each of its tokens, so that the fuel that reading starts with always
suffices.
-/

namespace Polystore.Sql

/-- A reader takes tokens off the front and finds a value, whatever its position; the number of the
next parameter moves on. -/
def Takes {α : Type} (r : Reader α) (a : Nat) (ts : List Token) (v : α) (b : Nat)
    (rest : List Token) : Prop :=
  ∀ position, r.run ⟨ts ++ rest, position, a⟩ = .ok (v, ⟨rest, position + ts.length, b⟩)

namespace Takes

variable {α β : Type} {a b c : Nat} {ts us rest : List Token} {v : α} {w : β}

theorem pure (v : α) (a : Nat) (rest : List Token) :
    Takes (Pure.pure v : Reader α) a [] v a rest := fun _ => rfl

/-- One reader behind the other. -/
theorem bind {r : Reader α} {f : α → Reader β} (hr : Takes r a ts v b (us ++ rest))
    (hf : Takes (f v) b us w c rest) : Takes (r >>= f) a (ts ++ us) w c rest := by
  intro position
  rw [List.append_assoc, StateT.run_bind, hr position]
  show (f v).run _ = _
  rw [hf, List.length_append, Nat.add_assoc]

/-- A reader that takes nothing in front of another one. -/
theorem bind_nil {r : Reader α} {f : α → Reader β} (hr : Takes r a [] v b (us ++ rest))
    (hf : Takes (f v) b us w c rest) : Takes (r >>= f) a us w c rest := hr.bind hf

/-- The last reader takes nothing. -/
theorem bind_last {r : Reader α} {f : α → Reader β} (hr : Takes r a ts v b rest)
    (hf : Takes (f v) b [] w c rest) : Takes (r >>= f) a ts w c rest := by
  have both : Takes (r >>= f) a (ts ++ []) w c rest := Takes.bind hr hf
  rw [List.append_nil] at both
  exact both

theorem bind_cons {r : Reader α} {f : α → Reader β} {t : Token}
    (hr : Takes r a [t] v b (us ++ rest)) (hf : Takes (f v) b us w c rest) :
    Takes (r >>= f) a (t :: us) w c rest := hr.bind hf

theorem get_bind {f : Remaining → Reader β}
    (h : ∀ position, Takes (f ⟨ts ++ rest, position, a⟩) a ts w b rest) :
    Takes (do f (← get)) a ts w b rest := fun position => h position position

end Takes

namespace Reader

variable {a b c : Nat} {t : Token} {ts us rest : List Token} {o : Operand}

/-! ## Tokens -/

theorem takes_next (expected : String) : Takes (next expected) a [t] t a rest := fun _ => rfl

theorem takes_peek : Takes peek a [] rest.head? a rest := fun _ => rfl

theorem takes_eatKeyword {k : String} (h : t.isKeyword k = true) :
    Takes (eatKeyword k) a [t] true a rest := by
  intro position
  show (if t.isKeyword k then _ else _ : Reader Bool).run _ = _
  rw [h]
  rfl

/-- No keyword is taken where another token stands, or none. -/
theorem takes_eatKeyword_nothing {k : String}
    (h : ∀ t tail, rest = t :: tail → t.isKeyword k = false) :
    Takes (eatKeyword k) a [] false a rest := by
  intro position
  cases rest with
  | nil => rfl
  | cons t tail =>
    show (if t.isKeyword k then _ else _ : Reader Bool).run _ = _
    rw [h t tail rfl]
    rfl

theorem takes_expectKeyword {k : String} (h : t.isKeyword k = true) :
    Takes (expectKeyword k) a [t] () a rest := by
  refine (takes_next k).bind_last ?_
  rw [h]
  exact Takes.pure () a rest

theorem takes_expectRightParen (input : List Char) :
    Takes (expectRightParen input) a [.rightParen] () a rest := fun _ => rfl

theorem takes_freshParam : Takes freshParam a [] a (a + 1) rest := fun _ => rfl

/-- A token cannot be two keywords. -/
theorem isKeyword_false {k k' : String} (h : t.isKeyword k = true)
    (ne : Text.asciiLower k ≠ Text.asciiLower k') : t.isKeyword k' = false := by
  cases t with
  | word s =>
    have hs : Text.asciiLower s = Text.asciiLower k := beq_iff_eq.mp h
    exact beq_eq_false_iff_ne.mpr (hs ▸ ne)
  | _ => rfl

theorem exists_word_of_isKeyword {k : String} (h : t.isKeyword k = true) :
    ∃ s, t = .word s := by
  cases t with
  | word s => exact ⟨s, rfl⟩
  | _ => cases h

/-! ## Values -/

theorem takes_operand (h : IsValue a t o b) : Takes operand a [t] o b rest := by
  refine (takes_next "value").bind_last ?_
  cases h with
  | word hv =>
    simp only [hv]
    exact Takes.pure _ _ _
  | param hv =>
    simp only [hv]
    exact takes_freshParam.bind_nil (Takes.pure _ _ _)
  | quoted s => exact Takes.pure _ _ _

theorem takes_listItems {os : List Operand} (h : AreValues a ts os b) {fuel : Nat}
    (enough : ts.length < fuel) :
    Takes (listItems fuel) a (ts ++ [.rightParen]) os b rest := by
  induction h generalizing fuel with
  | one hv =>
    cases fuel with
    | zero => exact absurd enough (Nat.not_lt_zero _)
    | succ fuel =>
      exact (takes_operand hv).bind_cons ((takes_next ")").bind_last (Takes.pure _ _ _))
  | more hv _ ih =>
    cases fuel with
    | zero => exact absurd enough (Nat.not_lt_zero _)
    | succ fuel =>
      rw [List.length_cons, List.length_cons] at enough
      refine (takes_operand hv).bind_cons ((takes_next ")").bind_cons ?_)
      exact (ih (by omega)).bind_last (Takes.pure _ _ _)

theorem AreValues.head_ne {ts : List Token} {os : List Operand} (h : AreValues a ts os b)
    (tail : List Token) : (ts ++ tail).head? ≠ some .rightParen := by
  cases h with
  | one hv => cases hv <;> exact fun e => nomatch Option.some.inj e
  | more hv _ => cases hv <;> exact fun e => nomatch Option.some.inj e

theorem takes_list (h : IsList a ts o b) : Takes list a ts o b rest := by
  cases h with
  | empty =>
    refine (takes_next "(").bind_cons (takes_peek.bind_nil ?_)
    exact (takes_next ")").bind_last (Takes.pure _ _ _)
  | @filled _ ts os hv =>
    refine (takes_next "(").bind_cons (takes_peek.bind_nil ?_)
    have items : (ts ++ [Token.rightParen] ++ rest).head? ≠ some .rightParen := by
      rw [List.append_assoc]
      exact AreValues.head_ne hv _
    show Takes (if (ts ++ [Token.rightParen] ++ rest).head? = some .rightParen then _ else _)
      _ _ _ _ _
    rw [if_neg items]
    refine Takes.get_bind fun position => ?_
    refine (takes_listItems hv ?_).bind_last (Takes.pure _ _ _)
    show ts.length < (ts ++ [Token.rightParen] ++ rest).length + 1
    rw [List.length_append, List.length_append]
    omega

/-! ## Comparisons -/

theorem takes_column {name : String} {number : Option Value} (h : IsColumn t name number) :
    Takes column a [t] (name, number) a rest := by
  refine (takes_next "column").bind_last ?_
  cases h with
  | word _ => exact Takes.pure _ _ _
  | quoted s => exact Takes.pure _ _ _

theorem takes_negation {negated : Bool} (h : IsNegation negated ts)
    (behind : ∀ t tail, rest = t :: tail → t.isKeyword "NOT" = false) :
    Takes (eatKeyword "NOT") a ts negated a rest := by
  cases h with
  | absent => exact takes_eatKeyword_nothing behind
  | present ht => exact takes_eatKeyword ht

theorem takes_symbolComparison {v : Token} {name s : String} {number : Option Value}
    {op : Comparison} (hs : Comparison.ofSymbol? s = some op) (hv : IsValue a v o b)
    (unsettled : number = none ∨ ∀ right, o ≠ .literal right) :
    Takes (symbolComparison name number s) a [v] (.compare name op o) b rest := by
  unfold symbolComparison
  rw [hs]
  refine (takes_operand hv).bind_last ?_
  split
  · rename_i left right
    rcases unsettled with h | h
    · cases h
    · exact absurd rfl (h right)
  · exact Takes.pure _ _ _

theorem takes_settled {v : Token} {name s : String} {left right : Value} {op : Comparison}
    {truth : Bool} (hs : Comparison.ofSymbol? s = some op) (hv : IsValue a v (.literal right) b)
    (settles : op.holds false left right = .ok truth) :
    Takes (symbolComparison name (some left) s) a [v] (.literal truth) b rest := by
  unfold symbolComparison
  rw [hs]
  refine (takes_operand hv).bind_last ?_
  intro position
  show ((op.holds false left right : Reader Bool) >>= _).run _ = _
  rw [settles]
  rfl

theorem takes_comparison_symbol {name s : String} {number : Option Value} {p : Predicate}
    (hc : IsColumn t name number)
    (behind : Takes (symbolComparison name number s) a us p b rest) :
    Takes comparison a (t :: .symbol s :: us) p b rest := by
  have noNot : Takes (eatKeyword "NOT") a [] false a (.symbol s :: us ++ rest) :=
    takes_eatKeyword_nothing fun t tail e => by
      cases e
      rfl
  exact (takes_column hc).bind_cons (noNot.bind_nil ((takes_next "operator").bind_cons behind))

theorem takes_comparison_word {name k : String} {number : Option Value} {negated : Bool}
    {nots : List Token} {p : Predicate} (hc : IsColumn t name number)
    (hnot : IsNegation negated nots) {w : Token} (hw : w.isKeyword k = true)
    (apart : Text.asciiLower k ≠ Text.asciiLower "NOT")
    (behind : ∀ s, w = .word s → Takes (wordComparison name negated s) a us p b rest) :
    Takes comparison a (t :: nots ++ w :: us) p b rest := by
  obtain ⟨s, rfl⟩ := exists_word_of_isKeyword hw
  have negation : Takes (eatKeyword "NOT") a nots negated a (.word s :: us ++ rest) :=
    takes_negation hnot fun t tail e => by
      cases e
      exact isKeyword_false hw apart
  exact (takes_column hc).bind_cons
    (negation.bind ((takes_next "operator").bind_cons (behind s rfl)))

theorem takes_comparison {p : Predicate} (h : IsComparison a ts p b) :
    Takes comparison a ts p b rest := by
  cases h with
  | symbol hc hs hv unsettled =>
    exact takes_comparison_symbol hc (takes_symbolComparison hs hv unsettled)
  | settled hc hs hv settles =>
    exact takes_comparison_symbol hc (takes_settled hs hv settles)
  | @null t is null name number negated nots hc his hnot hnull =>
    refine takes_comparison_word hc .absent his (by decide) ?_
    rintro s rfl
    have negation : Takes (eatKeyword "NOT") a nots negated a ([null] ++ rest) :=
      takes_negation hnot fun t tail e => by
        cases e
        exact isKeyword_false hnull (by decide)
    simp only [wordComparison, his, Bool.not_false, Bool.and_self, if_true]
    exact negation.bind ((takes_expectKeyword hnull).bind_last (Takes.pure _ _ _))
  | like hc hnot hlike hv =>
    refine takes_comparison_word hc hnot hlike (by decide) ?_
    rintro s rfl
    have isIs : (Token.word s).isKeyword "IS" = false := isKeyword_false hlike (by decide)
    simp only [wordComparison, isIs, hlike, Bool.false_and, Bool.false_eq_true, if_false, if_true]
    exact (takes_operand hv).bind_last (Takes.pure _ _ _)
  | within hc hnot hin hl =>
    refine takes_comparison_word hc hnot hin (by decide) ?_
    rintro s rfl
    have isIs : (Token.word s).isKeyword "IS" = false := isKeyword_false hin (by decide)
    have isLike : (Token.word s).isKeyword "LIKE" = false := isKeyword_false hin (by decide)
    simp only [wordComparison, isIs, isLike, hin, Bool.false_and, Bool.false_eq_true, if_false,
      if_true]
    exact (takes_list hl).bind_last (Takes.pure _ _ _)
  | between hc hnot hbetween hlow hand hhigh =>
    refine takes_comparison_word hc hnot hbetween (by decide) ?_
    rintro s rfl
    have isIs : (Token.word s).isKeyword "IS" = false := isKeyword_false hbetween (by decide)
    have isLike : (Token.word s).isKeyword "LIKE" = false := isKeyword_false hbetween (by decide)
    have isIn : (Token.word s).isKeyword "IN" = false := isKeyword_false hbetween (by decide)
    simp only [wordComparison, isIs, isLike, isIn, hbetween, Bool.false_and, Bool.false_eq_true,
      if_false, if_true]
    exact (takes_operand hlow).bind_cons ((takes_expectKeyword hand).bind_cons
      ((takes_operand hhigh).bind_last (Takes.pure _ _ _)))

/-! ## Rows of terms -/

/-- No joining keyword stands in front. -/
def Closed (rest : List Token) : Prop :=
  ∀ t tail, rest = t :: tail → t.isKeyword "AND" = false ∧ t.isKeyword "OR" = false

theorem closed_nil : Closed [] := by
  intro t tail e
  cases e

theorem closed_rightParen (rest : List Token) : Closed (.rightParen :: rest) := by
  intro t tail e
  cases e
  exact ⟨rfl, rfl⟩

theorem takes_conjunction {joining : Bool} (h : Joins t joining) :
    Takes conjunction a [t] (some joining) a rest := by
  cases h with
  | and ht => exact (takes_eatKeyword ht).bind_last (Takes.pure _ _ _)
  | or ht =>
    have noAnd : Takes (eatKeyword "AND") a [] false a ([t] ++ rest) :=
      takes_eatKeyword_nothing fun t tail e => by
        cases e
        exact isKeyword_false ht (by decide)
    exact noAnd.bind_nil ((takes_eatKeyword ht).bind_last (Takes.pure _ _ _))

theorem takes_conjunction_nothing (h : Closed rest) : Takes conjunction a [] none a rest := by
  have noAnd : Takes (eatKeyword "AND") a [] false a ([] ++ rest) :=
    takes_eatKeyword_nothing fun t tail e => (h t tail e).1
  have noOr : Takes (eatKeyword "OR") a [] false a ([] ++ rest) :=
    takes_eatKeyword_nothing fun t tail e => (h t tail e).2
  exact noAnd.bind_nil (noOr.bind_nil (Takes.pure _ _ _))

/-- What a comparison begins with is taken for nothing else. -/
theorem exists_head_of_comparison {p : Predicate} (h : IsComparison a ts p b) :
    ∃ t tail, ts = t :: tail ∧ t ≠ .leftParen ∧ t.isKeyword "NOT" = false := by
  have column {t : Token} {name : String} {number : Option Value} (h : IsColumn t name number) :
      t ≠ .leftParen ∧ t.isKeyword "NOT" = false := by
    cases h with
    | word hs => exact ⟨Token.noConfusion, hs⟩
    | quoted s => exact ⟨Token.noConfusion, rfl⟩
  cases h with
  | symbol hc => exact ⟨_, _, rfl, column hc⟩
  | settled hc => exact ⟨_, _, rfl, column hc⟩
  | null hc => exact ⟨_, _, rfl, column hc⟩
  | like hc => exact ⟨_, _, rfl, column hc⟩
  | within hc => exact ⟨_, _, rfl, column hc⟩
  | between hc => exact ⟨_, _, rfl, column hc⟩

/-- A term has tokens. -/
theorem length_pos_of_term {p : Predicate} (h : Derives .term a ts p b) : 0 < ts.length := by
  cases h with
  | comparison hc =>
    obtain ⟨t, tail, rfl, _⟩ := exists_head_of_comparison hc
    exact Nat.succ_pos _
  | group _ => exact Nat.succ_pos _
  | not _ _ => exact Nat.succ_pos _

/-! ## One step of each part -/

section Steps

variable {input : List Char} {fuel : Nat} {p q r : Predicate}

theorem takes_term_comparison (h : IsComparison a ts p b) :
    Takes (term input (fuel + 1)) a ts p b rest := by
  obtain ⟨t, tail, rfl, notParen, notNot⟩ := exists_head_of_comparison h
  have noNot : Takes (eatKeyword "NOT") a [] false a (t :: tail ++ rest) :=
    takes_eatKeyword_nothing fun u us e => by
      cases e
      exact notNot
  refine takes_peek.bind_nil ?_
  split
  · rename_i e
    exact absurd (Option.some.inj e) notParen
  · exact noNot.bind_nil (takes_comparison h)

theorem takes_term_group (h : Takes (expression input fuel) a ts p b ([.rightParen] ++ rest)) :
    Takes (term input (fuel + 1)) a (.leftParen :: ts ++ [.rightParen]) p b rest := by
  refine takes_peek.bind_nil ((takes_next "(").bind_cons ?_)
  exact h.bind ((takes_expectRightParen input).bind_last (Takes.pure _ _ _))

theorem takes_term_not (ht : t.isKeyword "NOT" = true)
    (h : Takes (term input fuel) a ts p b rest) :
    Takes (term input (fuel + 1)) a (t :: ts) (.not p) b rest := by
  obtain ⟨s, rfl⟩ := exists_word_of_isKeyword ht
  refine takes_peek.bind_nil ((takes_eatKeyword ht).bind_cons ?_)
  exact h.bind_last (Takes.pure _ _ _)

theorem takes_expression (first : Takes (term input fuel) a ts p b (us ++ rest))
    (others : Takes (moreTerms input fuel p) b us q c rest) :
    Takes (expression input (fuel + 1)) a (ts ++ us) q c rest := first.bind others

/-- Without fuel no term is looked for, and where no keyword joins on none is found. -/
theorem takes_moreTerms_nothing (p : Predicate) (h : Closed rest) :
    Takes (moreTerms input fuel p) a [] p a rest := by
  cases fuel with
  | zero => exact Takes.pure p a rest
  | succ fuel => exact (takes_conjunction_nothing h).bind_last (Takes.pure p a rest)

theorem takes_moreTerms {joining : Bool} (hj : Joins t joining)
    (right : Takes (term input fuel) a ts q b (us ++ rest))
    (others : Takes (moreTerms input fuel (join joining p q)) b us r c rest) :
    Takes (moreTerms input (fuel + 1) p) a (t :: ts ++ us) r c rest :=
  (takes_conjunction hj).bind_cons (right.bind others)

end Steps

/-! ## Whole predicates -/

/-- The reader of a part. -/
def readerOf (input : List Char) (fuel : Nat) : Part → Reader Predicate
  | .term => term input fuel
  | .whole => expression input fuel
  | .more joined => moreTerms input fuel joined

/-- How much less fuel than two for each token suffices. -/
def slack : Part → Nat
  | .term => 1
  | .whole => 0
  | .more _ => 1

/-- The reader takes what is derived. -/
theorem takes_of_derives {part : Part} {p : Predicate} (h : Derives part a ts p b)
    (input : List Char) {fuel : Nat} (enough : 2 * ts.length ≤ fuel + slack part)
    (closed : part = .term ∨ Closed rest) : Takes (readerOf input fuel part) a ts p b rest := by
  -- every part with tokens spends one unit of fuel, and what it reads next has fewer tokens or
  -- less slack
  induction h generalizing fuel rest with
  | @comparison a b ts p hc =>
    have filled := length_pos_of_term (.comparison hc)
    rw [slack] at enough
    obtain ⟨fuel, rfl⟩ := Nat.exists_eq_succ_of_ne_zero (n := fuel) (by omega)
    exact takes_term_comparison hc
  | @group a b ts p _ ih =>
    rw [List.length_append, List.length_cons, List.length_singleton, slack] at enough
    obtain ⟨fuel, rfl⟩ := Nat.exists_eq_succ_of_ne_zero (n := fuel) (by omega)
    have inner : Takes (expression input fuel) a ts p b ([.rightParen] ++ rest) :=
      ih (by rw [slack]; omega) (.inr (closed_rightParen rest))
    exact takes_term_group inner
  | @not a b t ts p ht _ ih =>
    rw [List.length_cons, slack] at enough
    obtain ⟨fuel, rfl⟩ := Nat.exists_eq_succ_of_ne_zero (n := fuel) (by omega)
    have inner : Takes (term input fuel) a ts p b rest := ih (by rw [slack]; omega) (.inl rfl)
    exact takes_term_not ht inner
  | @whole a b c ts us p q hterm _ ihTerm ihMore =>
    have filled := length_pos_of_term hterm
    rw [List.length_append, slack] at enough
    obtain ⟨fuel, rfl⟩ := Nat.exists_eq_succ_of_ne_zero (n := fuel) (by omega)
    have first : Takes (term input fuel) a ts p b (us ++ rest) :=
      ihTerm (by rw [slack]; omega) (.inl rfl)
    have others : Takes (moreTerms input fuel p) b us q c rest :=
      ihMore (by rw [slack]; omega) (.inr (closed.resolve_left Part.noConfusion))
    exact takes_expression first others
  | done a p => exact takes_moreTerms_nothing p (closed.resolve_left Part.noConfusion)
  | @more a b c t ts us p q r joining hj _ _ ihTerm ihMore =>
    rw [List.length_append, List.length_cons, slack] at enough
    obtain ⟨fuel, rfl⟩ := Nat.exists_eq_succ_of_ne_zero (n := fuel) (by omega)
    have right : Takes (term input fuel) a ts q b (us ++ rest) :=
      ihTerm (by rw [slack]; omega) (.inl rfl)
    have others : Takes (moreTerms input fuel (join joining p q)) b us r c rest :=
      ihMore (by rw [slack]; omega) (.inr (closed.resolve_left Part.noConfusion))
    exact takes_moreTerms hj right others

theorem takes_finish (input : List Char) : Takes (finish input) a [] () a [] := fun _ => rfl

/-- The reader of predicates finds what is derived. -/
theorem takes_predicate {p : Predicate} (h : Derives .whole a ts p b) (input : List Char) :
    Takes (predicate input) a ts p b [] := by
  refine Takes.get_bind fun position => ?_
  have whole : Takes (readerOf input (2 * (ts ++ []).length + 2) .whole) a ts p b [] :=
    takes_of_derives h input (by rw [List.append_nil, slack]; omega) (.inr closed_nil)
  exact whole.bind_last ((takes_finish input).bind_last (Takes.pure p b []))

end Reader

/-- **The text of derived tokens reads as what they derive.** -/
theorem parsePredicate_of_derives {cs : List Char} {ts : List Token} {p : Predicate} {a b : Nat}
    (spelled : tokenize cs = .ok ts) (h : Derives .whole a ts p b) :
    parsePredicate a cs = .ok (p, b) := by
  have found := Reader.takes_predicate h cs 0
  rw [List.append_nil] at found
  rw [parsePredicate, spelled]
  show ((Reader.predicate cs).run ⟨ts, 0, a⟩ >>= _) = _
  rw [found]
  rfl

end Polystore.Sql
