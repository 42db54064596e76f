import Polystore.Proofs.Sql.Scanning

/-!
# Phrases

The text of a predicate is put together from words and quotations by blanks, commas and parentheses.
Whatever is put together in this way is a phrase: it reads as a fixed list of tokens and holds no
keyword of a clause, provided that it stands in front of a blank, a comma, a closing parenthesis or
nothing. One induction along a predicate therefore settles what both readers make of its text.
-/

namespace Polystore.Sql

/-- What may follow a phrase: nothing, or something that no token goes on with. -/
def Boundary (rest : List Char) : Prop :=
  rest = [] ∨ ∃ c tail, rest = c :: tail ∧ (c = ' ' ∨ c = ')' ∨ c = ',')

theorem boundary_nil : Boundary [] := .inl rfl

theorem boundary_blank (tail : List Char) : Boundary (' ' :: tail) :=
  .inr ⟨' ', tail, rfl, .inl rfl⟩

theorem boundary_paren (tail : List Char) : Boundary (')' :: tail) :=
  .inr ⟨')', tail, rfl, .inr (.inl rfl)⟩

theorem boundary_comma (tail : List Char) : Boundary (',' :: tail) :=
  .inr ⟨',', tail, rfl, .inr (.inr rfl)⟩

/-- A quotation that ends in front of a boundary ends there. -/
theorem Boundary.apart {rest : List Char} (h : Boundary rest) {q : Char} (hq : isQuote q = true) :
    rest.head? ≠ some q := by
  rcases h with rfl | ⟨c, tail, rfl, hc⟩
  · exact (Option.some_ne_none q).symm
  · intro e
    obtain rfl : c = q := Option.some.inj e
    rcases hc with rfl | rfl | rfl <;> exact absurd hq (by decide)

/-- In front of a boundary it does not matter whether a word has just ended. -/
theorem clausesFrom_boundary {rest : List Char} (h : Boundary rest) (depth : Int) (w : Bool) :
    clausesFrom ⟨.outside, depth, w⟩ 0 rest = clausesFrom (Standing.at depth) 0 rest := by
  rcases h with rfl | ⟨c, tail, rfl, hc⟩
  · rfl
  · have quiet : opensKeyword c = false := by rcases hc with rfl | rfl | rfl <;> decide
    rw [clausesFrom_quiet quiet, clausesFrom_quiet quiet]
    rfl

/-- A text that reads as tokens and holds no keyword of a clause. -/
structure Phrase (cs : List Char) (ts : List Token) : Prop where
  tight : Text.Tight cs
  /-- The text does not end like a statement. -/
  openEnded : cs.getLast? ≠ some ';'
  spells : ∀ {rest : List Char}, Boundary rest →
    tokensFrom .between (cs ++ rest) = (tokensFrom .between rest).map (ts ++ ·)
  quiet : ∀ (depth : Int) {rest : List Char}, Boundary rest →
    clausesFrom (Standing.at depth) 0 (cs ++ rest) =
      behind cs (clausesFrom (Standing.at depth) 0 rest)

theorem Phrase.tokenize_eq {cs : List Char} {ts : List Token} (h : Phrase cs ts) :
    tokenize cs = .ok ts := by
  have spelled := h.spells boundary_nil
  rw [List.append_nil] at spelled
  rw [tokenize, spelled]
  show Except.ok (ts ++ []) = _
  rw [List.append_nil]

/-! ## Single tokens -/

/-- A quotation is a phrase. -/
theorem phrase_quotation {q : Char} {cs ms : List Char} (hq : isQuote q = true)
    (h : Content q cs ms) : Phrase (q :: cs ++ [q]) [.quoted (String.ofList ms)] where
  tight := Text.Tight.enclosed (isQuote_not_blank hq) (isQuote_not_blank hq) cs
  openEnded := by
    rw [List.getLast?_concat]
    intro e
    obtain rfl : q = ';' := Option.some.inj e
    exact absurd hq (by decide)
  spells := by
    intro rest hrest
    rw [List.append_assoc, List.singleton_append, tokensFrom_quotation hq h (hrest.apart hq)]
    rfl
  quiet := by
    intro depth rest _
    rw [List.append_assoc, List.singleton_append, clausesFrom_quotation hq h]

theorem tokensFrom_word {cs : List Char} (h : ∀ c ∈ cs, isWordChar c = true) (seen : List Char)
    {rest : List Char} (hrest : Boundary rest) :
    tokensFrom (.word seen) (cs ++ rest) =
      (tokensFrom .between rest).map (.word (String.ofList (seen.reverse ++ cs)) :: ·) := by
  induction cs generalizing seen with
  | nil =>
    rw [List.append_nil, List.nil_append]
    rcases hrest with rfl | ⟨c, tail, rfl, hc⟩
    · rfl
    · rw [tokensFrom_between_cons, Option.map_map]
      rcases hc with rfl | rfl | rfl <;> rfl
  | cons c cs ih =>
    have more : tokensFrom (.word seen) (c :: (cs ++ rest)) =
        tokensFrom (.word (c :: seen)) (cs ++ rest) := by
      rw [tokensFrom.eq_def]
      simp [Reading.extended, h c List.mem_cons_self]
    rw [List.cons_append, more, ih fun d hd => h d (List.mem_cons_of_mem c hd), List.reverse_cons,
      List.append_assoc, List.singleton_append]

/-- Whether the character belongs to a word where clauses are looked for. -/
def continuesWord (c : Char) : Bool := Text.isAlphanumeric c || c == '_'

theorem at_after_wordChar {c : Char} (h : isWordChar c = true) (depth : Int) (w : Bool) :
    Standing.after ⟨.outside, depth, w⟩ c = ⟨.outside, depth, continuesWord c⟩ := by
  have shape : isQuote c = false ∧ c ≠ '(' ∧ c ≠ ')' := by
    unfold isWordChar at h
    simp only [Bool.and_eq_true, bne_iff_ne, Bool.not_eq_true'] at h
    exact ⟨h.1.1.1.1.2, h.1.1.2, h.1.2⟩
  simp [Standing.after, Quoting.after, Quoting.outside, continuesWord, shape]

/-- Inside a word no keyword is looked for. -/
theorem clausesFrom_inWord {cs : List Char} (h : ∀ c ∈ cs, isWordChar c = true)
    (joined : ∀ c ∈ cs.dropLast, continuesWord c = true) (depth : Int) {rest : List Char}
    (hrest : Boundary rest) :
    clausesFrom ⟨.outside, depth, true⟩ 0 (cs ++ rest) =
      behind cs (clausesFrom (Standing.at depth) 0 rest) := by
  induction cs with
  | nil => exact clausesFrom_boundary hrest depth true
  | cons c cs ih =>
    have more := ih fun d hd => h d (List.mem_cons_of_mem c hd)
    rw [List.cons_append, clausesFrom_step (.inr (.inl rfl)),
      at_after_wordChar (h c List.mem_cons_self)]
    cases cs with
    | nil =>
      rw [List.nil_append, clausesFrom_boundary hrest]
    | cons d cs =>
      have hc : continuesWord c = true := joined c (by simp)
      rw [hc, more fun e he => joined e (List.mem_cons_of_mem c he), behind_behind]
      rfl

theorem isWordChar_not_blank {c : Char} (h : isWordChar c = true) : Text.isBlank c = false := by
  unfold isWordChar at h
  simp only [Bool.and_eq_true, Bool.not_eq_true'] at h
  exact h.1.1.1.1.1

/-- A word is a phrase if no clause begins in it. -/
theorem phrase_ofWord {c : Char} {cs : List Char} (h : ∀ d ∈ c :: cs, isWordChar d = true)
    (openEnded : (c :: cs).getLast? ≠ some ';')
    (quiet : ∀ (depth : Int) {rest : List Char}, Boundary rest →
      clausesFrom (Standing.at depth) 0 (c :: cs ++ rest) =
        behind (c :: cs) (clausesFrom (Standing.at depth) 0 rest)) :
    Phrase (c :: cs) [.word (String.ofList (c :: cs))] where
  tight := by
    have last := h _ (List.getLast_mem (List.cons_ne_nil c cs))
    refine ⟨⟨c, cs, rfl, isWordChar_not_blank (h c List.mem_cons_self)⟩, ?_⟩
    exact ⟨_, _, (List.dropLast_concat_getLast (List.cons_ne_nil c cs)).symm,
      isWordChar_not_blank last⟩
  openEnded := openEnded
  spells := by
    intro rest hrest
    have begins : Reading.begun c = ([], .word [c]) := by
      have hc := h c List.mem_cons_self
      unfold isWordChar at hc
      simp only [Bool.and_eq_true, bne_iff_ne, Bool.not_eq_true'] at hc
      simp [Reading.begun, hc]
    rw [List.cons_append, tokensFrom_between_cons, begins,
      tokensFrom_word (fun d hd => h d (List.mem_cons_of_mem c hd)) [c] hrest, Option.map_map]
    rfl
  quiet := quiet

/-- A word is a phrase unless it is or begins a keyword. -/
theorem phrase_word {c : Char} {cs : List Char} (h : (c :: cs).all isWordChar = true)
    (joined : (c :: cs).dropLast.all continuesWord = true)
    (openEnded : (c :: cs).getLast? ≠ some ';')
    (keywordless : ∀ {rest : List Char}, Boundary rest →
      afterKeyword (c :: (cs ++ rest)) clauseKeywords = none) :
    Phrase (c :: cs) [.word (String.ofList (c :: cs))] := by
  rw [List.all_eq_true] at h joined
  refine phrase_ofWord h openEnded fun depth {rest} hrest => ?_
  have inner := fun d hd => h d (List.mem_cons_of_mem c hd)
  rw [List.cons_append, clausesFrom_step (.inr (.inr (keywordless hrest))), Standing.at,
    at_after_wordChar (h c List.mem_cons_self)]
  cases cs with
  | nil => rw [List.nil_append, clausesFrom_boundary hrest]; rfl
  | cons d cs =>
    have hc : continuesWord c = true := joined c (by simp)
    rw [hc, clausesFrom_inWord inner (fun e he => joined e (List.mem_cons_of_mem c he)) depth
      hrest, behind_behind]
    rfl

/-- A word whose first letter begins no keyword is a phrase. -/
theorem phrase_plainWord {c : Char} {cs : List Char} (h : (c :: cs).all isWordChar = true)
    (joined : (c :: cs).dropLast.all continuesWord = true)
    (openEnded : (c :: cs).getLast? ≠ some ';') (first : opensKeyword c = false) :
    Phrase (c :: cs) [.word (String.ofList (c :: cs))] :=
  phrase_word h joined openEnded fun _ => afterKeyword_eq_none first _

theorem tokensFrom_symbol {cs : List Char} (h : ∀ c ∈ cs, isSymbolChar c = true)
    (seen : List Char) {rest : List Char} (hrest : Boundary rest) :
    tokensFrom (.symbol seen) (cs ++ rest) =
      (tokensFrom .between rest).map (.symbol (String.ofList (seen.reverse ++ cs)) :: ·) := by
  induction cs generalizing seen with
  | nil =>
    rw [List.append_nil, List.nil_append]
    rcases hrest with rfl | ⟨c, tail, rfl, hc⟩
    · rfl
    · rw [tokensFrom_between_cons, Option.map_map]
      rcases hc with rfl | rfl | rfl <;> rfl
  | cons c cs ih =>
    have more : tokensFrom (.symbol seen) (c :: (cs ++ rest)) =
        tokensFrom (.symbol (c :: seen)) (cs ++ rest) := by
      rw [tokensFrom.eq_def]
      simp [Reading.extended, h c List.mem_cons_self]
    rw [List.cons_append, more, ih fun d hd => h d (List.mem_cons_of_mem c hd), List.reverse_cons,
      List.append_assoc, List.singleton_append]

/-- Characters that neither open anything nor begin a keyword are stepped over. -/
theorem clausesFrom_plain {cs : List Char}
    (h : ∀ c ∈ cs, isQuote c = false ∧ c ≠ '(' ∧ c ≠ ')' ∧ opensKeyword c = false)
    (depth : Int) (w : Bool) {rest : List Char} (hrest : Boundary rest) :
    clausesFrom ⟨.outside, depth, w⟩ 0 (cs ++ rest) =
      behind cs (clausesFrom (Standing.at depth) 0 rest) := by
  induction cs generalizing w with
  | nil => exact clausesFrom_boundary hrest depth w
  | cons c cs ih =>
    have hc := h c List.mem_cons_self
    have after : Standing.after ⟨.outside, depth, w⟩ c = ⟨.outside, depth, continuesWord c⟩ := by
      simp [Standing.after, Quoting.after, Quoting.outside, continuesWord, hc]
    rw [List.cons_append, clausesFrom_quiet hc.2.2.2, after,
      ih fun d hd => h d (List.mem_cons_of_mem c hd), behind_behind]
    rfl

theorem isSymbolChar_cases {c : Char} (h : isSymbolChar c = true) :
    c = '=' ∨ c = '<' ∨ c = '>' ∨ c = '!' := by
  unfold isSymbolChar at h
  simpa [or_assoc] using h

/-- A run of symbol characters is a phrase. -/
theorem phrase_symbol {c : Char} {cs : List Char} (h : (c :: cs).all isSymbolChar = true) :
    Phrase (c :: cs) [.symbol (String.ofList (c :: cs))] := by
  rw [List.all_eq_true] at h
  have plain : ∀ d ∈ c :: cs,
      isQuote d = false ∧ d ≠ '(' ∧ d ≠ ')' ∧ opensKeyword d = false := by
    intro d hd
    rcases isSymbolChar_cases (h d hd) with rfl | rfl | rfl | rfl <;> decide
  have solid : ∀ d ∈ c :: cs, Text.isBlank d = false ∧ d ≠ ';' := by
    intro d hd
    rcases isSymbolChar_cases (h d hd) with rfl | rfl | rfl | rfl <;> decide
  have last := solid _ (List.getLast_mem (List.cons_ne_nil c cs))
  refine ⟨⟨⟨c, cs, rfl, (solid c List.mem_cons_self).1⟩, ?_⟩, ?_, ?_, ?_⟩
  · exact ⟨_, _, (List.dropLast_concat_getLast (List.cons_ne_nil c cs)).symm, last.1⟩
  · rw [List.getLast?_eq_some_getLast (List.cons_ne_nil c cs)]
    exact fun e => last.2 (Option.some.inj e)
  · intro rest hrest
    have begins : Reading.begun c = ([], .symbol [c]) := by
      rcases isSymbolChar_cases (h c List.mem_cons_self) with rfl | rfl | rfl | rfl <;> rfl
    rw [List.cons_append, tokensFrom_between_cons, begins,
      tokensFrom_symbol (fun d hd => h d (List.mem_cons_of_mem c hd)) [c] hrest, Option.map_map]
    rfl
  · intro depth rest hrest
    exact clausesFrom_plain plain depth false hrest

/-! ## The words of predicates -/

/-- The keywords of predicates. -/
def predicateWords : List String := ["NOT", "AND", "IS", "NULL", "IN", "BETWEEN"]

theorem phrase_predicateWord {w : String} (h : w ∈ predicateWords) :
    Phrase w.toList [.word w] := by
  simp only [predicateWords, List.mem_cons, List.not_mem_nil, or_false] at h
  rcases h with rfl | rfl | rfl | rfl | rfl | rfl <;>
    exact phrase_plainWord (by decide) (by decide) (by decide) (by decide)

/-- `OR` begins like `ORDER BY` and goes on otherwise. -/
theorem phrase_or : Phrase "OR".toList [.word "OR"] := by
  refine phrase_word (by decide) (by decide) (by decide) fun hrest => ?_
  -- no boundary goes on with the other letters of `ORDER` or of `OFFSET`
  rcases hrest with rfl | ⟨c, tail, rfl, rfl | rfl | rfl⟩ <;> rfl

/-- `LIKE` begins like `LIMIT` and goes on otherwise. -/
theorem phrase_like : Phrase "LIKE".toList [.word "LIKE"] :=
  phrase_word (by decide) (by decide) (by decide) fun _ => rfl

/-- The place of a parameter is a phrase. -/
theorem phrase_placeholder : Phrase ['?'] [.word "?"] :=
  phrase_plainWord (by decide) (by decide) (by decide) (by decide)

/-- A comparison of two digits is a phrase. -/
theorem phrase_constant {d : Char} (h : d = '0' ∨ d = '1') :
    Phrase ['1', '=', d] [.word "1", .symbol "=", .word (String.ofList [d])] where
  tight := ⟨⟨'1', ['=', d], rfl, by decide⟩,
    ⟨['1', '='], d, rfl, by rcases h with rfl | rfl <;> decide⟩⟩
  openEnded := by rcases h with rfl | rfl <;> decide
  spells := by
    intro rest hrest
    have last : tokensFrom (.word [d]) rest =
        (tokensFrom .between rest).map (.word (String.ofList [d]) :: ·) :=
      tokensFrom_word (fun c (hc : c ∈ []) => nomatch hc) [d] hrest
    have steps : tokensFrom .between (['1', '=', d] ++ rest) =
        (tokensFrom (.word [d]) rest).map ([.word "1", .symbol "="] ++ ·) := by
      have second : tokensFrom (.symbol ['=']) (d :: rest) =
          (tokensFrom (.word [d]) rest).map ([.symbol "="] ++ ·) := by
        rcases h with rfl | rfl <;> rfl
      have first : tokensFrom (.word ['1']) ('=' :: d :: rest) =
          (tokensFrom (.symbol ['=']) (d :: rest)).map ([.word "1"] ++ ·) := by
        rfl
      show (tokensFrom (.word ['1']) ('=' :: d :: rest)).map ([] ++ ·) = _
      rw [first, second, Option.map_map, Option.map_map]
      rfl
    rw [steps, last, Option.map_map]
    rfl
  quiet := by
    intro depth rest hrest
    refine clausesFrom_plain (fun c hc => ?_) depth false hrest
    simp only [List.mem_cons, List.not_mem_nil, or_false] at hc
    rcases h with rfl | rfl <;> rcases hc with rfl | rfl | rfl <;> decide

/-! ## Putting phrases together -/

variable {cs ds : List Char} {ts us : List Token}

theorem getLast?_append_of_tight {ds : List Char} (h : Text.Tight ds) (cs : List Char) :
    (cs ++ ds).getLast? = ds.getLast? := by
  obtain ⟨start, d, rfl, _⟩ := h.last
  rw [← List.append_assoc, List.getLast?_concat, List.getLast?_concat]

/-- Two phrases with a blank between them. -/
theorem Phrase.blank (hc : Phrase cs ts) (hd : Phrase ds us) :
    Phrase (cs ++ ' ' :: ds) (ts ++ us) where
  tight := hc.tight.append hd.tight [' ']
  openEnded := by
    rw [← List.singleton_append, ← List.append_assoc, getLast?_append_of_tight hd.tight]
    exact hd.openEnded
  spells := by
    intro rest hrest
    rw [List.append_assoc, List.cons_append, hc.spells (boundary_blank _), tokensFrom_between_cons]
    show ((tokensFrom .between (ds ++ rest)).map ([] ++ ·)).map (ts ++ ·) = _
    rw [hd.spells hrest, Option.map_map, Option.map_map]
    simp only [Function.comp_def, List.nil_append, List.append_assoc]
  quiet := by
    intro depth rest hrest
    rw [List.append_assoc, List.cons_append, hc.quiet depth (boundary_blank _),
      clausesFrom_quiet (by decide)]
    show behind cs (behind [' '] (clausesFrom (Standing.at depth) 0 _)) = _
    rw [hd.quiet depth hrest, behind_behind, behind_behind]
    simp only [List.append_assoc, List.singleton_append]

/-- Two phrases with a comma and a blank between them. -/
theorem Phrase.comma (hc : Phrase cs ts) (hd : Phrase ds us) :
    Phrase (cs ++ ',' :: ' ' :: ds) (ts ++ .comma :: us) where
  tight := hc.tight.append hd.tight [',', ' ']
  openEnded := by
    rw [show cs ++ ',' :: ' ' :: ds = (cs ++ [',', ' ']) ++ ds by simp,
      getLast?_append_of_tight hd.tight]
    exact hd.openEnded
  spells := by
    intro rest hrest
    rw [List.append_assoc, List.cons_append, List.cons_append, hc.spells (boundary_comma _),
      tokensFrom_between_cons]
    show ((tokensFrom .between (' ' :: (ds ++ rest))).map ([.comma] ++ ·)).map (ts ++ ·) = _
    rw [tokensFrom_between_cons]
    show (((tokensFrom .between (ds ++ rest)).map ([] ++ ·)).map _).map _ = _
    rw [hd.spells hrest, Option.map_map, Option.map_map, Option.map_map]
    simp only [Function.comp_def, List.nil_append, List.append_assoc, List.cons_append]
  quiet := by
    intro depth rest hrest
    rw [List.append_assoc, List.cons_append, List.cons_append, hc.quiet depth (boundary_comma _),
      clausesFrom_quiet (by decide)]
    show behind cs (behind [','] (clausesFrom (Standing.at depth) 0 (' ' :: _))) = _
    rw [clausesFrom_quiet (by decide)]
    show behind cs (behind [','] (behind [' '] (clausesFrom (Standing.at depth) 0 _))) = _
    rw [hd.quiet depth hrest, behind_behind, behind_behind, behind_behind]
    simp only [List.append_assoc, List.cons_append, List.nil_append]

/-- A phrase in parentheses. -/
theorem Phrase.group (h : Phrase cs ts) :
    Phrase ('(' :: cs ++ [')']) (.leftParen :: ts ++ [.rightParen]) where
  tight := Text.Tight.enclosed (by decide) (by decide) cs
  openEnded := by
    rw [List.getLast?_concat]
    decide
  spells := by
    intro rest hrest
    rw [List.append_assoc, List.cons_append, List.singleton_append, tokensFrom_between_cons]
    show (tokensFrom .between (cs ++ ')' :: rest)).map ([.leftParen] ++ ·) = _
    rw [h.spells (boundary_paren rest), tokensFrom_between_cons]
    show (((tokensFrom .between rest).map ([.rightParen] ++ ·)).map _).map _ = _
    rw [Option.map_map, Option.map_map]
    simp only [Function.comp_def, List.append_assoc, List.cons_append, List.nil_append]
  quiet := by
    intro depth rest hrest
    -- a phrase is quiet at every depth, and so at the one inside the parentheses
    have opening : (Standing.at depth).after '(' = Standing.at (depth + 1) := by
      rfl
    have closing : (Standing.at (depth + 1)).after ')' = Standing.at depth := by
      show Standing.mk .outside (depth + 1 - 1) false = _
      rw [Int.add_sub_cancel]
      rfl
    rw [List.append_assoc, List.cons_append, List.singleton_append,
      clausesFrom_quiet (by decide), opening, h.quiet _ (boundary_paren rest),
      clausesFrom_quiet (by decide), closing, behind_behind, behind_behind]
    simp only [List.cons_append, List.nil_append]

end Polystore.Sql
