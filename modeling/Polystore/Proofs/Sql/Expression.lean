import Polystore.Proofs.Sql.Reread
import Polystore.Proofs.Sql.Taken

/-!
# What reads as a predicate, and what it means

An expression is a row of terms with `AND` and `OR` between them. It is given here by itself: how it
is spelled as tokens, and what it comes to on a row. It comes to what its terms come to one after
the other. `AND` looks at the next term if what came before holds, `OR` if it does not, and neither
binds closer than the other; an error ends the row.

Main statement: the reader of predicates accepts exactly the spellings of expressions, and what it
finds evaluates like the expression. The reader melts neighbouring conjunctions into one, also those
that stood in parentheses, so the predicate has another shape than the expression.
-/

namespace Polystore.Sql

/-! ## Expressions -/

/-- A word or a quotation. -/
inductive Atom where
  | word (s : String)
  | quoted (s : String)

/-- What a column is tested for. -/
inductive Test where
  | symbol (op : Comparison) (value : Atom)
  | null (negated : Bool)
  | like (negated : Bool) (value : Atom)
  | within (negated : Bool) (values : List Atom)
  | between (negated : Bool) (low high : Atom)

mutual

/-- A term: a comparison, an expression in parentheses, or a term that is negated. -/
inductive Term where
  | comparison (column : Atom) (test : Test)
  | group (first : Term) (others : Others)
  | not (inner : Term)

/-- The terms behind the first one, each with what joins it: `true` for `AND` and `false` for
`OR`. -/
inductive Others where
  | done
  | more (conjunction : Bool) (right : Term) (others : Others)

end

/-- A row of terms. -/
structure Expression where
  first : Term
  others : Others

/-! ## Spelling -/

/-- The symbols of comparisons. -/
def symbols : List (String × Comparison) :=
  [("=", .eq), ("==", .eq), ("!=", .notEq), ("<>", .notEq), (">", .gt), (">=", .gte), ("<", .lt),
    ("<=", .lte)]

namespace Atom

def token : Atom → Token
  | .word s => .word s
  | .quoted s => .quoted s

/-- Atoms with commas between them. -/
def commas (values : List Atom) : List Token := (values.map token).intersperse .comma

end Atom

/-- The tokens spell the test. -/
inductive Test.Spells : Test → List Token → Prop
  | symbol {s : String} {op : Comparison} (value : Atom) :
    (s, op) ∈ symbols → Spells (.symbol op value) [.symbol s, value.token]
  | null {is null : Token} {negated : Bool} {nots : List Token} :
    is.isKeyword "IS" = true → IsNegation negated nots → null.isKeyword "NULL" = true →
    Spells (.null negated) (is :: nots ++ [null])
  | like {like : Token} {negated : Bool} {nots : List Token} (value : Atom) :
    IsNegation negated nots → like.isKeyword "LIKE" = true →
    Spells (.like negated value) (nots ++ [like, value.token])
  | within {within : Token} {negated : Bool} {nots : List Token} (values : List Atom) :
    IsNegation negated nots → within.isKeyword "IN" = true →
    Spells (.within negated values)
      (nots ++ within :: (.leftParen :: Atom.commas values ++ [.rightParen]))
  | between {between and : Token} {negated : Bool} {nots : List Token} (low high : Atom) :
    IsNegation negated nots → between.isKeyword "BETWEEN" = true → and.isKeyword "AND" = true →
    Spells (.between negated low high) (nots ++ [between, low.token, and, high.token])

mutual

/-- The tokens spell the term. -/
inductive Term.Spells : Term → List Token → Prop
  | comparison {column : Atom} {test : Test} {ts : List Token} :
    column.token.isKeyword "NOT" = false → test.Spells ts →
    Term.Spells (.comparison column test) (column.token :: ts)
  | group {first : Term} {others : Others} {ts us : List Token} :
    Term.Spells first ts → Others.Spells others us →
    Term.Spells (.group first others) (.leftParen :: (ts ++ us) ++ [.rightParen])
  | not {inner : Term} {t : Token} {ts : List Token} :
    t.isKeyword "NOT" = true → Term.Spells inner ts → Term.Spells (.not inner) (t :: ts)

/-- The tokens spell the terms behind the first one. -/
inductive Others.Spells : Others → List Token → Prop
  | done : Others.Spells .done []
  | more {conjunction : Bool} {right : Term} {others : Others} {t : Token} {ts us : List Token} :
    Joins t conjunction → Term.Spells right ts → Others.Spells others us →
    Others.Spells (.more conjunction right others) (t :: ts ++ us)

end

/-- The tokens spell the expression. -/
inductive Expression.Spells : Expression → List Token → Prop
  | row {first : Term} {others : Others} {ts us : List Token} :
    first.Spells ts → others.Spells us → Expression.Spells ⟨first, others⟩ (ts ++ us)

/-! ## Meaning -/

namespace Atom

/-- The column that the atom names. -/
def name : Atom → String
  | .word s => s
  | .quoted s => s

/-- The number that a word spells. -/
def number? : Atom → Option Value
  | .word s => Reader.numberOf s
  | .quoted _ => none

/-- The place of a value: what the atom spells, or else the parameter of the given number. -/
def place (n : Nat) : Atom → Operand
  | .word s =>
    match parseValue s.toList with
    | some v => .literal v
    | none => .param n
  | .quoted s => .literal (.text s)

/-- How many parameters the atom is the place of. -/
def marks : Atom → Nat
  | .word s => if (parseValue s.toList).isNone then 1 else 0
  | .quoted _ => 0

/-- The places of atoms, whose parameters are numbered one after the other. -/
def places (n : Nat) : List Atom → List Operand
  | [] => []
  | value :: rest => value.place n :: places (n + value.marks) rest

/-- How many parameters the atoms are the places of. -/
def allMarks : List Atom → Nat
  | [] => 0
  | value :: rest => value.marks + allMarks rest

end Atom

/-- How many parameters the test has. -/
def Test.marks : Test → Nat
  | .symbol _ value => value.marks
  | .null _ => 0
  | .like _ value => value.marks
  | .within _ values => Atom.allMarks values
  | .between _ low high => low.marks + high.marks

mutual

/-- How many parameters the term has. -/
def Term.marks : Term → Nat
  | .comparison _ test => test.marks
  | .group first others => Term.marks first + Others.marks others
  | .not inner => Term.marks inner

/-- How many parameters the terms behind the first one have. -/
def Others.marks : Others → Nat
  | .done => 0
  | .more _ right others => Term.marks right + Others.marks others

end

/-- How many parameters the expression has. -/
def Expression.marks (e : Expression) : Nat := e.first.marks + e.others.marks

section Meaning

variable (params : List Value) (caseSensitive : Bool) (row : Row)

/-- What the test of a column comes to; its parameters are numbered from the given number on. A
number in the place of the column is itself compared with a literal, whatever the row holds. -/
def Test.holds (column : Atom) (n : Nat) : Test → Outcome Bool
  | .symbol op value =>
    match column.number?, value.place n with
    | some left, .literal right => op.holds false left right
    | _, place => Predicate.holds params caseSensitive row (.compare column.name op place)
  | .null negated => Predicate.holds params caseSensitive row (.isNull column.name negated)
  | .like negated value =>
    Predicate.holds params caseSensitive row
      (.compare column.name (if negated then .notLike else .like) (value.place n))
  | .within negated values =>
    Predicate.holds params caseSensitive row
      (.compare column.name (if negated then .notWithin else .within)
        (.list (Atom.places n values)))
  | .between negated low high =>
    Predicate.holds params caseSensitive row
      (.between column.name (low.place n) (high.place (n + low.marks)) negated)

mutual

/-- What the term comes to. -/
def Term.holds (n : Nat) : Term → Outcome Bool
  | .comparison column test => test.holds params caseSensitive row column n
  | .group first others => Others.holds (n + first.marks) (Term.holds n first) others
  | .not inner => (Term.holds n inner).map (!·)

/-- What the terms come to behind what the ones in front of them came to. -/
def Others.holds (n : Nat) (before : Outcome Bool) : Others → Outcome Bool
  | .done => before
  | .more conjunction right others =>
    Others.holds (n + right.marks) (Predicate.inTurn conjunction before (Term.holds n right)) others

end

/-- What the expression comes to. -/
def Expression.holds (n : Nat) (e : Expression) : Outcome Bool :=
  e.others.holds params caseSensitive row (n + e.first.marks)
    (e.first.holds params caseSensitive row n)

end Meaning

/-! ## Values and columns -/

namespace Atom

theorem isValue (n : Nat) (value : Atom) :
    IsValue n value.token (value.place n) (n + value.marks) := by
  cases value with
  | quoted s => exact .quoted s
  | word s =>
    cases spelled : parseValue s.toList with
    | some v =>
      have literal : (word s).place n = .literal v := by simp only [place, spelled]
      have unmarked : (word s).marks = 0 := by simp [marks, spelled]
      rw [literal, unmarked]
      exact .word spelled
    | none =>
      have param : (word s).place n = .param n := by simp only [place, spelled]
      have marked : (word s).marks = 1 := by simp [marks, spelled]
      rw [param, marked]
      exact .param spelled

theorem exists_of_isValue {a b : Nat} {t : Token} {o : Operand} (h : IsValue a t o b) :
    ∃ value : Atom, value.token = t := by
  cases h with
  | word _ => exact ⟨.word _, rfl⟩
  | param _ => exact ⟨.word _, rfl⟩
  | quoted s => exact ⟨.quoted s, rfl⟩

theorem areValues (n : Nat) (value : Atom) (values : List Atom) :
    AreValues n (commas (value :: values)) (places n (value :: values))
      (n + allMarks (value :: values)) := by
  induction values generalizing n value with
  | nil => exact .one (value.isValue n)
  | cons next values ih =>
    rw [allMarks, ← Nat.add_assoc]
    exact .more (value.isValue n) (ih (n + value.marks) next)

theorem exists_of_areValues {a b : Nat} {ts : List Token} {os : List Operand}
    (h : AreValues a ts os b) : ∃ values, commas values = ts := by
  have filled : ∃ value values, commas (value :: values) = ts := by
    induction h with
    | one isValue =>
      obtain ⟨value, rfl⟩ := exists_of_isValue isValue
      exact ⟨value, [], rfl⟩
    | more isValue _ ih =>
      obtain ⟨value, rfl⟩ := exists_of_isValue isValue
      obtain ⟨next, values, rfl⟩ := ih
      exact ⟨value, next :: values, rfl⟩
  obtain ⟨value, values, same⟩ := filled
  exact ⟨value :: values, same⟩

theorem isList (n : Nat) (values : List Atom) :
    IsList n (.leftParen :: commas values ++ [.rightParen]) (.list (places n values))
      (n + allMarks values) := by
  cases values with
  | nil => exact .empty n
  | cons value values => exact .filled (areValues n value values)

theorem exists_of_isList {a b : Nat} {ts : List Token} {o : Operand} (h : IsList a ts o b) :
    ∃ values, .leftParen :: commas values ++ [.rightParen] = ts := by
  cases h with
  | empty => exact ⟨[], rfl⟩
  | filled areValues =>
    obtain ⟨values, rfl⟩ := exists_of_areValues areValues
    exact ⟨values, rfl⟩

theorem isColumn {column : Atom} (notNot : column.token.isKeyword "NOT" = false) :
    IsColumn column.token column.name column.number? := by
  cases column with
  | word s => exact .word notNot
  | quoted s => exact .quoted s

theorem exists_of_isColumn {t : Token} {name : String} {number : Option Value}
    (h : IsColumn t name number) :
    ∃ column : Atom, column.token = t ∧ t.isKeyword "NOT" = false := by
  cases h with
  | word notNot => exact ⟨.word _, rfl, notNot⟩
  | quoted _ => exact ⟨.quoted _, rfl, rfl⟩

end Atom

/-! ## Comparisons -/

theorem mem_symbols_iff {s : String} {op : Comparison} :
    (s, op) ∈ symbols ↔ Comparison.ofSymbol? s = some op := by
  simp only [symbols, Comparison.ofSymbol?, List.mem_cons, List.not_mem_nil, or_false,
    Prod.mk.injEq]
  grind

/-- A comparison by a symbol does not fail. -/
theorem exists_truth {s : String} {op : Comparison} (h : (s, op) ∈ symbols) (left right : Value) :
    ∃ truth, op.holds false left right = .ok truth := by
  simp only [symbols, List.mem_cons, List.not_mem_nil, or_false, Prod.mk.injEq] at h
  rcases h with ⟨_, rfl⟩ | ⟨_, rfl⟩ | ⟨_, rfl⟩ | ⟨_, rfl⟩ | ⟨_, rfl⟩ | ⟨_, rfl⟩ |
    ⟨_, rfl⟩ | ⟨_, rfl⟩ <;> exact ⟨_, rfl⟩

/-- The tokens of a comparison stand for a predicate that evaluates like the test. -/
theorem exists_comparison {column : Atom} {test : Test} {ts : List Token} (n : Nat)
    (notNot : column.token.isKeyword "NOT" = false) (h : test.Spells ts) :
    ∃ p, IsComparison n (column.token :: ts) p (n + test.marks) ∧
      ∀ params caseSensitive row,
        p.holds params caseSensitive row = test.holds params caseSensitive row column n := by
  have isColumn := Atom.isColumn notNot
  cases h with
  | @symbol s op value known =>
    have isValue := value.isValue n
    have ofSymbol := mem_symbols_iff.mp known
    cases number : column.number? with
    | none =>
      refine ⟨_, .symbol isColumn ofSymbol isValue (.inl number),
        fun params caseSensitive row => ?_⟩
      simp only [Test.holds, number]
    | some left =>
      rw [number] at isColumn
      cases place : value.place n with
      | literal right =>
        -- the reader has compared the two already
        rw [place] at isValue
        obtain ⟨truth, settles⟩ := exists_truth known left right
        refine ⟨_, .settled isColumn ofSymbol isValue settles, fun params caseSensitive row => ?_⟩
        simp only [Test.holds, number, place, settles]
        rfl
      | _ =>
        rw [place] at isValue
        refine ⟨_, .symbol isColumn ofSymbol isValue (.inr fun right => Operand.noConfusion),
          fun params caseSensitive row => ?_⟩
        simp only [Test.holds, number, place]
  | null is hn null => exact ⟨_, .null isColumn is hn null, fun _ _ _ => rfl⟩
  | like value hn like => exact ⟨_, .like isColumn hn like (value.isValue n), fun _ _ _ => rfl⟩
  | within values hn within =>
    exact ⟨_, .within isColumn hn within (Atom.isList n values), fun _ _ _ => rfl⟩
  | between low high hn between and =>
    refine ⟨_, ?_, fun _ _ _ => rfl⟩
    rw [Test.marks, ← Nat.add_assoc]
    exact .between isColumn hn between (low.isValue n) and (high.isValue (n + low.marks))

/-- A comparison is spelled like one. -/
theorem exists_of_isComparison {a b : Nat} {ts : List Token} {p : Predicate}
    (h : IsComparison a ts p b) :
    ∃ (column : Atom) (test : Test), (Term.comparison column test).Spells ts := by
  cases h with
  | symbol hc known hv _ =>
    obtain ⟨column, rfl, notNot⟩ := Atom.exists_of_isColumn hc
    obtain ⟨value, rfl⟩ := Atom.exists_of_isValue hv
    exact ⟨column, _, .comparison notNot (.symbol value (mem_symbols_iff.mpr known))⟩
  | settled hc known hv _ =>
    obtain ⟨column, rfl, notNot⟩ := Atom.exists_of_isColumn hc
    obtain ⟨value, rfl⟩ := Atom.exists_of_isValue hv
    exact ⟨column, _, .comparison notNot (.symbol value (mem_symbols_iff.mpr known))⟩
  | null hc is hn null =>
    obtain ⟨column, rfl, notNot⟩ := Atom.exists_of_isColumn hc
    exact ⟨column, _, .comparison notNot (.null is hn null)⟩
  | like hc hn like hv =>
    obtain ⟨column, rfl, notNot⟩ := Atom.exists_of_isColumn hc
    obtain ⟨value, rfl⟩ := Atom.exists_of_isValue hv
    exact ⟨column, _, .comparison notNot (.like value hn like)⟩
  | within hc hn within hl =>
    obtain ⟨column, rfl, notNot⟩ := Atom.exists_of_isColumn hc
    obtain ⟨values, rfl⟩ := Atom.exists_of_isList hl
    exact ⟨column, _, .comparison notNot (.within values hn within)⟩
  | between hc hn between hlow and hhigh =>
    obtain ⟨column, rfl, notNot⟩ := Atom.exists_of_isColumn hc
    obtain ⟨low, rfl⟩ := Atom.exists_of_isValue hlow
    obtain ⟨high, rfl⟩ := Atom.exists_of_isValue hhigh
    exact ⟨column, _, .comparison notNot (.between low high hn between and)⟩

/-! ## Rows of terms -/

mutual

/-- What spells a term derives a predicate that evaluates like the term. -/
theorem exists_term {t : Term} {ts : List Token} (n : Nat) (h : t.Spells ts) :
    ∃ p, Derives .term n ts p (n + t.marks) ∧
      ∀ params caseSensitive row,
        p.holds params caseSensitive row = t.holds params caseSensitive row n := by
  cases h with
  | comparison notNot spells =>
    obtain ⟨p, comparison, alike⟩ := exists_comparison n notNot spells
    exact ⟨p, .comparison comparison, alike⟩
  | @group first others ts us term rest =>
    obtain ⟨p, derives, alike⟩ := exists_term n term
    obtain ⟨q, more, alike'⟩ := exists_others (n + first.marks) p rest
    refine ⟨q, ?_, fun params caseSensitive row => ?_⟩
    · rw [Term.marks, ← Nat.add_assoc]
      exact .group (.whole derives more)
    · rw [alike', alike, Term.holds]
  | not isNot spells =>
    obtain ⟨p, derives, alike⟩ := exists_term n spells
    refine ⟨.not p, .not isNot derives, fun params caseSensitive row => ?_⟩
    rw [Predicate.holds, alike, Term.holds]

/-- What spells further terms derives the predicate that they are joined to. -/
theorem exists_others {o : Others} {ts : List Token} (n : Nat) (joined : Predicate)
    (h : o.Spells ts) :
    ∃ p, Derives (.more joined) n ts p (n + o.marks) ∧
      ∀ params caseSensitive row,
        p.holds params caseSensitive row =
          o.holds params caseSensitive row n (joined.holds params caseSensitive row) := by
  cases h with
  | done => exact ⟨joined, .done n joined, fun _ _ _ => rfl⟩
  | @more conjunction right others t ts us joins term rest =>
    obtain ⟨p, derives, alike⟩ := exists_term n term
    obtain ⟨q, more, alike'⟩ :=
      exists_others (n + right.marks) (Reader.join conjunction joined p) rest
    refine ⟨q, ?_, fun params caseSensitive row => ?_⟩
    · rw [Others.marks, ← Nat.add_assoc]
      exact .more joins derives more
    · -- whether joining melts the predicate or not, it is evaluated in turn
      rw [alike', Predicate.holds_join, alike, Others.holds]

end

/-- The tokens spell what is read. -/
def Part.IsSpelled : Part → List Token → Prop
  | .term, ts => ∃ t : Term, t.Spells ts
  | .whole, ts => ∃ e : Expression, e.Spells ts
  | .more _, ts => ∃ o : Others, o.Spells ts

/-- Tokens that derive a predicate spell a part of an expression. -/
theorem isSpelled_of_derives {part : Part} {a b : Nat} {ts : List Token} {p : Predicate}
    (h : Derives part a ts p b) : part.IsSpelled ts := by
  induction h with
  | comparison comparison =>
    obtain ⟨column, test, spells⟩ := exists_of_isComparison comparison
    exact ⟨_, spells⟩
  | group _ ih =>
    obtain ⟨_, first, others⟩ := ih
    exact ⟨_, .group first others⟩
  | not isNot _ ih =>
    obtain ⟨t, spells⟩ := ih
    exact ⟨_, .not isNot spells⟩
  | whole _ _ ihTerm ihMore =>
    obtain ⟨t, first⟩ := ihTerm
    obtain ⟨o, others⟩ := ihMore
    exact ⟨_, .row first others⟩
  | done => exact ⟨_, .done⟩
  | more joins _ _ ihTerm ihMore =>
    obtain ⟨t, right⟩ := ihTerm
    obtain ⟨o, others⟩ := ihMore
    exact ⟨_, .more joins right others⟩

/-! ## What the reader accepts -/

/-- What spells an expression derives a predicate that evaluates like it. -/
theorem exists_expression {e : Expression} {ts : List Token} (n : Nat) (h : e.Spells ts) :
    ∃ p, Derives .whole n ts p (n + e.marks) ∧
      ∀ params caseSensitive row,
        p.holds params caseSensitive row = e.holds params caseSensitive row n := by
  obtain ⟨term, rest⟩ := h
  rename_i first others ts us
  obtain ⟨p, derives, alike⟩ := exists_term n term
  obtain ⟨q, more, alike'⟩ := exists_others (n + first.marks) p rest
  refine ⟨q, ?_, fun params caseSensitive row => ?_⟩
  · rw [Expression.marks, ← Nat.add_assoc]
    exact .whole derives more
  · rw [alike', alike]
    rfl

/-- **The reader of predicates accepts exactly the spellings of expressions, and what it finds
evaluates like the expression.** It then has read all the tokens and numbered one parameter for each
place of a value that is no literal. -/
theorem reads_exactly_expressions (input : List Char) (ts : List Token) (position n : Nat) :
    ((∃ p s, (Reader.predicate input).run ⟨ts, position, n⟩ = .ok (p, s)) ↔
        ∃ e : Expression, e.Spells ts) ∧
      ∀ p s, (Reader.predicate input).run ⟨ts, position, n⟩ = .ok (p, s) →
        s.tokens = [] ∧ ∀ e : Expression, e.Spells ts → s.nextParam = n + e.marks ∧
          ∀ params caseSensitive row,
            p.holds params caseSensitive row = e.holds params caseSensitive row n := by
  have finds : ∀ e : Expression, e.Spells ts → ∃ p,
      (Reader.predicate input).run ⟨ts, position, n⟩ =
        .ok (p, ⟨[], position + ts.length, n + e.marks⟩) ∧
      ∀ params caseSensitive row,
        p.holds params caseSensitive row = e.holds params caseSensitive row n := by
    intro e spells
    obtain ⟨p, derives, alike⟩ := exists_expression n spells
    exact ⟨p, Reader.predicate_eq_ok.mpr ⟨rfl, derives⟩, alike⟩
  refine ⟨⟨?_, ?_⟩, ?_⟩
  · rintro ⟨p, s, read⟩
    exact isSpelled_of_derives (Reader.predicate_eq_ok.mp read).2
  · rintro ⟨e, spells⟩
    obtain ⟨p, read, _⟩ := finds e spells
    exact ⟨p, _, read⟩
  · intro p s read
    obtain ⟨stops, _⟩ := Reader.predicate_eq_ok.mp read
    refine ⟨by rw [stops], fun e spells => ?_⟩
    obtain ⟨q, read', alike⟩ := finds e spells
    obtain ⟨rfl, rfl⟩ := Prod.mk.inj (Except.ok.inj (read.symm.trans read'))
    exact ⟨rfl, alike⟩

/-- A row whose last word binds no closer than its first, with a number in the place of a column. -/
def mixed : Expression where
  first := .comparison (.word "a") (.symbol .eq (.word "?"))
  others :=
    .more false
      (.not (.group (.comparison (.word "b") (.null true))
        (.more true (.comparison (.word "1") (.symbol .notEq (.word "2"))) .done)))
      (.more true (.comparison (.quoted "NOT") (.within true [.quoted "x", .word "?"])) .done)

/-- A spelling of the row. -/
def mixedTokens : List Token :=
  [.word "a", .symbol "=", .word "?", .word "or", .word "Not", .leftParen, .word "b", .word "is",
    .word "not", .word "NULL", .word "AND", .word "1", .symbol "<>", .word "2", .rightParen,
    .word "and", .quoted "NOT", .word "NOT", .word "in", .leftParen, .quoted "x", .comma, .word "?",
    .rightParen]

theorem reads_exactly_expressions_mixed :
    mixed.Spells mixedTokens ∧ ∃ p s, (Reader.predicate []).run ⟨mixedTokens, 0, 0⟩ = .ok (p, s) ∧
      s.tokens = [] ∧ s.nextParam = 2 ∧ ∀ params caseSensitive row,
        p.holds params caseSensitive row = mixed.holds params caseSensitive row 0 := by
  have not {s : String} (h : (Token.word s).isKeyword "NOT" = true) : IsNegation true [.word s] :=
    .present h
  have null : (Term.comparison (.word "b") (.null true)).Spells
      (.word "b" :: (.word "is" :: [.word "not"] ++ [.word "NULL"])) :=
    .comparison rfl (.null rfl (not rfl) rfl)
  have settled : (Term.comparison (.word "1") (.symbol .notEq (.word "2"))).Spells
      [.word "1", .symbol "<>", .word "2"] := .comparison rfl (.symbol (.word "2") (by decide))
  have within : (Term.comparison (.quoted "NOT") (.within true [.quoted "x", .word "?"])).Spells
      (.quoted "NOT" :: ([.word "NOT"] ++ .word "in" ::
        (.leftParen :: Atom.commas [.quoted "x", .word "?"] ++ [.rightParen]))) :=
    .comparison rfl (.within _ (not rfl) rfl)
  have group := Term.Spells.group null (.more (.and (t := .word "AND") rfl) settled .done)
  have spells : mixed.Spells mixedTokens :=
    .row (.comparison rfl (.symbol (.word "?") (by decide)))
      (.more (.or (t := .word "or") rfl) (.not (t := .word "Not") rfl group)
        (.more (.and (t := .word "and") rfl) within .done))
  obtain ⟨accepts, found⟩ := reads_exactly_expressions [] mixedTokens 0 0
  obtain ⟨p, s, read⟩ := accepts.mpr ⟨mixed, spells⟩
  obtain ⟨stops, alike⟩ := found p s read
  obtain ⟨marks, evaluates⟩ := alike mixed spells
  exact ⟨spells, p, s, read, stops, marks, evaluates⟩

end Polystore.Sql
