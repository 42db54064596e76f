import Polystore.Proofs.Sql.Literals
import Polystore.Proofs.Sql.Names
import Polystore.Proofs.Sql.Parsing
import Polystore.Proofs.Sql.Reread

/-!
# Predicates that are read back

A predicate can be written when its columns are quotable, its places are plain values or parameters
in their order, and lists of such places stand behind `IN` and `NOT IN` only. Main statement: the
text of a predicate that can be written is a phrase that derives the predicate as it is read back.
-/

namespace Polystore

namespace Predicate

mutual

/-- The predicate can be written; the numbers are those of the next parameter in front of it and
behind it. -/
inductive Written : Nat → Predicate → Nat → Prop
  | compare {a b : Nat} {column : String} {op : Comparison} {o : Operand} :
    Sql.Quotable column → op ≠ .within → op ≠ .notWithin → o.Written a b →
    Written a (.compare column op o) b
  | member {a b : Nat} {column : String} {os : List Operand} (negated : Bool) :
    Sql.Quotable column → Operand.AllWritten a os b →
    Written a (.compare column (if negated then .notWithin else .within) (.list os)) b
  | isNull (a : Nat) {column : String} (negated : Bool) :
    Sql.Quotable column → Written a (.isNull column negated) a
  | between {a b c : Nat} {column : String} {low high : Operand} (negated : Bool) :
    Sql.Quotable column → low.Written a b → high.Written b c →
    Written a (.between column low high negated) c
  | and {a b : Nat} {parts : List Predicate} : PartsWritten a parts b → Written a (.and parts) b
  | or {a b : Nat} {parts : List Predicate} : PartsWritten a parts b → Written a (.or parts) b
  | not {a b : Nat} {inner : Predicate} : Written a inner b → Written a (.not inner) b
  | literal (a : Nat) (truth : Bool) : Written a (.literal truth) a

/-- The predicates can be written one after the other. -/
inductive PartsWritten : Nat → List Predicate → Nat → Prop
  | nil (a : Nat) : PartsWritten a [] a
  | cons {a b c : Nat} {p : Predicate} {ps : List Predicate} :
    Written a p b → PartsWritten b ps c → PartsWritten a (p :: ps) c

end

end Predicate

namespace Sql

/-- The text is that of the predicate, and reads as the predicate as it is read back. -/
structure Spells (a : Nat) (p : Predicate) (text : String) (b : Nat) : Prop where
  rendered : p.render Formatter.memory = .ok text
  derives : ∃ ts, Phrase text.toList ts ∧ Derives .whole a ts p.reread b

theorem Derives.alone {a b : Nat} {ts : List Token} {p : Predicate} (h : Derives .term a ts p b) :
    Derives .whole a ts p b := by
  have whole := h.whole (.done b p)
  rw [List.append_nil] at whole
  exact whole

/-! ## Constants -/

theorem derives_constant (a : Nat) (truth : Bool) :
    ∃ ts, Phrase (Predicate.constantText truth).toList ts ∧
      Derives .whole a ts (.literal truth) a := by
  have digit : ∃ d, (d = '0' ∨ d = '1') ∧
      (Predicate.constantText truth).toList = ['1', '=', d] ∧
      parseValue (String.ofList [d]).toList = some (.int (if truth then 1 else 0)) := by
    cases truth
    · exact ⟨'0', .inl rfl, rfl, rfl⟩
    · exact ⟨'1', .inr rfl, rfl, rfl⟩
  obtain ⟨d, cases, text, value⟩ := digit
  have column : IsColumn (.word "1") "1" (some (.int 1)) := .word rfl
  have settled :
      Comparison.eq.holds false (.int 1) (.int (if truth then 1 else 0)) = .ok truth := by
    have apart : Value.sameNumber (.int 1) (.int 0) = false := by decide +kernel
    have same : Value.sameNumber (.int 1) (.int 1) = true := by decide +kernel
    cases truth <;> simp [Comparison.holds, Value.looseEq, apart, same]
  -- the reader settles the comparison of the two digits, and keeps only its outcome
  refine ⟨_, text ▸ phrase_constant cases, .alone (.comparison ?_)⟩
  exact .settled column rfl (.word value) settled

/-! ## Comparisons -/

/-- A comparison with one place is spelled by words or by a symbol. -/
theorem exists_spelling {op : Comparison} (notWithin : op ≠ .within)
    (notNotWithin : op ≠ .notWithin) :
    ∃ us, Phrase op.spelling.toList us ∧
      ∀ {a b : Nat} {column : String} {t : Token} {o : Operand}, IsValue a t o b →
        IsComparison a (.quoted column :: us ++ [t]) (.compare column op o) b := by
  have symbol : ∀ {c : Char} {cs : List Char}, op.spelling.toList = c :: cs →
      (c :: cs).all isSymbolChar = true →
      Comparison.ofSymbol? (String.ofList (c :: cs)) = some op →
      ∃ us, Phrase op.spelling.toList us ∧
        ∀ {a b : Nat} {column : String} {t : Token} {o : Operand}, IsValue a t o b →
          IsComparison a (.quoted column :: us ++ [t]) (.compare column op o) b := by
    intro c cs spelled symbols known
    have phrase := phrase_symbol symbols
    rw [← spelled] at phrase known
    exact ⟨_, phrase, fun value => .symbol (.quoted _) known value (.inl rfl)⟩
  cases op with
  | eq => exact symbol rfl (by decide) rfl
  | notEq => exact symbol rfl (by decide) rfl
  | gt => exact symbol rfl (by decide) rfl
  | gte => exact symbol rfl (by decide) rfl
  | lt => exact symbol rfl (by decide) rfl
  | lte => exact symbol rfl (by decide) rfl
  | like =>
    exact ⟨_, phrase_like, fun value => .like (.quoted _) .absent rfl value⟩
  | notLike =>
    have word : Phrase "NOT".toList [.word "NOT"] := phrase_predicateWord (by decide)
    exact ⟨_, word.blank phrase_like, fun value => .like (.quoted _) (.present rfl) rfl value⟩
  | within => exact absurd rfl notWithin
  | notWithin => exact absurd rfl notNotWithin

theorem toList_comparison (column : String) (op : Comparison) (value : String) :
    (Formatter.memory.quoteName column ++ " " ++ op.spelling ++ " " ++ value).toList =
      (Formatter.memory.quoteName column).toList ++
        ' ' :: (op.spelling.toList ++ ' ' :: value.toList) := by
  simp [String.toList_append]

theorem spells_compare {a b : Nat} {column : String} {op : Comparison} {o : Operand}
    (quotable : Quotable column) (notWithin : op ≠ .within) (notNotWithin : op ≠ .notWithin)
    (h : o.Written a b) : ∃ text, Spells a (.compare column op o) text b := by
  obtain ⟨value, rendered, ⟨t, phrase, isValue⟩, _, _⟩ := stands_of_written h
  obtain ⟨us, spelling, comparison⟩ := exists_spelling notWithin notNotWithin
  have within : (op == .within) = false := beq_eq_false_iff_ne.mpr notWithin
  have without : (op == .notWithin) = false := beq_eq_false_iff_ne.mpr notNotWithin
  refine ⟨Formatter.memory.quoteName column ++ " " ++ op.spelling ++ " " ++ value, ?_, ?_⟩
  · rw [Predicate.render, within, without, rendered]
    rfl
  · rw [toList_comparison, Predicate.reread, within, without]
    exact ⟨_, (phrase_name quotable).blank (spelling.blank phrase),
      .alone (.comparison (comparison isValue))⟩

/-! ## Membership -/

/-- The places of a list are written with commas between them. -/
theorem exists_items {a c : Nat} {o : Operand} {os : List Operand}
    (h : Operand.AllWritten a (o :: os) c) :
    ∃ s ss ts, Operand.renderItems Formatter.memory (o :: os) = .ok (s :: ss) ∧
      Phrase (Text.joined ", " (s :: ss)).toList ts ∧ AreValues a ts (o :: os) c := by
  induction os generalizing a o with
  | nil =>
    obtain _ | ⟨written, rest⟩ := h
    cases rest
    obtain ⟨text, rendered, ⟨t, phrase, isValue⟩, _, _⟩ := stands_of_written written
    refine ⟨text, [], [t], ?_, phrase, .one isValue⟩
    rw [Operand.renderItems, rendered]
    rfl
  | cons o' os ih =>
    obtain _ | ⟨written, rest⟩ := h
    obtain ⟨text, rendered, ⟨t, phrase, isValue⟩, _, _⟩ := stands_of_written written
    obtain ⟨s, ss, ts, items, phrases, areValues⟩ := ih rest
    refine ⟨text, s :: ss, t :: .comma :: ts, ?_, ?_, .more isValue areValues⟩
    · rw [Operand.renderItems, rendered, items]
      rfl
    · rw [Text.toList_joined_cons]
      exact phrase.comma phrases

theorem spells_member {a b : Nat} {column : String} {os : List Operand} (negated : Bool)
    (quotable : Quotable column) (h : Operand.AllWritten a os b) :
    ∃ text, Spells a
      (.compare column (if negated then .notWithin else .within) (.list os)) text b := by
  cases os with
  | nil =>
    -- the constant that is written for the empty list binds nothing
    cases h
    obtain ⟨ts, phrase, derives⟩ := derives_constant a negated
    refine ⟨Predicate.constantText negated, ?_, ts, phrase, ?_⟩
    · cases negated <;> rfl
    · cases negated <;> exact derives
  | cons o os =>
    obtain ⟨s, ss, ts, items, phrase, areValues⟩ := exists_items h
    have rendered : (Operand.list (o :: os)).render Formatter.memory =
        .ok ("(" ++ Text.joined ", " (s :: ss) ++ ")") := by
      rw [Operand.render, items]
      rfl
    have group : ("(" ++ Text.joined ", " (s :: ss) ++ ")").toList =
        '(' :: (Text.joined ", " (s :: ss)).toList ++ [')'] := by
      simp [String.toList_append]
    have list := phrase.group
    rw [← group] at list
    have word : Phrase "IN".toList [.word "IN"] := phrase_predicateWord (by decide)
    have not : Phrase "NOT".toList [.word "NOT"] := phrase_predicateWord (by decide)
    cases negated with
    | false =>
      refine ⟨Formatter.memory.quoteName column ++ " " ++ Comparison.within.spelling ++ " " ++
        ("(" ++ Text.joined ", " (s :: ss) ++ ")"), ?_, ?_⟩
      · rw [if_neg Bool.false_ne_true, Predicate.render, rendered]
        rfl
      · rw [toList_comparison]
        exact ⟨_, (phrase_name quotable).blank (word.blank list),
          .alone (.comparison (.within (.quoted column) .absent rfl (.filled areValues)))⟩
    | true =>
      refine ⟨Formatter.memory.quoteName column ++ " " ++ Comparison.notWithin.spelling ++ " " ++
        ("(" ++ Text.joined ", " (s :: ss) ++ ")"), ?_, ?_⟩
      · rw [if_pos rfl, Predicate.render, rendered]
        rfl
      · have comparison : IsComparison a
            (.quoted column :: [.word "NOT"] ++ .word "IN" :: (.leftParen :: ts ++ [.rightParen]))
            (.compare column .notWithin (.list (o :: os))) b :=
          .within (.quoted column) (.present rfl) rfl (.filled areValues)
        rw [toList_comparison]
        exact ⟨_, (phrase_name quotable).blank ((not.blank word).blank list),
          .alone (.comparison comparison)⟩

/-! ## Other tests of a column -/

theorem spells_isNull (a : Nat) {column : String} (negated : Bool) (quotable : Quotable column) :
    ∃ text, Spells a (.isNull column negated) text a := by
  have name := phrase_name quotable
  have is : Phrase "IS".toList [.word "IS"] := phrase_predicateWord (by decide)
  have not : Phrase "NOT".toList [.word "NOT"] := phrase_predicateWord (by decide)
  have null : Phrase "NULL".toList [.word "NULL"] := phrase_predicateWord (by decide)
  refine ⟨_, rfl, ?_⟩
  cases negated with
  | false =>
    have comparison : IsComparison a (.quoted column :: .word "IS" :: [] ++ [.word "NULL"])
        (.isNull column false) a := .null (.quoted column) rfl .absent rfl
    rw [String.toList_append]
    exact ⟨_, name.blank (is.blank null), .alone (.comparison comparison)⟩
  | true =>
    have comparison : IsComparison a
        (.quoted column :: .word "IS" :: [.word "NOT"] ++ [.word "NULL"])
        (.isNull column true) a := .null (.quoted column) rfl (.present rfl) rfl
    rw [String.toList_append]
    exact ⟨_, name.blank (is.blank (not.blank null)), .alone (.comparison comparison)⟩

theorem spells_between {a b c : Nat} {column : String} {low high : Operand} (negated : Bool)
    (quotable : Quotable column) (hlow : low.Written a b) (hhigh : high.Written b c) :
    ∃ text, Spells a (.between column low high negated) text c := by
  obtain ⟨lowText, lowRendered, ⟨v, lowPhrase, lowValue⟩, _, _⟩ := stands_of_written hlow
  obtain ⟨highText, highRendered, ⟨w, highPhrase, highValue⟩, _, _⟩ := stands_of_written hhigh
  have name := phrase_name quotable
  have not : Phrase "NOT".toList [.word "NOT"] := phrase_predicateWord (by decide)
  have between : Phrase "BETWEEN".toList [.word "BETWEEN"] := phrase_predicateWord (by decide)
  have and : Phrase "AND".toList [.word "AND"] := phrase_predicateWord (by decide)
  have bounds := lowPhrase.blank (and.blank highPhrase)
  refine ⟨Formatter.memory.quoteName column ++ (if negated then " NOT BETWEEN " else " BETWEEN ") ++
    lowText ++ " AND " ++ highText, ?_, ?_⟩
  · rw [Predicate.render, lowRendered, highRendered]
    rfl
  · cases negated with
    | false =>
      have comparison : IsComparison a
          (.quoted column :: [] ++ [.word "BETWEEN", v, .word "AND", w])
          (.between column low high false) c :=
        .between (.quoted column) .absent rfl lowValue rfl highValue
      have phrase := name.blank (between.blank bounds)
      refine ⟨_, ?_, .alone (.comparison comparison)⟩
      simpa [String.toList_append] using phrase
    | true =>
      have comparison : IsComparison a
          (.quoted column :: [.word "NOT"] ++ [.word "BETWEEN", v, .word "AND", w])
          (.between column low high true) c :=
        .between (.quoted column) (.present rfl) rfl lowValue rfl highValue
      have phrase := name.blank (not.blank (between.blank bounds))
      refine ⟨_, ?_, .alone (.comparison comparison)⟩
      simpa [String.toList_append] using phrase

theorem spells_not {a b : Nat} {inner : Predicate} {text : String} (h : Spells a inner text b) :
    Spells a (.not inner) ("NOT (" ++ text ++ ")") b where
  rendered := by
    rw [Predicate.render, h.rendered]
    rfl
  derives := by
    obtain ⟨ts, phrase, derives⟩ := h.derives
    have not : Phrase "NOT".toList [.word "NOT"] := phrase_predicateWord (by decide)
    have whole := not.blank phrase.group
    have term : Derives .term a (.word "NOT" :: (.leftParen :: ts ++ [.rightParen]))
        (.not inner.reread) b := .not rfl (.group derives)
    refine ⟨_, ?_, .alone term⟩
    simpa [String.toList_append] using whole

/-! ## Conjunctions and disjunctions -/

/-- The texts are those of the predicates, one after the other. -/
inductive AllSpell : Nat → List Predicate → List String → Nat → Prop
  | nil (a : Nat) : AllSpell a [] [] a
  | cons {a b c : Nat} {p : Predicate} {ps : List Predicate} {text : String}
    {texts : List String} :
    Spells a p text b → AllSpell b ps texts c → AllSpell a (p :: ps) (text :: texts) c

theorem AllSpell.rendered {a b : Nat} {ps : List Predicate} {texts : List String}
    (h : AllSpell a ps texts b) : Predicate.renderParts Formatter.memory ps = .ok texts := by
  induction h with
  | nil => rfl
  | cons first _ ih =>
    rw [Predicate.renderParts, first.rendered, ih]
    rfl

/-- The word between the parts of a conjunction or of a disjunction. -/
def joiningWord (conjunction : Bool) : String := if conjunction then "AND" else "OR"

theorem phrase_joiningWord (conjunction : Bool) :
    Phrase (joiningWord conjunction).toList [.word (joiningWord conjunction)] := by
  cases conjunction
  · exact phrase_or
  · exact phrase_predicateWord (by decide)

theorem joins_joiningWord (conjunction : Bool) :
    Joins (.word (joiningWord conjunction)) conjunction := by
  cases conjunction
  · exact .or rfl
  · exact .and rfl

/-- The first part derives by itself, and the others whatever they are joined to. -/
theorem exists_parts (conjunction : Bool) {a c : Nat} {p : Predicate} {ps : List Predicate}
    {text : String} {texts : List String} (h : AllSpell a (p :: ps) (text :: texts) c) :
    ∃ first others b,
      Phrase (Text.joined (" " ++ joiningWord conjunction ++ " ")
        ((text :: texts).map fun t => "(" ++ t ++ ")")).toList (first ++ others) ∧
      Derives .term a first p.reread b ∧
      ∀ joined, Derives (.more joined) b others
        ((Predicate.rereadParts ps).foldl (Reader.join conjunction) joined) c := by
  have enclosed : ∀ t : String, ("(" ++ t ++ ")").toList = '(' :: t.toList ++ [')'] := by
    intro t
    simp [String.toList_append]
  -- the reader joins from the left, so what the others are joined to stays general
  induction ps generalizing a p text texts with
  | nil =>
    obtain _ | ⟨spells, rest⟩ := h
    cases rest
    obtain ⟨ts, phrase, derives⟩ := spells.derives
    refine ⟨_, [], c, ?_, .group derives, fun joined => .done c joined⟩
    rw [List.append_nil]
    show Phrase ("(" ++ text ++ ")").toList _
    rw [enclosed]
    exact phrase.group
  | cons q qs ih =>
    obtain _ | ⟨spells, rest⟩ := h
    obtain _ | ⟨spells', rest'⟩ := rest
    obtain ⟨ts, phrase, derives⟩ := spells.derives
    obtain ⟨first, others, b, phrases, term, more⟩ := ih (.cons spells' rest')
    refine ⟨_, .word (joiningWord conjunction) :: first ++ others, _, ?_, .group derives, ?_⟩
    · have whole := phrase.group.blank ((phrase_joiningWord conjunction).blank phrases)
      rw [List.map_cons, List.map_cons, Text.toList_joined_cons, enclosed]
      simpa [String.toList_append] using whole
    · intro joined
      exact .more (joins_joiningWord conjunction) term (more _)

theorem exists_joined (conjunction : Bool) {a b : Nat} {ps : List Predicate} {texts : List String}
    (h : AllSpell a ps texts b) :
    ∃ ts, Phrase (Predicate.joinedParts (" " ++ joiningWord conjunction ++ " ") conjunction
        texts).toList ts ∧
      Derives .whole a ts (Predicate.joinAll conjunction (Predicate.rereadParts ps)) b := by
  cases h with
  | nil => exact derives_constant a conjunction
  | cons spells rest =>
    obtain ⟨first, others, b, phrase, term, more⟩ := exists_parts conjunction (.cons spells rest)
    exact ⟨_, phrase, .whole term (more _)⟩

mutual

/-- **The text of a predicate that can be written derives the predicate as it is read back.** -/
theorem exists_spells {a b : Nat} {p : Predicate} (h : p.Written a b) :
    ∃ text, Spells a p text b := by
  cases h with
  | compare quotable notWithin notNotWithin written =>
    exact spells_compare quotable notWithin notNotWithin written
  | member negated quotable written => exact spells_member negated quotable written
  | isNull _ negated quotable => exact spells_isNull a negated quotable
  | between negated quotable low high => exact spells_between negated quotable low high
  | and parts =>
    obtain ⟨texts, spell⟩ := exists_allSpell parts
    refine ⟨Predicate.joinedParts " AND " true texts, ?_, exists_joined true spell⟩
    rw [Predicate.render, spell.rendered]
    rfl
  | or parts =>
    obtain ⟨texts, spell⟩ := exists_allSpell parts
    refine ⟨Predicate.joinedParts " OR " false texts, ?_, exists_joined false spell⟩
    rw [Predicate.render, spell.rendered]
    rfl
  | not inner =>
    obtain ⟨text, spells⟩ := exists_spells inner
    exact ⟨_, spells_not spells⟩
  | literal _ truth => exact ⟨_, rfl, derives_constant a truth⟩

theorem exists_allSpell {a b : Nat} {ps : List Predicate} (h : Predicate.PartsWritten a ps b) :
    ∃ texts, AllSpell a ps texts b := by
  cases h with
  | nil => exact ⟨[], .nil a⟩
  | cons first rest =>
    obtain ⟨text, spells⟩ := exists_spells first
    obtain ⟨texts, spell⟩ := exists_allSpell rest
    exact ⟨text :: texts, .cons spells spell⟩

end

end Sql

end Polystore
