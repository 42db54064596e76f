import Mathlib
import Polystore.Proofs.Sql.BrokenLists
import Polystore.Proofs.Sql.Given
import Polystore.Proofs.Sql.Indices

/-!
# Which lists of columns read back

The columns of an addition and of a read may have any names without backslashes, which stand in
quotes. The readers do not look at quotes where they look for the end of the list, though. An
addition ends it at the first closing parenthesis. A read ends it at the first `FROM` between blanks
behind which an identifier stands, or what can be taken for one. Such a place inside a name breaks
the list off, and then the text is not read. Where there is none, the statement reads back.
-/

namespace Polystore.Sql

/-! ## Additions -/

/-- The parameters of a row, from the first on. -/
def places (count : Nat) : List Operand := (List.range count).map Operand.param

theorem allWritten_places (count : Nat) : Operand.AllWritten 0 (places count) count := by
  refine Operand.allWritten_of_range ?_ ?_ ?_
  · simp [places, Operand.isSingle]
  · intro v hv
    simp [places] at hv
  · simp [places, List.filterMap_map, Function.comp_def, Operand.index?]

variable {table : String} {columns : List String} {values : List Operand} {b : Nat}

/-- The columns of an addition are the names up to the first closing parenthesis. -/
theorem readInsert_columns {text rest columns token : List Char} {st : Statement}
    (read : readInsert text = .ok st)
    (head : ((afterPhrase ["insert", "into"] text).bind takeIdentifier) = some (token, rest))
    (opening : afterMark '(' rest = some columns) :
    ∃ names, nameList (columns.takeWhile (· ≠ ')')) = .ok names := by
  obtain ⟨into, phrase, name⟩ := Option.bind_eq_some_iff.mp head
  obtain ⟨found, parts, read⟩ := Outcome.bind_eq_ok.mp read
  rw [orInvalid_eq_ok, phrase] at parts
  simp only [Option.bind_eq_bind, Option.bind_some, name, opening, Option.bind_eq_some_iff,
    Option.some.injEq] at parts
  obtain ⟨_, _, _, _, _, _, rfl⟩ := parts
  obtain ⟨_, _, read⟩ := Outcome.bind_eq_ok.mp read
  obtain ⟨names, listed, _⟩ := Outcome.bind_eq_ok.mp read
  exact ⟨names, listed⟩

/-- Where a column holds a closing parenthesis, the list of columns breaks off there. -/
theorem readInsert_ne_ok {texts : List String} (hcolumns : ∀ name ∈ columns, Quotable name)
    (closed : ∃ name ∈ columns, ')' ∈ name.toList) (st : Statement) :
    readInsert ("INSERT INTO ".toList ++ rowText table columns texts) ≠ .ok st := by
  intro read
  obtain ⟨name, hname, hparen⟩ := closed
  obtain ⟨front, behind, split, clean⟩ := List.eq_append_cons_of_mem (mem_names hname hparen)
  obtain ⟨before, other, later, p, m, rfl, shape, rfl, rfl⟩ :=
    names_split (by decide) (by decide) (fun e => absurd e (by decide)) split
  have head : ∀ rest, afterPhrase ["insert", "into"] ("INSERT INTO ".toList ++ rest) =
      some (Text.trimStart rest) := fun _ => rfl
  have opening : ∀ rest, afterMark '(' (" (".toList ++ rest) = some rest := fun _ => rfl
  have marked : Marked (rowText table (before ++ other :: later) texts) := marked_name table _
  have token := takeIdentifier_name table (" (".toList ++
    ((Formatter.memory.names (before ++ other :: later)).toList ++ ')' :: (" VALUES".toList ++
      (" (".toList ++ ((Text.joined ", " texts).toList ++ [')']))))) (by simp)
  rw [← rowText] at token
  obtain ⟨names, listed⟩ := readInsert_columns read
    (by rw [head, marked.trimStart, Option.bind_some, token]) (opening _)
  rw [split, List.append_assoc, List.cons_append, (takeWhile_first clean _).1,
    nameList_brokenOff (fun n hn => hcolumns n (List.mem_append_left _ hn))] at listed
  · cases listed
  · intro backslash
    refine hcolumns other (List.mem_append_right _ List.mem_cons_self) ?_
    rw [shape]
    exact List.mem_append_left _ backslash

/-- **The addition of a row reads back just when no column holds a closing parenthesis.** -/
theorem readStatement_insert_iff (htable : Quotable table)
    (hcolumns : ∀ name ∈ columns, Quotable name) (written : Operand.AllWritten 0 values b) :
    ∃ text, (Statement.insert table columns values).render Formatter.memory = .ok text ∧
      (readStatement text = .ok (.insert table columns values) ↔
        ∀ name ∈ columns, ')' ∉ name.toList) := by
  obtain ⟨text, texts, rendered, read, parsed⟩ := exists_insertText table columns written
  refine ⟨text, rendered, fun back => ?_, fun unclosed => ?_⟩
  · intro name hname closed
    rw [read] at back
    exact readInsert_ne_ok hcolumns ⟨name, hname, closed⟩ _ back
  · rw [read]
    exact readInsert_text htable hcolumns unclosed written parsed

/-! ## Where a table is looked for -/

theorem afterWord_eq_some {word cs rest : List Char} :
    afterWord word cs = some rest ↔
      ∃ front, cs = front ++ rest ∧ front.map Text.fold = word.map Text.fold := by
  induction word generalizing cs with
  | nil =>
    constructor
    · intro h
      exact ⟨[], Option.some.inj h, rfl⟩
    · rintro ⟨front, rfl, same⟩
      rw [List.map_eq_nil_iff.mp same]
      rfl
  | cons w word ih =>
    cases cs with
    | nil =>
      constructor
      · intro h
        cases h
      · rintro ⟨front, text, same⟩
        rw [(List.append_eq_nil_iff.mp text.symm).1] at same
        cases same
    | cons c cs =>
      constructor
      · intro h
        rw [afterWord] at h
        split at h
        · rename_i folds
          obtain ⟨front, rfl, same⟩ := ih.mp h
          refine ⟨c :: front, rfl, ?_⟩
          rw [List.map_cons, List.map_cons, same, beq_iff_eq.mp folds]
        · cases h
      · rintro ⟨front, text, same⟩
        cases front with
        | nil => cases same
        | cons d front =>
          obtain ⟨rfl, rfl⟩ := List.cons.inj text
          obtain ⟨first, others⟩ := List.cons.inj same
          rw [afterWord, Text.sameFold, first, beq_self_eq_true, if_pos rfl]
          exact ih.mpr ⟨front, rfl, others⟩

theorem afterBlanks_eq_some {cs rest : List Char} :
    afterBlanks cs = some rest ↔
      ∃ b tail, cs = b :: tail ∧ Text.isBlank b = true ∧ Text.trimStart tail = rest := by
  cases cs with
  | nil => simp [afterBlanks]
  | cons c cs => simp [afterBlanks]

/-- The code points of the blanks. -/
def blankCodes : List Nat :=
  [9, 10, 11, 12, 13, 0x20, 0x85, 0xa0, 0x1680, 0x2000, 0x2001, 0x2002, 0x2003, 0x2004, 0x2005,
    0x2006, 0x2007, 0x2008, 0x2009, 0x200a, 0x2028, 0x2029, 0x202f, 0x205f, 0x3000]

theorem toNat_mem_blankCodes {c : Char} (h : Text.isBlank c = true) : c.toNat ∈ blankCodes := by
  simp only [Text.isBlank, Bool.or_eq_true, Bool.and_eq_true, decide_eq_true_eq, beq_iff_eq] at h
  simp only [blankCodes, List.mem_cons, List.not_mem_nil, or_false]
  omega

/-- No blank folds to the first letter of `FROM`. -/
theorem not_blank_of_fold {c : Char} (h : Text.fold c = 'f') : Text.isBlank c = false := by
  by_contra blank
  have others : blankCodes.all (fun n => Text.fold (Char.ofNat n) != 'f') = true := by
    decide +kernel
  have other := List.all_eq_true.mp others c.toNat
    (toNat_mem_blankCodes (Bool.not_eq_false _ ▸ blank))
  rw [Char.ofNat_toNat, h] at other
  exact absurd other (by decide)

theorem exists_blanks (cs : List Char) :
    ∃ blanks, (∀ b ∈ blanks, Text.isBlank b = true) ∧ cs = blanks ++ Text.trimStart cs :=
  ⟨cs.takeWhile Text.isBlank, fun _ hb => List.mem_takeWhile_imp hb,
    List.takeWhile_append_dropWhile.symm⟩

/-- A table is found behind blanks, the word `FROM` and blanks, where an identifier stands. -/
theorem afterFrom_eq_some {cs : List Char} {found : List Char × List Char} :
    afterFrom cs = some found ↔
      ∃ (b : Char) (blanks word : List Char) (b' : Char) (behind : List Char),
        cs = b :: (blanks ++ (word ++ b' :: behind)) ∧
        Text.isBlank b = true ∧ (∀ c ∈ blanks, Text.isBlank c = true) ∧
        word.map Text.fold = "from".toList ∧ Text.isBlank b' = true ∧
        takeIdentifier (Text.trimStart behind) = some found := by
  have lower : "from".toList.map Text.fold = "from".toList := by decide
  constructor
  · intro h
    obtain ⟨rest, head, token⟩ := Option.bind_eq_some_iff.mp h
    obtain ⟨front, first, phrase⟩ := Option.bind_eq_some_iff.mp head
    obtain ⟨b, tail, rfl, hb, rfl⟩ := afterBlanks_eq_some.mp first
    obtain ⟨more, words, second⟩ := Option.bind_eq_some_iff.mp phrase
    obtain ⟨word, text, folds⟩ := afterWord_eq_some.mp words
    obtain ⟨b', behind, rfl, hb', rfl⟩ := afterBlanks_eq_some.mp second
    obtain ⟨blanks, hblanks, split⟩ := exists_blanks tail
    rw [text] at split
    rw [lower] at folds
    exact ⟨b, blanks, word, b', behind, by rw [split], hb, hblanks, folds, hb', token⟩
  · rintro ⟨b, blanks, word, b', behind, rfl, hb, hblanks, folds, hb', token⟩
    have words : afterWord "from".toList (word ++ b' :: behind) = some (b' :: behind) :=
      afterWord_eq_some.mpr ⟨word, rfl, folds.trans lower.symm⟩
    have front : Text.trimStart (blanks ++ (word ++ b' :: behind)) = word ++ b' :: behind := by
      cases word with
      | nil => cases folds
      | cons w word =>
        rw [Text.trimStart, Text.dropWhile_blanks hblanks]
        exact Text.trimStart_cons_of_not_blank (not_blank_of_fold (List.cons.inj folds).1) _
    have phrase : afterPhrase ["from"] (word ++ b' :: behind) = some (Text.trimStart behind) := by
      show (afterWord "from".toList (word ++ b' :: behind)).bind afterBlanks = _
      rw [words, Option.bind_some]
      exact afterBlanks_eq_some.mpr ⟨b', behind, rfl, hb', rfl⟩
    have first := afterBlanks_eq_some.mpr ⟨b, blanks ++ (word ++ b' :: behind), rfl, hb, front⟩
    rw [afterFrom, first, Option.bind_some, phrase]
    exact token

/-- The fields of a read go on to the first place where a table is found. -/
theorem takeFields_cases (seen cs rest : List Char) :
    ((∀ front c behind, cs = front ++ c :: behind → afterFrom (c :: (behind ++ rest)) = none) ∧
      takeFields seen (cs ++ rest) = takeFields (cs.reverse ++ seen) rest) ∨
    ∃ front c behind found, cs = front ++ c :: behind ∧
      afterFrom (c :: (behind ++ rest)) = some found ∧
      takeFields seen (cs ++ rest) = some (seen.reverse ++ front, found) := by
  induction cs generalizing seen with
  | nil =>
    refine .inl ⟨fun front c behind text => ?_, rfl⟩
    exact absurd text.symm (List.append_ne_nil_of_right_ne_nil front (List.cons_ne_nil c behind))
  | cons d cs ih =>
    cases here : afterFrom (d :: (cs ++ rest)) with
    | some found =>
      refine .inr ⟨[], d, cs, found, rfl, here, ?_⟩
      rw [List.cons_append, takeFields_cons, here, List.append_nil]
    | none =>
      have step : takeFields seen (d :: cs ++ rest) = takeFields (d :: seen) (cs ++ rest) := by
        rw [List.cons_append, takeFields_cons, here]
      rw [step]
      rcases ih (d :: seen) with ⟨nowhere, passed⟩ | ⟨front, c, behind, found, rfl, later, taken⟩
      · refine .inl ⟨fun front c behind text => ?_, ?_⟩
        · cases front with
          | nil =>
            obtain ⟨rfl, rfl⟩ := List.cons.inj text
            exact here
          | cons a front => exact nowhere front c behind (List.cons.inj text).2
        · rw [passed, List.reverse_cons, List.append_assoc, List.singleton_append]
      · refine .inr ⟨d :: front, c, behind, found, rfl, later, ?_⟩
        rw [taken, List.reverse_cons, List.append_assoc, List.singleton_append]

/-! ## What is taken for a table -/

theorem isSome_takeDoubleQuoted {seen rest : List Char}
    {fallback : Option (List Char × List Char)}
    (h : fallback.isSome = true ∨ '\x22' ∈ rest) :
    (takeDoubleQuoted seen fallback rest).isSome = true := by
  fun_induction takeDoubleQuoted seen fallback rest with
  | case1 => exact h.resolve_right List.not_mem_nil
  | case2 => rfl
  | case3 seen fallback c other =>
    refine h.resolve_right fun mem => ?_
    rw [← List.mem_singleton.mp mem] at other
    exact absurd other (by decide)
  | case4 seen fallback c d rest closes doubled ih => exact ih (.inl rfl)
  | case5 => rfl
  | case6 seen fallback c d rest other ih =>
    refine ih (h.imp_right fun mem => (List.mem_cons.mp mem).resolve_left fun e => ?_)
    rw [← e] at other
    exact absurd other (by decide)

theorem isSome_takeEnclosed {opening closing : Char} {cs : List Char} :
    (takeEnclosed opening closing cs).isSome = true ↔ closing ∈ cs := by
  constructor
  · intro h
    by_contra open_
    have nothing : cs.dropWhile (· ≠ closing) = [] :=
      List.dropWhile_eq_nil_iff.mpr fun c hc => by
        have other : c ≠ closing := fun e => open_ (e ▸ hc)
        simpa using other
    rw [takeEnclosed, nothing] at h
    cases h
  · intro h
    obtain ⟨front, behind, rfl, clean⟩ := List.eq_append_cons_of_mem h
    rw [takeEnclosed, (takeWhile_first clean behind).2]
    rfl

/-- What stands behind a column of a written read, from the mark that closes it on. -/
def readTail (later : List String) (table : String) : List Char :=
  '\x22' :: (trailing later ++ (" FROM ".toList ++ (Formatter.memory.quoteName table).toList))

/-- What stands in a name behind `FROM` and a blank is taken for a table: the name ends there, or a
quote stands there, a bare identifier, or a backquote or bracket that is closed in this name or in a
later one. -/
def TakenForTable (behind : List Char) (later : List String) : Prop :=
  match Text.trimStart behind with
  | [] => True
  | c :: rest =>
    c = '\x22' ∨ isNameStart c = true ∨
      (c = '\x60' ∧ ('\x60' ∈ rest ∨ ∃ name ∈ later, '\x60' ∈ name.toList)) ∨
      (c = '[' ∧ (']' ∈ rest ∨ ∃ name ∈ later, ']' ∈ name.toList))

theorem separators_subset : ", ".toList ⊆ "\", FROM".toList := by decide

theorem keyword_subset : " FROM ".toList ⊆ "\", FROM".toList := by decide

theorem mem_readTail {c : Char} {later : List String} {table : String}
    (other : c ∉ "\", FROM".toList) (notTable : c ∉ table.toList) (cs : List Char) :
    c ∈ doubledMarks cs ++ readTail later table ↔
      c ∈ cs ∨ ∃ name ∈ later, c ∈ name.toList := by
  have notMark : c ≠ '\x22' := fun e => other (by rw [e]; decide)
  have quoted : ∀ name : String, c ∈ (Formatter.memory.quoteName name).toList ↔
      c ∈ name.toList := fun name =>
    ⟨fun h => (mem_quoteName h).resolve_left notMark, mem_quoteName_of_mem⟩
  have separator : c ∉ ", ".toList := fun h => other (separators_subset h)
  have behind : c ∈ trailing later ↔ ∃ name ∈ later, c ∈ name.toList := by
    simp only [trailing, List.mem_flatMap, List.mem_append, quoted, separator, false_or]
  have keyword : c ∉ " FROM ".toList := fun h => other (keyword_subset h)
  simp only [readTail, List.mem_append, List.mem_cons, mem_doubledMarks, behind, quoted, notMark,
    notTable, keyword, false_or, or_false]

theorem not_blank_of_trimStart {c : Char} {cs rest : List Char}
    (h : Text.trimStart cs = c :: rest) : Text.isBlank c = false := by
  have head := List.head?_dropWhile_not Text.isBlank cs
  rw [← Text.trimStart, h] at head
  simpa using head

theorem isSome_takeIdentifier_tail {table : String} (plainTable : isPlainName table = true)
    (behind : List Char) (later : List String) :
    (takeIdentifier (Text.trimStart (doubledMarks behind ++ readTail later table))).isSome = true ↔
      TakenForTable behind later := by
  have notTable : ∀ c : Char, isPlainChar c = false → c ∉ table.toList := by
    intro c other mem
    rw [isPlainChar_of_mem plainTable c mem] at other
    cases other
  obtain ⟨blanks, hblanks, split⟩ := exists_blanks behind
  have visible : Text.trimStart (doubledMarks behind ++ readTail later table) =
      Text.trimStart (doubledMarks (Text.trimStart behind) ++ readTail later table) := by
    have clean := doubledMarks_clean (mark_not_mem_blanks hblanks)
    conv_lhs => rw [split, doubledMarks_append, clean, List.append_assoc]
    rw [Text.trimStart, Text.dropWhile_blanks hblanks, ← Text.trimStart]
  have closes : '\x22' ∈ trailing later ++
      (" FROM ".toList ++ (Formatter.memory.quoteName table).toList) := by
    rw [toList_quoteName]
    exact List.mem_append_right _ (List.mem_append_right _ List.mem_cons_self)
  rw [visible, TakenForTable]
  cases shape : Text.trimStart behind with
  | nil => exact iff_of_true (isSome_takeDoubleQuoted (.inr closes)) trivial
  | cons c rest =>
    have solid := not_blank_of_trimStart shape
    by_cases mark : c = '\x22'
    · subst mark
      have doubled : doubledMarks ('\x22' :: rest) = '\x22' :: '\x22' :: doubledMarks rest := rfl
      rw [doubled]
      exact iff_of_true (isSome_takeDoubleQuoted (.inr List.mem_cons_self)) (.inl rfl)
    · rw [doubledMarks_cons mark, List.cons_append, Text.trimStart_cons_of_not_blank solid,
        takeIdentifier, if_neg (by simpa using mark)]
      by_cases backquote : c = '\x60'
      · subst backquote
        have bare : isNameStart '\x60' = false := by decide
        rw [if_pos (by decide), isSome_takeEnclosed,
          mem_readTail (by decide) (notTable '\x60' (by decide))]
        simp [bare]
      · rw [if_neg (by simpa using backquote)]
        by_cases bracket : c = '['
        · subst bracket
          have bare : isNameStart '[' = false := by decide
          rw [if_pos (by decide), isSome_takeEnclosed,
            mem_readTail (by decide) (notTable ']' (by decide))]
          simp [bare]
        · rw [if_neg (by simpa using bracket)]
          cases bare : isNameStart c with
          | true => simp [bare]
          | false => simp [mark, backquote, bracket, bare]

/-- The name is cut where it holds `FROM` between blanks, in front of something that is taken for a
table. -/
def Severs (name : String) (later : List String) : Prop :=
  ∃ (front : List Char) (b : Char) (word : List Char) (b' : Char) (behind : List Char),
    name.toList = front ++ b :: (word ++ b' :: behind) ∧
    Text.isBlank b = true ∧ word.map Text.fold = "from".toList ∧ Text.isBlank b' = true ∧
    TakenForTable behind later

/-- A name of the list is cut. -/
def Severed (names : List String) : Prop :=
  ∃ before name later, names = before ++ name :: later ∧ Severs name later

theorem mark_not_mem_from {word : List Char} {b : Char}
    (folds : word.map Text.fold = "from".toList) (hb : Text.isBlank b = true) :
    '\x22' ∉ word ++ [b] := by
  intro mem
  rcases List.mem_append.mp mem with mem | mem
  · have folded : Text.fold '\x22' ∈ word.map Text.fold := List.mem_map_of_mem mem
    rw [folds] at folded
    exact absurd folded (by decide)
  · rw [← List.mem_singleton.mp mem] at hb
    exact absurd hb (by decide)

variable {name : String} {later : List String}

/-- A place in a name where a table is found cuts the name. -/
theorem severs_of_afterFrom (plainTable : isPlainName table = true) {p m : List Char} {c : Char}
    {found : List Char × List Char} (shape : name.toList = p ++ c :: m)
    (h : afterFrom (c :: (doubledMarks m ++ readTail later table)) = some found) :
    Severs name later := by
  obtain ⟨b, blanks, word, b', behind, text, hb, hblanks, folds, hb', token⟩ :=
    afterFrom_eq_some.mp h
  obtain ⟨rfl, tail⟩ := List.cons.inj text
  have clean : '\x22' ∉ blanks ++ (word ++ [b']) := by
    intro mem
    rcases List.mem_append.mp mem with mem | mem
    · exact mark_not_mem_blanks hblanks mem
    · exact mark_not_mem_from folds hb' mem
  obtain ⟨m', rfl, rfl⟩ := marks_front clean (tail.trans (by simp : _ = _ ++ behind))
  have taken := (isSome_takeIdentifier_tail plainTable m' later).mp (by
    rw [readTail, token]
    rfl)
  -- of the blanks in front of the word only the last one counts
  have filled := List.cons_ne_nil c blanks
  have every : ∀ d ∈ c :: blanks, Text.isBlank d = true := List.forall_mem_cons.mpr ⟨hb, hblanks⟩
  have last := every _ (List.getLast_mem filled)
  refine ⟨p ++ (c :: blanks).dropLast, (c :: blanks).getLast filled, word, b', m', ?_, last, folds,
    hb', taken⟩
  have blanks' := List.dropLast_concat_getLast filled
  calc
    name.toList = p ++ ((c :: blanks) ++ (word ++ b' :: m')) := by rw [shape]; simp
    _ = p ++ (((c :: blanks).dropLast ++ [(c :: blanks).getLast filled]) ++
        (word ++ b' :: m')) := by rw [blanks']
    _ = _ := by simp

/-- Where a name is cut, a table is found inside it. -/
theorem exists_afterFrom_of_severs (plainTable : isPlainName table = true)
    (severs : Severs name later) :
    ∃ p c m found, name.toList = p ++ c :: m ∧
      afterFrom (c :: (doubledMarks m ++ readTail later table)) = some found := by
  obtain ⟨front, b, word, b', behind, shape, hb, folds, hb', taken⟩ := severs
  have token := (isSome_takeIdentifier_tail plainTable behind later).mpr taken
  obtain ⟨found, token⟩ := Option.isSome_iff_exists.mp token
  refine ⟨front, b, word ++ b' :: behind, found, shape, afterFrom_eq_some.mpr
    ⟨b, [], word, b', doubledMarks behind ++ readTail later table, ?_, hb,
      fun c hc => absurd hc List.not_mem_nil, folds, hb', token⟩⟩
  rw [List.append_cons, doubledMarks_append, doubledMarks_clean (mark_not_mem_from folds hb')]
  simp

/-! ## Reads -/

/-- The read of some columns of every row. -/
def listing (table : String) (columns : List String) : SelectStatement :=
  { table, fields := columns, filter := none, groupBy := [], orderBy := [], limit := none
    offset := none }

/-- What stands behind the columns of a written read. -/
def fromText (table : String) : List Char :=
  " FROM ".toList ++ (Formatter.memory.quoteName table).toList

theorem fromText_eq (table : String) :
    fromText table = " FROM ".toList ++ (Formatter.memory.quoteName table).toList := rfl

/-- A place where a table is found stands inside a name. -/
theorem found_inside {names : List String} {front behind : List Char} {c : Char}
    {found : List Char × List Char}
    (text : (Formatter.memory.names names).toList = front ++ c :: behind)
    (h : afterFrom (c :: (behind ++ fromText table)) = some found) :
    ∃ before name later p m, names = before ++ name :: later ∧ name.toList = p ++ c :: m ∧
      front = brokenOff before p ∧ behind = doubledMarks m ++ '\x22' :: trailing later := by
  have blank : Text.isBlank c = true := by
    by_contra solid
    rw [afterFrom_solid (Bool.eq_false_iff.mpr solid)] at h
    cases h
  refine names_split ?_ ?_ ?_ text
  · rintro rfl
    exact absurd blank (by decide)
  · rintro rfl
    exact absurd blank (by decide)
  · rintro rfl marked
    cases behind with
    | nil => cases marked
    | cons d behind =>
      obtain rfl : d = '\x22' := Option.some.inj marked
      cases h

theorem behind_fromText (m : List Char) (later : List String) (table : String) :
    (doubledMarks m ++ '\x22' :: trailing later) ++ fromText table =
      doubledMarks m ++ readTail later table := by
  simp [readTail, fromText_eq]

theorem takeSelectHead_of_fields {cs : List Char} {found : List Char × List Char × List Char}
    (solid : Text.trimStart cs = cs) (h : takeFields [] cs = some found) :
    takeSelectHead ("SELECT ".toList ++ cs) = some found := by
  have word : ∀ rest, afterWord "select".toList ("SELECT ".toList ++ rest) = some (' ' :: rest) :=
    fun _ => rfl
  have blanks : ∀ rest, afterBlanks (' ' :: rest) = some (Text.trimStart rest) := fun _ => rfl
  rw [takeSelectHead, word]
  simp only [Option.bind_eq_bind, Option.bind_some, blanks, solid, h, Option.some_or]

/-- The fields of a read are a star or a list that reads. -/
theorem readSelect_fields {text fields : List Char} {found : List Char × List Char}
    {st : Statement} (read : readSelect text = .ok st)
    (head : takeSelectHead text = some (fields, found)) (notStar : Text.trim fields ≠ ['*']) :
    ∃ names, nameList (Text.trim fields) = .ok names := by
  obtain ⟨_, parts, read⟩ := Outcome.bind_eq_ok.mp read
  rw [orInvalid_eq_ok, head] at parts
  obtain rfl := Option.some.inj parts
  simp only [if_neg notStar] at read
  obtain ⟨names, listed, _⟩ := Outcome.bind_eq_ok.mp read
  exact ⟨names, listed⟩

theorem trimStart_names (filled : columns ≠ []) (rest : List Char) :
    Text.trimStart ((Formatter.memory.names columns).toList ++ rest) =
      (Formatter.memory.names columns).toList ++ rest := by
  cases columns with
  | nil => exact absurd rfl filled
  | cons name names => exact (marked_names name names rest).trimStart

/-- Where a column is cut, the list of columns breaks off there. -/
theorem readSelect_ne_ok (plainTable : isPlainName table = true)
    (hcolumns : ∀ name ∈ columns, Quotable name) (severed : Severed columns) (st : Statement) :
    readSelect ("SELECT ".toList ++ ((Formatter.memory.names columns).toList ++ fromText table)) ≠
      .ok st := by
  intro read
  have filled : columns ≠ [] := by
    obtain ⟨before, name, later, rfl, _⟩ := severed
    simp
  have solid := trimStart_names filled (fromText table)
  rcases takeFields_cases [] (Formatter.memory.names columns).toList (fromText table) with
    ⟨nowhere, _⟩ | ⟨front, c, behind, found, text, here, taken⟩
  · obtain ⟨before, name, later, rfl, severs⟩ := severed
    obtain ⟨p, c, m, found, shape, here⟩ := exists_afterFrom_of_severs plainTable severs
    have other : c ≠ '\x22' := by
      rintro rfl
      cases here
    have nothing := nowhere _ c _ (names_text before later other shape)
    rw [behind_fromText, here] at nothing
    cases nothing
  · obtain ⟨before, name, later, p, m, rfl, shape, rfl, rfl⟩ := found_inside text here
    obtain ⟨p', part, trimmed⟩ := trim_brokenOff before p
    obtain ⟨names, listed⟩ := readSelect_fields read (takeSelectHead_of_fields solid taken) (by
      rw [List.reverse_nil, List.nil_append, trimmed]
      obtain ⟨tail, marked⟩ := marked_brokenOff before p'
      rw [marked]
      exact fun star => absurd (List.cons.inj star).1 (by decide))
    rw [List.reverse_nil, List.nil_append, trimmed,
      nameList_brokenOff fun n hn => hcolumns n (List.mem_append_left _ hn)] at listed
    · cases listed
    · intro backslash
      refine hcolumns name (List.mem_append_right _ List.mem_cons_self) ?_
      rw [shape]
      exact List.mem_append_left _ (part.mem backslash)

theorem readSelect_listing (plainTable : isPlainName table = true) (filled : columns ≠ [])
    (hcolumns : ∀ name ∈ columns, Quotable name) (whole : ¬ Severed columns) :
    readSelect ("SELECT ".toList ++ ((Formatter.memory.names columns).toList ++ fromText table)) =
      .ok (.select (listing table columns)) := by
  have taken : takeFields [] ((Formatter.memory.names columns).toList ++ fromText table) =
      some ((Formatter.memory.names columns).toList,
        (Formatter.memory.quoteName table).toList, []) := by
    rcases takeFields_cases [] (Formatter.memory.names columns).toList (fromText table) with
      ⟨_, passed⟩ | ⟨front, c, behind, found, text, here, _⟩
    · have behind : fromText table =
          " FROM ".toList ++ ((Formatter.memory.quoteName table).toList ++ []) := by
        rw [List.append_nil]
        rfl
      have apart : ([] : List Char).head? ≠ some '\x22' := (Option.some_ne_none _).symm
      rw [passed, behind, takeFields_from _ apart]
      simp
    · obtain ⟨before, name, later, p, m, rfl, shape, rfl, rfl⟩ := found_inside text here
      rw [behind_fromText] at here
      exact absurd ⟨before, name, later, rfl, severs_of_afterFrom plainTable shape here⟩ whole
  have head := takeSelectHead_of_fields (trimStart_names filled _) taken
  have clauses : splitClauses [] = ([], []) := rfl
  have fields : fieldsText columns = Formatter.memory.names columns :=
    if_neg (by simpa using filled)
  rcases fields_cases hcolumns with ⟨none, _⟩ | ⟨notStar, listed⟩
  · exact absurd none filled
  · rw [fields] at notStar listed
    rw [readSelect, head]
    simp only [orInvalid, Outcome.ok_bind, if_neg notStar, listed, clauses,
      nameOf_name (quotable_of_plain plainTable)]
    rfl

theorem readStatement_listing_iff (plainTable : isPlainName table = true) (filled : columns ≠ [])
    (hcolumns : ∀ name ∈ columns, Quotable name) :
    ∃ text, (Statement.select (listing table columns)).render Formatter.memory = .ok text ∧
      (readStatement text = .ok (.select (listing table columns)) ↔ ¬ Severed columns) := by
  refine ⟨"SELECT " ++ fieldsText columns ++ " FROM " ++ Formatter.memory.quoteName table ++ "" ++
    "" ++ "" ++ "", rfl, ?_⟩
  have fields : fieldsText columns = Formatter.memory.names columns :=
    if_neg (by simpa using filled)
  have shown : ("SELECT " ++ fieldsText columns ++ " FROM " ++ Formatter.memory.quoteName table ++
      "" ++ "" ++ "" ++ "").toList =
      "SELECT ".toList ++ ((Formatter.memory.names columns).toList ++ fromText table) := by
    rw [fields]
    simp [String.toList_append, fromText_eq]
  have finished : Finished
      ("SELECT ".toList ++ ((Formatter.memory.names columns).toList ++ fromText table)) := by
    rw [fromText_eq, ← List.append_assoc, ← List.append_assoc]
    exact (phrase_name (quotable_of_plain plainTable)).finished.behind (by decide) _
  have words : ∀ rest, lowerWords ("SELECT ".toList ++ rest) = "select" :: lowerWords rest :=
    fun _ => rfl
  have read : ∀ text : String, text.toList =
      "SELECT ".toList ++ ((Formatter.memory.names columns).toList ++ fromText table) →
      readStatement text = readSelect
        ("SELECT ".toList ++ ((Formatter.memory.names columns).toList ++ fromText table)) := by
    intro text e
    rw [readStatement, e, statementText_eq finished, words]
    rfl
  rw [read _ shown]
  exact ⟨fun back severed => readSelect_ne_ok plainTable hcolumns severed _ back,
    readSelect_listing plainTable filled hcolumns⟩

/-! ## Lists of columns -/

/-- **Lists of columns read back but for the delimiters that are looked for.** -/
theorem column_lists_read_back (plainTable : isPlainName table = true)
    (hcolumns : ∀ name ∈ columns, Quotable name) :
    (∃ text, (Statement.insert table columns (places columns.length)).render Formatter.memory =
        .ok text ∧
      (readStatement text = .ok (.insert table columns (places columns.length)) ↔
        ∀ name ∈ columns, ')' ∉ name.toList)) ∧
    (columns ≠ [] →
      ∃ text, (Statement.select (listing table columns)).render Formatter.memory = .ok text ∧
        (readStatement text = .ok (.select (listing table columns)) ↔ ¬ Severed columns)) :=
  ⟨readStatement_insert_iff (quotable_of_plain plainTable) hcolumns (allWritten_places _),
    fun filled => readStatement_listing_iff plainTable filled hcolumns⟩

/-- A name that holds `FROM` as a word is cut, whatever columns stand in front of it. -/
theorem severed_of_word (before : List String) : Severed (before ++ ["valid from now"]) := by
  have taken : TakenForTable "now".toList [] := .inr (.inl (by decide))
  exact ⟨before, "valid from now", [], rfl, "valid".toList, ' ', "from".toList, ' ', "now".toList,
    by decide, by decide, by decide, by decide, taken⟩

/-- Commas, quotes and brackets in names, and a name that holds `FROM` as a word. -/
def awkward : List String := ["size, \"net\"", "[a] (b", "valid from now"]

theorem column_lists_read_back_awkward :
    isPlainName "stock" = true ∧ (∀ name ∈ awkward, Quotable name) ∧ awkward ≠ [] ∧
      (∃ text, (Statement.insert "stock" awkward (places 3)).render Formatter.memory = .ok text ∧
        readStatement text = .ok (.insert "stock" awkward (places 3))) ∧
      ∃ text, (Statement.select (listing "stock" awkward)).render Formatter.memory = .ok text ∧
        readStatement text ≠ .ok (.select (listing "stock" awkward)) := by
  have plain : isPlainName "stock" = true := by decide
  have quotable : ∀ name ∈ awkward, Quotable name := by
    unfold Quotable
    decide
  have filled : awkward ≠ [] := by decide
  obtain ⟨⟨text, rendered, back⟩, reads⟩ := column_lists_read_back plain quotable
  obtain ⟨shown, rendered', back'⟩ := reads filled
  exact ⟨plain, quotable, filled, ⟨text, rendered, back.mpr (by decide)⟩, shown, rendered',
    fun e => back'.mp e (severed_of_word ["size, \"net\"", "[a] (b"])⟩

/-- **A parenthesis ends a list of columns inside a name, and so does `FROM`.** -/
theorem delimiter_ends_column_list :
    isPlainName "stock" = true ∧ Quotable "price (EUR)" ∧ Quotable "valid from now" ∧
      (∃ text, (Statement.insert "stock" ["price (EUR)"] (places 1)).render Formatter.memory =
          .ok text ∧
        text = "INSERT INTO \"stock\" (\"price (EUR)\") VALUES (?)" ∧
        readStatement text ≠ .ok (.insert "stock" ["price (EUR)"] (places 1))) ∧
      ∃ text, (Statement.select (listing "stock" ["valid from now"])).render Formatter.memory =
          .ok text ∧
        text = "SELECT \"valid from now\" FROM \"stock\"" ∧
        readStatement text ≠ .ok (.select (listing "stock" ["valid from now"])) := by
  have plain : isPlainName "stock" = true := by decide
  have paren : Quotable "price (EUR)" := by
    unfold Quotable
    decide
  have word : Quotable "valid from now" := by
    unfold Quotable
    decide
  obtain ⟨text, rendered, back⟩ := readStatement_insert_iff (quotable_of_plain plain)
    (List.forall_mem_singleton.mpr paren) (allWritten_places 1)
  obtain ⟨shown, rendered', back'⟩ := readStatement_listing_iff plain
    (List.cons_ne_nil "valid from now" []) (List.forall_mem_singleton.mpr word)
  refine ⟨plain, paren, word, ⟨text, rendered, ?_, fun e => ?_⟩, shown, rendered', ?_, fun e => ?_⟩
  · exact Except.ok.inj (rendered.symm.trans (by rfl))
  · exact absurd (back.mp e _ List.mem_cons_self) (by decide)
  · exact Except.ok.inj (rendered'.symm.trans (by rfl))
  · exact back'.mp e (severed_of_word [])

end Polystore.Sql
