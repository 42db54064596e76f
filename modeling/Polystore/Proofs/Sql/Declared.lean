import Mathlib.Data.List.TakeWhile
import Polystore.Proofs.Sql.Heads

/-!
# Declarations of columns that are read back

A column is declared by its name, its type with the length, flags, and a default at the end. The
reader finds the type by its letters, looks for the default among what is left, and searches the
rest for the words of the flags. The flags hold no letter that a default begins with, so the default
is found where it was written, and its literal, which may hold any of these words, is cut out before
the flags are looked for.
-/

namespace Polystore

/-- The declaration tells the column apart from all others: a primary column does not say again that
it holds no `null`, nor that it is unique, and the default is a plain value. -/
structure Column.Declarable (c : Column) : Prop where
  primary : c.primary = true → c.nullable = false ∧ c.unique = false
  default : ∀ v ∈ c.default, v.isPlain = true

namespace Sql

/-! ## Items of a declaration -/

theorem finished_of_ends {cs : List Char} (first : cs.head?.any (!Text.isBlank ·) = true)
    (last : cs.getLast?.any (fun c => !Text.isBlank c && c != ';') = true) : Finished cs := by
  obtain ⟨c, hc, front⟩ := (Option.any_eq_true _ _).mp first
  obtain ⟨d, hd, back⟩ := (Option.any_eq_true _ _).mp last
  obtain ⟨visible, unended⟩ := Bool.and_eq_true_iff.mp back
  obtain ⟨tail, rfl⟩ := List.head?_eq_some_iff.mp hc
  obtain ⟨start, e⟩ := List.getLast?_eq_some_iff.mp hd
  refine ⟨⟨⟨c, tail, rfl, by simpa using front⟩, ⟨start, d, e, by simpa using visible⟩⟩, ?_⟩
  rw [hd]
  intro same
  rw [Option.some.inj same] at unended
  exact absurd unended (by decide)

/-- The text stands in a list as one piece, and may end a statement. -/
structure Item (cs : List Char) : Prop where
  uncut : Uncut cs
  finished : Finished cs

namespace Item

variable {cs ds : List Char}

theorem tight (h : Item cs) : Text.Tight cs := h.finished.tight

theorem blank (hc : Item cs) (hd : Item ds) : Item (cs ++ ' ' :: ds) where
  uncut := hc.uncut.blank hd.uncut
  finished := by
    refine ⟨hc.tight.append hd.tight [' '], ?_⟩
    rw [← List.singleton_append, ← List.append_assoc, getLast?_append_of_tight hd.tight]
    exact hd.finished.openEnded

theorem name {name : String} (h : Quotable name) :
    Item (Formatter.memory.quoteName name).toList :=
  ⟨uncut_name h, (phrase_name h).finished⟩

theorem words (inert : cs.all isInert = true) (first : cs.head?.any (!Text.isBlank ·) = true)
    (last : cs.getLast?.any (fun c => !Text.isBlank c && c != ';') = true) : Item cs :=
  ⟨uncut_inert inert, finished_of_ends first last⟩

end Item

/-! ## Types -/

/-- The text of a length. -/
def lengthText : Option UInt32 → List Char
  | none => []
  | some n => '(' :: (Text.natDigits n.toNat ++ [')'])

theorem toList_plainType (c : Column) :
    (Formatter.plainType c).toList = c.type.name.toList ++ lengthText c.length := by
  rw [Formatter.plainType]
  cases c.length with
  | none => exact (List.append_nil _).symm
  | some n =>
    simp only [String.toList_append, List.append_assoc, lengthText, Formatter.natText,
      String.toList_ofList]
    rfl

/-- What the readers make of the name of a type. -/
theorem typeName_facts (t : ColumnType) :
    t.name.toList.all isTypeLetter = true ∧ t.name.toList ≠ [] ∧
      t.name.toList.all isInert = true ∧
      ColumnType.ofDeclaredName (String.ofList t.name.toList) = t := by
  cases t <;> decide +kernel

theorem digit_facts {n : Nat} {c : Char} (h : c ∈ Text.natDigits n) :
    Text.isDecimalDigit c = true ∧ isInert c = true := by
  have digits : "0123456789".toList.all (fun d => Text.isDecimalDigit d && isInert d) = true := by
    decide
  exact Bool.and_eq_true_iff.mp
    (List.all_eq_true.mp digits c (Text.mem_of_isDigit (Text.isDigit_of_mem_natDigits h)))

theorem item_type (c : Column) : Item (Formatter.plainType c).toList := by
  obtain ⟨-, filled, inert, -⟩ := typeName_facts c.type
  rw [toList_plainType]
  cases c.length with
  | none =>
    rw [lengthText, List.append_nil]
    cases c.type <;> exact .words (by decide) (by decide) (by decide)
  | some n =>
    have digits : (Text.natDigits n.toNat).all isInert = true :=
      List.all_eq_true.mpr fun d hd => (digit_facts hd).2
    refine ⟨uncut_parentheses inert digits, ?_⟩
    obtain ⟨first, rest, e⟩ := List.exists_cons_of_ne_nil filled
    have visible : Text.isBlank first = false := by
      revert e
      cases c.type <;> rintro ⟨⟩ <;> decide
    rw [e, lengthText, ← List.cons_append, ← List.append_assoc]
    exact finished_paren.behind visible _

theorem takeAnyDigits_natDigits (n : Nat) {c : Char} (rest : List Char)
    (apart : Text.isDecimalDigit c = false) :
    takeAnyDigits (Text.natDigits n ++ c :: rest) = some (Text.natDigits n, c :: rest) := by
  have digits : ∀ d ∈ Text.natDigits n, Text.isDecimalDigit d = true :=
    fun d hd => (digit_facts hd).1
  have filled : (Text.natDigits n).isEmpty = false :=
    List.isEmpty_eq_false_iff.mpr Nat.toDigits_ne_nil
  have stops : ¬Text.isDecimalDigit c = true := Bool.eq_false_iff.mp apart
  rw [takeAnyDigits, List.takeWhile_append_of_pos digits, List.dropWhile_append_of_pos digits,
    List.takeWhile_cons_of_neg stops, List.dropWhile_cons_of_neg stops, List.append_nil]
  exact if_neg (Bool.eq_false_iff.mp filled)

/-- The digits of a length are taken as far as its closing parenthesis. -/
theorem takeLength_text (n : Nat) (rest : List Char) :
    takeLength ('(' :: (Text.natDigits n ++ ')' :: rest)) = some (Text.natDigits n, rest) := by
  have solid : Text.Tight (Text.natDigits n) :=
    Text.tight_of_forall Nat.toDigits_ne_nil
      (Text.solid_of_digits fun _ h => Text.isDigit_of_mem_natDigits h)
  have opening : afterMark '(' ('(' :: (Text.natDigits n ++ ')' :: rest)) =
      some (Text.natDigits n ++ ')' :: rest) := rfl
  have single : skipSecondLength (')' :: rest) = ')' :: rest := rfl
  have closing : afterMark ')' (')' :: rest) = some rest := rfl
  rw [takeLength, opening]
  simp only [Option.bind_eq_bind, Option.bind_some, solid.trimStart_append,
    takeAnyDigits_natDigits n rest (by decide : Text.isDecimalDigit ')' = false), single, closing]

/-- What may stand behind a type: no letter, no word and no length that belongs to it. -/
structure EndsType (behind : List Char) : Prop where
  letterless : behind.takeWhile isTypeLetter = []
  wordless : afterTypeWord behind = none
  lengthless : takeLength behind = none

/-- A type is taken off the front of its declaration. The blanks behind it go along unless a length
stands in front of them. -/
theorem takeType_text (c : Column) {behind : List Char} (h : EndsType behind) :
    ∃ modifiers, (modifiers = behind ∨ modifiers = Text.trimStart behind) ∧
      takeType ((Formatter.plainType c).toList ++ behind) =
        some (c.type.name.toList, c.length, modifiers) := by
  obtain ⟨all, filled, -⟩ := typeName_facts c.type
  have letters := List.all_eq_true.mp all
  have nonempty : c.type.name.toList.isEmpty = false := List.isEmpty_eq_false_iff.mpr filled
  have cut (rest : List Char) (apart : rest.takeWhile isTypeLetter = []) :
      (c.type.name.toList ++ rest).takeWhile isTypeLetter = c.type.name.toList ∧
        (c.type.name.toList ++ rest).dropWhile isTypeLetter = rest := by
    rw [List.takeWhile_append_of_pos letters, apart, List.append_nil,
      List.dropWhile_append_of_pos letters]
    refine ⟨rfl, ?_⟩
    have whole := List.takeWhile_append_dropWhile (p := isTypeLetter) (l := rest)
    rw [apart] at whole
    exact whole
  have front (rest : List Char) :
      (c.type.name.toList ++ rest).take ((c.type.name.toList ++ rest).length - rest.length) =
        c.type.name.toList := by
    rw [List.length_append, Nat.add_sub_cancel, List.take_left]
  rw [toList_plainType, List.append_assoc]
  cases c.length with
  | none =>
    obtain ⟨taken, left⟩ := cut behind h.letterless
    refine ⟨_, .inr rfl, ?_⟩
    rw [lengthText, List.nil_append]
    simp only [takeType, taken, left, nonempty, h.wordless, Option.getD_none, front, h.lengthless]
    rfl
  | some n =>
    have text : lengthText (some n) ++ behind =
        '(' :: (Text.natDigits n.toNat ++ ')' :: behind) := by
      rw [lengthText, List.cons_append, List.append_assoc, List.singleton_append]
    obtain ⟨taken, left⟩ := cut (lengthText (some n) ++ behind) (by rw [text]; rfl)
    have wordless : afterTypeWord (lengthText (some n) ++ behind) = none := by rw [text]; rfl
    have length : takeLength (lengthText (some n) ++ behind) =
        some (Text.natDigits n.toNat, behind) := by rw [text, takeLength_text]
    refine ⟨behind, .inl rfl, ?_⟩
    simp only [takeType, taken, left, nonempty, wordless, Option.getD_none, front, length,
      Text.readNatBelow_natDigits n.toNat_lt, Option.map_some, UInt32.ofNat_toNat]
    rfl

/-! ## Defaults -/

theorem takeSingleQuoted_plain {c : Char} (quote : c ≠ '\x27') (backslash : c ≠ '\\')
    (seen : List Char) (fallback : Option (List Char × List Char)) {rest : List Char}
    (more : rest ≠ []) :
    takeSingleQuoted seen fallback (c :: rest) = takeSingleQuoted (c :: seen) fallback rest := by
  obtain ⟨d, tail, rfl⟩ := List.exists_cons_of_ne_nil more
  rw [takeSingleQuoted, if_neg (by simpa using backslash), if_neg (by simpa using quote)]

/-- A quotation at the end of a text is taken as a whole. -/
theorem takeSingleQuoted_content {cs ms : List Char} (h : Content '\x27' cs ms) (seen : List Char)
    (fallback : Option (List Char × List Char)) :
    takeSingleQuoted seen fallback (cs ++ ['\x27']) =
      some (seen.reverse ++ (cs ++ ['\x27']), []) := by
  induction h generalizing seen fallback with
  | nil => simp [takeSingleQuoted]
  | plain quote backslash _ ih =>
    rw [List.cons_append, takeSingleQuoted_plain quote backslash _ _ (by simp), ih]
    simp
  | doubled _ ih =>
    rw [List.cons_append, List.cons_append, takeSingleQuoted, if_neg (by decide),
      if_pos (beq_self_eq_true _), if_pos (beq_self_eq_true _), ih]
    simp
  | escaped _ ih =>
    rw [List.cons_append, List.cons_append, takeSingleQuoted, if_pos (beq_self_eq_true _), ih]
    simp

/-- The text is a literal of the value that is taken as a whole where a default is looked for. -/
structure Literal (cs : List Char) (v : Value) : Prop where
  item : Item cs
  parsed : parseValue cs = some v
  taken : takeDefaultLiteral cs = some (cs, [])

/-- Whether a character stands in literals without quotation marks. -/
def isBare (c : Char) : Bool := c != '\x27' && c != '\x22' && !Text.isBlank c

/-- A literal without quotation marks ends at the end of the text. -/
theorem takeDefaultLiteral_bare {c : Char} {cs : List Char} (bare : (c :: cs).all isBare = true) :
    takeDefaultLiteral (c :: cs) = some (c :: cs, []) := by
  rw [List.all_eq_true] at bare
  have facts : ∀ d ∈ c :: cs, d ≠ '\x27' ∧ d ≠ '\x22' ∧ (!Text.isBlank d) = true := by
    intro d hd
    simpa [isBare, and_assoc] using bare d hd
  obtain ⟨single, double, _⟩ := facts c List.mem_cons_self
  have solid := fun d hd => (facts d hd).2.2
  have whole : (c :: cs).takeWhile (!Text.isBlank ·) = c :: cs :=
    List.takeWhile_eq_self_iff.mpr solid
  have nothing : (c :: cs).dropWhile (!Text.isBlank ·) = [] := List.dropWhile_eq_nil_iff.mpr solid
  rw [takeDefaultLiteral]
  simp only [whole, nothing]
  rw [if_neg (by simpa using single), if_neg (by simpa using double)]
  rfl

theorem literal_stands {a b : Nat} {cs : List Char} {v : Value}
    (stands : Stands a cs (.literal v) b) (bare : cs.all isBare = true) : Literal cs v := by
  obtain ⟨t, phrase, _⟩ := stands.token
  refine ⟨⟨stands.uncut, phrase.finished⟩, stands.parsed, ?_⟩
  obtain ⟨c, rest, rfl⟩ := List.exists_cons_of_ne_nil phrase.tight.ne_nil
  exact takeDefaultLiteral_bare bare

theorem literal_int (n : Int64) : Literal (Value.intText n).toList (.int n) := by
  refine literal_stands (stands_int 0 n) (List.all_eq_true.mpr fun d hd => ?_)
  have bare : "-0123456789".toList.all isBare = true := by decide
  rw [Value.intText, String.toList_ofList] at hd
  exact List.all_eq_true.mp bare d (mem_of_mem_intDigits hd)

theorem literal_text (s : String) : Literal (Formatter.memory.string s).toList (.text s) := by
  have stands := stands_text 0 s
  obtain ⟨t, phrase, _⟩ := stands.token
  refine ⟨⟨stands.uncut, phrase.finished⟩, stands.parsed, ?_⟩
  have marks : (Formatter.memory.string s).toList =
      '\x27' :: ((Formatter.memory.escape s).toList ++ ['\x27']) := by
    rw [Formatter.string, String.toList_append, String.toList_append]
    rfl
  rw [marks, takeDefaultLiteral, if_pos (beq_self_eq_true _),
    takeSingleQuoted_content (content_escape s), Option.some_or, List.reverse_singleton,
    List.singleton_append]

/-- A plain value is written as its literal. -/
theorem exists_literal {v : Value} (plain : v.isPlain = true) :
    ∃ s, Formatter.memory.defaultValue v = .ok s ∧ Literal s.toList v := by
  cases v with
  | null => exact ⟨"NULL", rfl, literal_stands (stands_null 0) (by decide)⟩
  | bool x =>
    refine ⟨Formatter.memory.boolean x, rfl, literal_stands (stands_bool 0 x) ?_⟩
    cases x <;> decide
  | int n => exact ⟨Value.intText n, rfl, literal_int n⟩
  | text s => exact ⟨Formatter.memory.string s, rfl, literal_text s⟩
  | float x => exact absurd plain Bool.false_ne_true
  | date t => exact absurd plain Bool.false_ne_true
  | json j => exact absurd plain Bool.false_ne_true
  | list items => exact absurd plain Bool.false_ne_true

/-- The default as it is written behind a declaration. -/
inductive Defaulted : Option Value → List Char → Prop
  | absent : Defaulted none []
  | present {v : Value} {cs : List Char} : Literal cs v →
    Defaulted (some v) (' ' :: ("DEFAULT".toList ++ ' ' :: cs))

/-! ## Flags -/

/-- The flags of a column as they are written behind its type. -/
def flagText (primary counting unique filled : Bool) : List Char :=
  (if primary then " PRIMARY KEY".toList else []) ++
    ((if counting then " AUTO_INCREMENT".toList else []) ++
      ((if unique then " UNIQUE".toList else []) ++ (if filled then " NOT NULL".toList else [])))

/-- The words of exactly these flags stand in the text. -/
structure Flagged (modifiers : List Char) (primary counting unique filled : Bool) : Prop where
  primary : hasPhrase ["primary", "key"] modifiers = primary
  counting : (hasPhrase ["auto_increment"] modifiers || hasPhrase ["autoincrement"] modifiers) =
    counting
  unique : hasPhrase ["unique"] modifiers = unique
  filled : hasPhrase ["not", "null"] modifiers = filled

instance (modifiers : List Char) (p c u f : Bool) : Decidable (Flagged modifiers p c u f) :=
  decidable_of_iff
    (hasPhrase ["primary", "key"] modifiers = p ∧
      (hasPhrase ["auto_increment"] modifiers || hasPhrase ["autoincrement"] modifiers) = c ∧
      hasPhrase ["unique"] modifiers = u ∧ hasPhrase ["not", "null"] modifiers = f)
    ⟨fun ⟨a, b, c, d⟩ => ⟨a, b, c, d⟩, fun ⟨a, b, c, d⟩ => ⟨a, b, c, d⟩⟩

/-- No default begins in the text. -/
def isDefaultless (cs : List Char) : Bool := cs.all (!Text.sameFold 'd' ·)

/-- In the flags, with or without the blanks around them, no default begins, and the words found in
them are those of the flags. -/
theorem flagText_facts : ∀ p c u f : Bool,
    (∀ cs ∈ [flagText p c u f, Text.trimStart (flagText p c u f)],
      isDefaultless cs = true ∧ Flagged cs p c u f) ∧
    ∀ cs ∈ [flagText p c u f ++ [' '], Text.trimStart (flagText p c u f ++ [' '])],
      isDefaultless cs = true ∧ Flagged (cs ++ [' ']) p c u f ∧
        cs.getLast?.all (!Text.isWord ·) = true := by
  -- sixteen sets of flags, each a closed text
  decide +kernel

/-- No default is found in a text in which none begins, and behind it the search goes on. -/
theorem findDefaultFrom_defaultless {cs : List Char} (h : isDefaultless cs = true) (apart : Bool)
    (seen rest : List Char) :
    findDefaultFrom apart seen (cs ++ rest) =
      findDefaultFrom ((cs.getLast?.map (!Text.isWord ·)).getD apart) (cs.reverse ++ seen)
        rest := by
  induction cs generalizing apart seen with
  | nil => rfl
  | cons c cs ih =>
    obtain ⟨other, others⟩ := Bool.and_eq_true_iff.mp h
    have apartHere : afterPhrase ["default"] (c :: (cs ++ rest)) = none := by
      have differs : Text.sameFold 'd' c = false := by simpa using other
      show (if Text.sameFold 'd' c = true then _ else none).bind _ = _
      rw [differs]
      rfl
    rw [List.cons_append, findDefaultFrom, apartHere, Option.bind_none, ite_self]
    show findDefaultFrom _ (c :: seen) (cs ++ rest) = _
    rw [ih others, List.reverse_cons, List.append_assoc, List.singleton_append]
    congr 1
    cases cs with
    | nil => rfl
    | cons d cs => rw [List.getLast?_cons_cons]; rfl

theorem takeDefault_absent {cs : List Char} (h : isDefaultless cs = true) :
    takeDefault cs = none := by
  have searched := findDefaultFrom_defaultless h true [] []
  rw [List.append_nil] at searched
  rw [takeDefault, searched]
  rfl

theorem findDefaultFrom_here {c : Char} {cs literal tail : List Char} (seen : List Char)
    (h : (afterPhrase ["default"] (c :: cs)).bind takeDefaultLiteral = some (literal, tail)) :
    findDefaultFrom true seen (c :: cs) = some (seen.reverse, literal, tail) := by
  rw [findDefaultFrom, if_pos rfl, h]

/-- A default is found behind a text in which none begins. -/
theorem takeDefault_present {cs literal : List Char} {v : Value} (h : isDefaultless cs = true)
    (apart : cs.getLast?.all (!Text.isWord ·) = true) (written : Literal literal v) :
    takeDefault (cs ++ ("DEFAULT".toList ++ ' ' :: literal)) = some (literal, cs ++ [' ']) := by
  have begins : (cs.getLast?.map (!Text.isWord ·)).getD true = true := by
    cases e : cs.getLast? with
    | none => rfl
    | some c =>
      rw [e] at apart
      exact apart
  have keyword : "DEFAULT".toList ++ ' ' :: literal = 'D' :: ("EFAULT".toList ++ ' ' :: literal) :=
    rfl
  have behind : afterPhrase ["default"] ('D' :: ("EFAULT".toList ++ ' ' :: literal)) =
      some (Text.trimStart literal) := rfl
  have found : (afterPhrase ["default"] ('D' :: ("EFAULT".toList ++ ' ' :: literal))).bind
      takeDefaultLiteral = some (literal, []) := by
    rw [behind, written.item.tight.trimStart_eq, Option.bind_some, written.taken]
  rw [takeDefault, findDefaultFrom_defaultless h, begins, keyword, findDefaultFrom_here _ found,
    List.append_nil, List.reverse_reverse]
  rfl

theorem endsType_flagText (p c u f : Bool) {default : Option Value} {clause : List Char}
    (h : Defaulted default clause) : EndsType (flagText p c u f ++ clause) := by
  cases h with
  | absent => cases p <;> cases c <;> cases u <;> cases f <;> exact ⟨rfl, rfl, rfl⟩
  | present => cases p <;> cases c <;> cases u <;> cases f <;> exact ⟨rfl, rfl, rfl⟩

theorem trimStart_flagText (p c u f : Bool) (rest : List Char) :
    Text.trimStart (flagText p c u f ++ ' ' :: ("DEFAULT".toList ++ rest)) =
      Text.trimStart (flagText p c u f ++ [' ']) ++ ("DEFAULT".toList ++ rest) := by
  cases p <;> cases c <;> cases u <;> cases f <;> rfl

/-- The flags are nothing, or plain words behind a blank. -/
theorem flagText_shape : ∀ p c u f : Bool, flagText p c u f = [] ∨
    (flagText p c u f = ' ' :: (flagText p c u f).tail ∧
      (flagText p c u f).tail.all isInert = true ∧
      (flagText p c u f).tail.head?.any (!Text.isBlank ·) = true ∧
      (flagText p c u f).tail.getLast?.any (fun d => !Text.isBlank d && d != ';') = true) := by
  decide +kernel

/-! ## Columns -/

/-- The flags of a column as they are written behind its type. -/
def columnFlags (c : Column) : List Char :=
  flagText c.primary c.autoIncrement (c.unique && !c.primary) (!c.nullable && !c.primary)

/-- The declaration of a column behind its name. -/
def specText (c : Column) (clause : List Char) : List Char :=
  (Formatter.plainType c).toList ++ (columnFlags c ++ clause)

/-- The words of its flags make a column of its type and default again. -/
theorem withModifiers_eq {c : Column} (h : c.Declarable) {modifiers : List Char}
    (flagged : Flagged modifiers c.primary c.autoIncrement (c.unique && !c.primary)
      (!c.nullable && !c.primary)) :
    withModifiers { Column.ofType c.type with length := c.length, default := c.default } modifiers =
      c := by
  obtain ⟨type, length, nullable, primary, unique, default, counting⟩ := c
  have normal := h.primary
  simp only [withModifiers, flagged.primary, flagged.unique, flagged.filled, flagged.counting]
  cases primary with
  | true =>
    obtain ⟨rfl, rfl⟩ := normal rfl
    cases counting <;> rfl
  | false => cases counting <;> cases unique <;> cases nullable <;> rfl

/-- **The declaration of a column reads back.** -/
theorem parseColumn_text (statement : String) {c : Column} (h : c.Declarable) {clause : List Char}
    (written : Defaulted c.default clause) (tight : Text.Tight (specText c clause)) :
    parseColumn statement (specText c clause) = .ok c := by
  have ends : EndsType (columnFlags c ++ clause) := endsType_flagText _ _ _ _ written
  obtain ⟨modifiers, forms, taken⟩ := takeType_text c ends
  obtain ⟨-, -, -, type⟩ := typeName_facts c.type
  obtain ⟨plain, fronts⟩ := flagText_facts c.primary c.autoIncrement (c.unique && !c.primary)
    (!c.nullable && !c.primary)
  rw [← columnFlags] at plain fronts
  have made := @withModifiers_eq c h
  -- the blank in front of the flags goes with a type without a length and stays behind one with it
  rw [parseColumn, tight.trim_eq, specText, taken]
  simp only [type]
  generalize c.default = default at written made
  cases written with
  | absent =>
    rw [List.append_nil] at forms
    obtain ⟨defaultless, flagged⟩ := plain modifiers (by simpa using forms)
    rw [takeDefault_absent defaultless]
    exact congrArg Except.ok (made flagged)
  | @present v literal written =>
    rw [columnFlags, trimStart_flagText, ← columnFlags] at forms
    obtain ⟨front, found, rfl⟩ : ∃ front ∈ [columnFlags c ++ [' '],
        Text.trimStart (columnFlags c ++ [' '])],
        modifiers = front ++ ("DEFAULT".toList ++ ' ' :: literal) := by
      rcases forms with e | e
      · exact ⟨_, List.mem_cons_self, by rw [e, List.append_assoc]; rfl⟩
      · exact ⟨_, List.mem_cons_of_mem _ List.mem_cons_self, e⟩
    obtain ⟨defaultless, flagged, apart⟩ := fronts front found
    rw [takeDefault_present defaultless apart written]
    simp only [written.parsed]
    exact congrArg Except.ok (made flagged)

theorem item_spec (c : Column) {default : Option Value} {clause : List Char}
    (written : Defaulted default clause) : Item (specText c clause) := by
  have flagged : Item ((Formatter.plainType c).toList ++ columnFlags c) := by
    rcases flagText_shape c.primary c.autoIncrement (c.unique && !c.primary)
      (!c.nullable && !c.primary) with e | ⟨e, inert, first, last⟩
    · rw [columnFlags, e, List.append_nil]
      exact item_type c
    · rw [columnFlags, e]
      exact (item_type c).blank (.words inert first last)
  rw [specText, ← List.append_assoc]
  cases written with
  | absent =>
    rw [List.append_nil]
    exact flagged
  | present written =>
    have keyword : Item "DEFAULT".toList := .words (by decide) (by decide) (by decide)
    exact flagged.blank (keyword.blank written.item)

/-- The declaration of a column in front of its default. -/
def headText (d : ColumnDef) : String :=
  Formatter.memory.quoteName d.name ++ " " ++ Formatter.plainType d.column ++
    (if d.column.primary then " PRIMARY KEY" else "") ++
    (if d.column.autoIncrement then " AUTO_INCREMENT" else "") ++
    (if d.column.unique && !d.column.primary then " UNIQUE" else "") ++
    (if !d.column.nullable && !d.column.primary then " NOT NULL" else "")

theorem toList_headText (d : ColumnDef) :
    (headText d).toList = (Formatter.memory.quoteName d.name).toList ++
      ' ' :: ((Formatter.plainType d.column).toList ++ columnFlags d.column) := by
  have blank : " ".toList = [' '] := rfl
  simp only [headText, String.toList_append, toList_flag, blank, columnFlags, flagText,
    List.append_assoc, List.cons_append, List.nil_append]

/-- The declaration of a column is written. -/
theorem exists_columnDef (d : ColumnDef) (h : d.column.Declarable) :
    ∃ s clause, Formatter.memory.columnDef d = .ok s ∧ Defaulted d.column.default clause ∧
      s.toList =
        (Formatter.memory.quoteName d.name).toList ++ ' ' :: specText d.column clause := by
  have plain := h.default
  cases e : d.column.default with
  | none =>
    refine ⟨headText d, [], ?_, .absent, ?_⟩
    · rw [Formatter.columnDef, e]
      rfl
    · rw [toList_headText, specText, List.append_nil]
  | some v =>
    obtain ⟨text, rendered, literal⟩ := exists_literal (plain v e)
    refine ⟨headText d ++ " DEFAULT " ++ text, _, ?_, .present literal, ?_⟩
    · rw [Formatter.columnDef, e]
      show (Formatter.memory.defaultValue v >>= _) = _
      rw [rendered]
      rfl
    · have keyword : " DEFAULT ".toList = ' ' :: ("DEFAULT".toList ++ [' ']) := rfl
      simp only [String.toList_append, toList_headText, keyword, specText, List.append_assoc,
        List.cons_append, List.nil_append]

/-- A column is written as one piece of a list, and reads back with its name. -/
theorem exists_declaration (d : ColumnDef) (quotable : Quotable d.name) (h : d.column.Declarable) :
    ∃ s, Formatter.memory.columnDef d = .ok s ∧ Item s.toList ∧ Marked s.toList ∧
      ∀ statement, parseColumnDef statement s.toList = .ok d := by
  obtain ⟨s, clause, rendered, written, text⟩ := exists_columnDef d h
  have spec := item_spec d.column written
  have item : Item s.toList := by
    rw [text]
    exact (Item.name quotable).blank spec
  refine ⟨s, rendered, item, ?_, fun statement => ?_⟩
  · rw [text]
    exact marked_name d.name _
  · have token := takeIdentifier_name d.name (' ' :: specText d.column clause) (by simp)
    have behind : afterBlanks (' ' :: specText d.column clause) =
        some (specText d.column clause) := congrArg some spec.tight.trimStart_eq
    have filled : (specText d.column clause).isEmpty = false :=
      List.isEmpty_eq_false_iff.mpr spec.tight.ne_nil
    have named : takeNamed s.toList = some (d.name, specText d.column clause) := by
      rw [takeNamed, text, token]
      simp only [Option.bind_eq_bind, Option.bind_some, behind, filled, nameOf_name quotable]
      rfl
    rw [parseColumnDef, item.tight.trim_eq, named]
    simp only [parseColumn_text statement h written spec.tight]
    rfl

end Sql

end Polystore
