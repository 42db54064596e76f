import Polystore.Proofs.Sql.NameLists
import Polystore.Proofs.Sql.Reads

/-!
# Lists of names that break off

A reader that looks for a character or a word anywhere in a text may find it inside a quoted name.
What is in front of it is then a list that breaks off inside the name. Such a list is never read,
since its last quotation stays open.
-/

namespace Polystore.Sql

/-! ## The places of a list -/

/-- The names in front of one, with the separators behind them. -/
def leading (names : List String) : List Char :=
  names.flatMap fun name => (Formatter.memory.quoteName name).toList ++ ", ".toList

/-- The names behind one, with the separators in front of them. -/
def trailing (names : List String) : List Char :=
  names.flatMap fun name => ", ".toList ++ (Formatter.memory.quoteName name).toList

theorem toList_names (name : String) (names : List String) :
    (Formatter.memory.names (name :: names)).toList =
      (Formatter.memory.quoteName name).toList ++ trailing names := by
  induction names generalizing name with
  | nil => exact (List.append_nil _).symm
  | cons next names ih =>
    rw [toList_names_cons, ih]
    rfl

/-- A list that breaks off inside a name, whose quotation stays open. -/
def brokenOff (before : List String) (front : List Char) : List Char :=
  leading before ++ '\x22' :: doubledMarks front

theorem doubledMarks_split {c : Char} (other : c ≠ '\x22') {cs front behind : List Char}
    (text : doubledMarks cs = front ++ c :: behind) :
    ∃ p m, cs = p ++ c :: m ∧ front = doubledMarks p ∧ behind = doubledMarks m := by
  induction cs generalizing front with
  | nil => exact absurd (congrArg List.length text) (by simp [doubledMarks])
  | cons d cs ih =>
    by_cases mark : d = '\x22'
    · subst mark
      rw [doubledMarks_mark] at text
      rcases front with _ | ⟨a, _ | ⟨b, front⟩⟩
      · exact absurd (List.cons.inj text).1.symm other
      · exact absurd (List.cons.inj (List.cons.inj text).2).1.symm other
      · obtain ⟨ha, tail⟩ := List.cons.inj text
        obtain ⟨hb, behind'⟩ := List.cons.inj tail
        obtain ⟨p, m, rfl, rfl, rfl⟩ := ih behind'
        rw [← ha, ← hb]
        exact ⟨'\x22' :: p, m, rfl, rfl, rfl⟩
    · rw [doubledMarks_cons mark] at text
      cases front with
      | nil =>
        obtain ⟨rfl, rfl⟩ := List.cons.inj text
        exact ⟨[], cs, rfl, rfl, rfl⟩
      | cons a front =>
        obtain ⟨rfl, tail⟩ := List.cons.inj text
        obtain ⟨p, m, rfl, rfl, rfl⟩ := ih tail
        exact ⟨d :: p, m, rfl, (doubledMarks_cons mark p).symm, rfl⟩

/-- A character other than a mark stands inside a written name, or behind it. -/
theorem marks_split {c : Char} (other : c ≠ '\x22') {cs rest front behind : List Char}
    (text : doubledMarks cs ++ '\x22' :: rest = front ++ c :: behind) :
    (∃ p m, cs = p ++ c :: m ∧ front = doubledMarks p ∧
        behind = doubledMarks m ++ '\x22' :: rest) ∨
      ∃ more, front = doubledMarks cs ++ '\x22' :: more ∧ rest = more ++ c :: behind := by
  rcases List.append_eq_append_iff.mp text with ⟨more, longer, tail⟩ | ⟨more, inside, tail⟩
  · cases more with
    | nil => exact absurd (List.cons.inj tail).1.symm other
    | cons a more =>
      obtain ⟨rfl, rest'⟩ := List.cons.inj tail
      exact .inr ⟨more, longer, rest'⟩
  · cases more with
    | nil => exact absurd (List.cons.inj tail).1 other
    | cons a more =>
      obtain ⟨rfl, behind'⟩ := List.cons.inj tail
      obtain ⟨p, m, shape, rfl, rfl⟩ := doubledMarks_split other inside
      exact .inl ⟨p, m, shape, rfl, behind'⟩

theorem trailing_cons (name : String) (names : List String) :
    trailing (name :: names) =
      ',' :: ' ' :: (Formatter.memory.names (name :: names)).toList := by
  rw [toList_names]
  rfl

/-- A character behind a name that is no comma and no blank behind a comma stands in the names that
follow. -/
theorem trailing_split {c : Char} (notComma : c ≠ ',') {names : List String}
    {front behind : List Char} (apart : c = ' ' → behind.head? ≠ some '\x22')
    (text : trailing names = front ++ c :: behind) :
    ∃ front', front = ',' :: ' ' :: front' ∧
      (Formatter.memory.names names).toList = front' ++ c :: behind := by
  cases names with
  | nil =>
    exact absurd text.symm (List.append_ne_nil_of_right_ne_nil front (List.cons_ne_nil c behind))
  | cons name names =>
    rw [trailing_cons] at text
    rcases front with _ | ⟨a, _ | ⟨b, front⟩⟩
    · exact absurd (List.cons.inj text).1.symm notComma
    · obtain ⟨rfl, names'⟩ := List.cons.inj (List.cons.inj text).2
      obtain ⟨rest, marked⟩ := marked_names name names []
      rw [List.append_nil, names'] at marked
      rw [marked] at apart
      exact absurd rfl (apart rfl)
    · obtain ⟨comma, tail⟩ := List.cons.inj text
      obtain ⟨blank, names'⟩ := List.cons.inj tail
      rw [← comma, ← blank]
      exact ⟨front, rfl, names'⟩

theorem brokenOff_cons (name : String) (before : List String) (front : List Char) :
    brokenOff (name :: before) front =
      (Formatter.memory.quoteName name).toList ++ ',' :: ' ' :: brokenOff before front := by
  simp [brokenOff, leading]

/-- A character of a written list that is no mark, no comma and no blank behind a comma stands
inside a name: what is in front of it breaks off there. -/
theorem names_split {c : Char} (notMark : c ≠ '\x22') (notComma : c ≠ ',') {names : List String}
    {front behind : List Char} (apart : c = ' ' → behind.head? ≠ some '\x22')
    (text : (Formatter.memory.names names).toList = front ++ c :: behind) :
    ∃ before name later p m, names = before ++ name :: later ∧ name.toList = p ++ c :: m ∧
      front = brokenOff before p ∧ behind = doubledMarks m ++ '\x22' :: trailing later := by
  induction names generalizing front with
  | nil =>
    exact absurd text.symm (List.append_ne_nil_of_right_ne_nil front (List.cons_ne_nil c behind))
  | cons name names ih =>
    rw [toList_names, toList_quoteName, List.append_assoc, List.cons_append,
      List.singleton_append] at text
    cases front with
    | nil => exact absurd (List.cons.inj text).1.symm notMark
    | cons a front =>
      obtain ⟨rfl, quoted⟩ := List.cons.inj text
      rcases marks_split notMark quoted with ⟨p, m, shape, rfl, rfl⟩ | ⟨more, rfl, rest⟩
      · exact ⟨[], name, names, p, m, rfl, shape, rfl, rfl⟩
      · obtain ⟨front, rfl, names'⟩ := trailing_split notComma apart rest
        obtain ⟨before, other, later, p, m, rfl, shape, rfl, behind'⟩ := ih names'
        refine ⟨name :: before, other, later, p, m, rfl, shape, ?_, behind'⟩
        rw [brokenOff_cons, toList_quoteName]
        simp

/-- What stands in front of a character of a name breaks off there. -/
theorem names_text (before : List String) {name : String} (later : List String) {p m : List Char}
    {c : Char} (other : c ≠ '\x22') (shape : name.toList = p ++ c :: m) :
    (Formatter.memory.names (before ++ name :: later)).toList =
      brokenOff before p ++ c :: (doubledMarks m ++ '\x22' :: trailing later) := by
  induction before with
  | nil =>
    rw [List.nil_append, toList_names, toList_quoteName, shape, doubledMarks_append,
      doubledMarks_cons other]
    simp [brokenOff, leading]
  | cons first before ih =>
    have others : trailing (before ++ name :: later) =
        ',' :: ' ' :: (Formatter.memory.names (before ++ name :: later)).toList := by
      cases before <;> exact trailing_cons _ _
    rw [List.cons_append, toList_names, others, ih, brokenOff_cons]
    simp

theorem mem_quoteName_of_mem {c : Char} {name : String} (h : c ∈ name.toList) :
    c ∈ (Formatter.memory.quoteName name).toList := by
  rw [toList_quoteName]
  exact List.mem_append_left _ (List.mem_cons_of_mem _ (mem_doubledMarks.mpr h))

/-- What a name holds, a list with this name holds. -/
theorem mem_names {c : Char} {names : List String} {name : String} (hname : name ∈ names)
    (h : c ∈ name.toList) : c ∈ (Formatter.memory.names names).toList := by
  have quoted := mem_quoteName_of_mem h
  cases names with
  | nil => exact absurd hname List.not_mem_nil
  | cons first names =>
    rw [toList_names, List.mem_append]
    rcases List.mem_cons.mp hname with rfl | hname
    · exact .inl quoted
    · exact .inr (List.mem_flatMap.mpr ⟨name, hname, List.mem_append_right _ quoted⟩)

/-! ## Lists that break off -/

theorem fault_brokenOff {before : List String} {front : List Char}
    (quotable : ∀ name ∈ before, Quotable name) (clean : '\\' ∉ front) :
    (scanFrom ',' none 0 (brokenOff before front)).fault = some .unterminated := by
  induction before with
  | nil =>
    have isMark : isQuote '\x22' = true := rfl
    show (scanFrom ',' none 0 ('\x22' :: doubledMarks front)).fault = _
    rw [scanFrom_opening isMark, ← List.append_nil (doubledMarks front),
      scanFrom_within isMark (content_marks clean)]
    rfl
  | cons name before ih =>
    rw [brokenOff_cons, (scan_item (uncut_name (quotable name List.mem_cons_self)) rfl).1]
    exact ih fun other hother => quotable other (List.mem_cons_of_mem name hother)

/-- A list of names that breaks off inside a name is not read. -/
theorem nameList_brokenOff {before : List String} {front : List Char}
    (quotable : ∀ name ∈ before, Quotable name) (clean : '\\' ∉ front) :
    nameList (brokenOff before front) =
      .error (SyntaxError.unterminatedString (String.ofList (brokenOff before front))) := by
  simp only [nameList, splitTopLevel, segments, scan, fault_brokenOff quotable clean]
  rfl

theorem mark_not_mem_blanks {blanks : List Char} (h : ∀ b ∈ blanks, Text.isBlank b = true) :
    '\x22' ∉ blanks := by
  intro mem
  exact absurd (h '\x22' mem) (by decide)

theorem marked_brokenOff (before : List String) (front : List Char) :
    Marked (brokenOff before front) := by
  cases before with
  | nil => exact ⟨doubledMarks front, rfl⟩
  | cons name before =>
    rw [brokenOff_cons]
    exact marked_name name _

theorem tight_brokenOff (before : List String) {front : List Char}
    (visible : front = [] ∨ ∃ start c, front = start ++ [c] ∧ Text.isBlank c = false) :
    Text.Tight (brokenOff before front) := by
  obtain ⟨tail, marked⟩ := marked_brokenOff before front
  refine ⟨⟨'\x22', tail, marked, by decide⟩, ?_⟩
  rcases visible with rfl | ⟨start, c, rfl, hc⟩
  · exact ⟨leading before, '\x22', rfl, by decide⟩
  · have last : ∃ ds, doubledMarks [c] = ds ++ [c] := by
      by_cases mark : c = '\x22'
      · exact ⟨[c], by simp [doubledMarks, mark]⟩
      · exact ⟨[], by simp [doubledMarks, mark]⟩
    obtain ⟨ds, last⟩ := last
    refine ⟨leading before ++ '\x22' :: (doubledMarks start ++ ds), c, ?_, hc⟩
    rw [brokenOff, doubledMarks_append, last]
    simp

/-- Without the blanks at its end the list still breaks off inside the name. -/
theorem trim_brokenOff (before : List String) (front : List Char) :
    ∃ front', front' <+: front ∧ Text.trim (brokenOff before front) = brokenOff before front' := by
  have trimmed : ∀ {front' blanks : List Char}, (∀ b ∈ blanks, Text.isBlank b = true) →
      (front' = [] ∨ ∃ start c, front' = start ++ [c] ∧ Text.isBlank c = false) →
      Text.trim (brokenOff before (front' ++ blanks)) = brokenOff before front' := by
    intro front' blanks hblanks visible
    have between := (tight_brokenOff before visible).trim_between
      (fun c (hc : c ∈ []) => nomatch hc) hblanks
    rw [brokenOff, doubledMarks_append, doubledMarks_clean (mark_not_mem_blanks hblanks),
      ← List.cons_append, ← List.append_assoc]
    exact between
  rcases blank_or_visible front with blank | ⟨start, c, blanks, rfl, hc, hblanks⟩
  · exact ⟨[], List.nil_prefix, trimmed blank (.inl rfl)⟩
  · refine ⟨start ++ [c], ⟨blanks, by simp⟩, ?_⟩
    rw [List.append_cons]
    exact trimmed hblanks (.inr ⟨start, c, rfl, hc⟩)

end Polystore.Sql
