import Polystore.Proofs.Sql.Levels

/-!
# Lists cut at their separators

A list is cut at the separators that stand outside quotations and brackets. Main statement: a text
can be cut just when its quotations and brackets are closed; its segments, with a separator between
each two of them, are the text; every cut is a separator at the top level of the text and every such
separator is a cut; and the pieces are the segments without the blanks around them, unless there is
one segment only, and that one blank.
-/

namespace Polystore.Sql

/-- Nothing is left open in the text, and nothing is closed in it before it is opened. Brackets of
all shapes count alike. -/
structure Balanced (text : List Char) : Prop where
  /-- No quotation is left open. -/
  unquoted : (Level.past text).quoting.mark = none
  /-- No bracket is closed before one is opened. -/
  opened : ∀ front, front <+: text → 0 ≤ (Level.past front).depth
  /-- No bracket is left open. -/
  closed : (Level.past text).depth = 0

/-- The text in front of a segment: the segments before it, each with a separator behind it. -/
def inFront (separator : Char) (segments : List (List Char)) : List Char :=
  segments.flatMap (· ++ [separator])

/-- The segments are what the separators at top level cut the text into. -/
structure CutsInto (separator : Char) (text : List Char) (segments : List (List Char)) : Prop where
  /-- With separators between them the segments are the text. -/
  joined : [separator].intercalate segments = text
  /-- Behind a segment that is not the last one, where the separator stands, nothing is open. -/
  cut : ∀ before s t behind, segments = before ++ s :: t :: behind →
    Level.past (inFront separator before ++ s) = .top
  /-- In front of a separator inside a segment something is open. -/
  whole : ∀ before s behind xs ys, segments = before ++ s :: behind → s = xs ++ separator :: ys →
    Level.past (inFront separator before ++ xs) ≠ .top

variable {separator : Char} {text : List Char}

/-! ## Segments of placed characters -/

/-- The segments of placed characters. -/
def segmentsOf (placed : List Placed) : List (List Char) := (cutAt placed).1 :: (cutAt placed).2

theorem segmentsOf_cut {r : Placed} (h : r.cuts = true) (rest : List Placed) :
    segmentsOf (r :: rest) = [] :: segmentsOf rest := by
  simp [segmentsOf, cutAt, h]

theorem segmentsOf_other {r : Placed} (h : r.cuts = false) (rest : List Placed) :
    segmentsOf (r :: rest) = (r.char :: (cutAt rest).1) :: (cutAt rest).2 := by
  simp [segmentsOf, cutAt, h]

/-- Joined segments are the characters, where the characters at the cuts are separators. -/
theorem intercalate_segmentsOf {placed : List Placed}
    (h : ∀ r ∈ placed, r.cuts = true → r.char = separator) :
    [separator].intercalate (segmentsOf placed) = placed.map Placed.char := by
  induction placed with
  | nil => rfl
  | cons r rest ih =>
    obtain ⟨first, others⟩ := List.forall_mem_cons.mp h
    have behind := ih others
    cases hr : r.cuts with
    | true =>
      rw [segmentsOf_cut hr, segmentsOf, List.intercalate_cons_cons, ← segmentsOf, behind,
        List.map_cons, first hr]
      rfl
    | false =>
      rw [segmentsOf] at behind
      rw [segmentsOf_other hr, List.map_cons, ← behind]
      cases (cutAt rest).2 with
      | nil => rw [List.intercalate_singleton, List.intercalate_singleton]
      | cons t ts =>
        rw [List.intercalate_cons_cons, List.intercalate_cons_cons]
        rfl

/-- Where a segment stands among the placed characters: behind the segments in front of it and
their cuts, and in front of a cut unless it is the last one. -/
theorem exists_of_segmentsOf {placed : List Placed}
    (h : ∀ r ∈ placed, r.cuts = true → r.char = separator)
    {before behind : List (List Char)} {s : List Char}
    (shape : segmentsOf placed = before ++ s :: behind) :
    ∃ front within back, placed = front ++ (within ++ back) ∧
      front.map Placed.char = inFront separator before ∧ within.map Placed.char = s ∧
      (∀ r ∈ within, r.cuts = false) ∧
      (behind ≠ [] → ∃ r tail, back = r :: tail ∧ r.cuts = true) := by
  induction placed generalizing before s with
  | nil =>
    cases before with
    | nil =>
      obtain ⟨rfl, rfl⟩ := List.cons.inj shape
      exact ⟨[], [], [], rfl, rfl, rfl, fun r hr => (nomatch hr), fun more => absurd rfl more⟩
    | cons b before => exact absurd (List.cons.inj shape).2.symm (by simp [cutAt])
  | cons r rest ih =>
    obtain ⟨first, others⟩ := List.forall_mem_cons.mp h
    cases hr : r.cuts with
    | true =>
      rw [segmentsOf_cut hr] at shape
      cases before with
      | nil =>
        obtain ⟨rfl, rfl⟩ := List.cons.inj shape
        exact ⟨[], [], r :: rest, rfl, rfl, rfl, fun r hr => (nomatch hr),
          fun _ => ⟨r, rest, rfl, hr⟩⟩
      | cons b before =>
        obtain ⟨rfl, tail⟩ := List.cons.inj shape
        obtain ⟨front, within, back, rfl, chars, inner, uncut, ends⟩ := ih others tail
        refine ⟨r :: front, within, back, rfl, ?_, inner, uncut, ends⟩
        rw [List.map_cons, chars, first hr]
        rfl
    | false =>
      -- the character belongs to the first segment, which is `s` itself or stands before it
      rw [segmentsOf_other hr] at shape
      cases before with
      | nil =>
        obtain ⟨rfl, rfl⟩ := List.cons.inj shape
        have whole : segmentsOf rest = [] ++ (cutAt rest).1 :: (cutAt rest).2 := rfl
        obtain ⟨front, within, back, rfl, chars, inner, uncut, ends⟩ := ih others whole
        obtain rfl : front = [] := List.map_eq_nil_iff.mp chars
        refine ⟨[], r :: within, back, rfl, rfl, ?_, ?_, ends⟩
        · rw [List.map_cons, inner]
        · exact List.forall_mem_cons.mpr ⟨hr, uncut⟩
      | cons b before =>
        obtain ⟨rfl, tail⟩ := List.cons.inj shape
        have behindFirst : segmentsOf rest = ((cutAt rest).1 :: before) ++ s :: behind := by
          rw [segmentsOf, tail]
          rfl
        obtain ⟨front, within, back, rfl, chars, inner, uncut, ends⟩ := ih others behindFirst
        refine ⟨r :: front, within, back, rfl, ?_, inner, uncut, ends⟩
        rw [List.map_cons, chars]
        rfl

/-! ## Texts that can be cut -/

/-- A scan without a fault has read the whole text, up to its top level. -/
theorem read_of_sound (sound : (scan separator text).fault = none) :
    (scan separator text).placed.map Placed.char = text ∧ Level.past text = .top := by
  obtain ⟨rest, read, stops⟩ := (scan_follows separator text).stops
  rw [sound] at stops
  generalize level : List.foldl Level.after .top _ = l at stops
  cases stops with
  | sound =>
    rw [List.append_nil] at read
    rw [← read] at level
    exact ⟨read.symm, level⟩

theorem balanced_of_sound (sound : (scan separator text).fault = none) : Balanced text := by
  obtain ⟨read, top⟩ := read_of_sound sound
  refine ⟨by rw [top]; rfl, ?_, by rw [top]; rfl⟩
  rintro front ⟨back, shape⟩
  cases back with
  | nil =>
    rw [List.append_nil] at shape
    rw [shape, top]
    decide
  | cons c back =>
    obtain ⟨ps, qs, placed, rfl, behind⟩ := List.map_eq_append_iff.mp (read.trans shape.symm)
    obtain ⟨r, rs, rfl, _, _⟩ := List.map_eq_cons_iff.mp behind
    exact ((scan_follows separator text).fits ps r rs placed).opened

theorem sound_of_balanced (h : Balanced text) : (scan separator text).fault = none := by
  obtain ⟨rest, read, stops⟩ := (scan_follows separator text).stops
  generalize (scan separator text).placed.map Placed.char = chars at read stops
  subst read
  rw [← Level.past] at stops
  generalize level : Level.past chars = l at stops
  generalize (scan separator (chars ++ rest)).fault = fault at stops ⊢
  cases stops with
  | sound => rfl
  | unterminated unended =>
    have unquoted := h.unquoted
    rw [List.append_nil, level] at unquoted
    rw [unquoted] at unended
    cases unended
  | @unclosed depth =>
    have closed := h.closed
    rw [List.append_nil, level] at closed
    exact absurd closed (Int.natCast_ne_zero.mpr (Nat.succ_ne_zero depth))
  | @unopened c rest _ opening closing =>
    -- the text up to the bracket that stops the reader is one with a depth below zero
    have opened := h.opened (chars ++ [c]) ⟨rest, by rw [List.append_assoc]; rfl⟩
    rw [Level.past_concat, level, Level.depth_after_unopened opening closing] at opened
    exact absurd opened (by decide)

/-- **The segments of a text without a fault are cut at its separators at top level.** -/
theorem cutsInto_of_sound (plain : isPlain separator = true)
    (sound : (scan separator text).fault = none) :
    CutsInto separator text (segmentsOf (scan separator text).placed) := by
  obtain ⟨read, _⟩ := read_of_sound sound
  have fits := (scan_follows separator text).fits
  generalize (scan separator text).placed = placed at read fits
  have separators : ∀ r ∈ placed, r.cuts = true → r.char = separator := by
    intro r hr cuts
    obtain ⟨front, back, shape⟩ := List.append_of_mem hr
    exact ((fits front r back shape).cuts.mp cuts).1
  refine ⟨(intercalate_segmentsOf separators).trans read, ?_, ?_⟩
  · intro before s t behind shape
    obtain ⟨front, within, back, rfl, chars, inner, _, ends⟩ :=
      exists_of_segmentsOf separators shape
    obtain ⟨r, tail, rfl, cuts⟩ := ends (List.cons_ne_nil t behind)
    have fit := fits (front ++ within) r tail (List.append_assoc front within _).symm
    rw [List.map_append, chars, inner] at fit
    exact (fit.cuts.mp cuts).2.2
  · intro before s behind xs ys shape parts top
    obtain ⟨front, within, back, rfl, chars, inner, uncut, _⟩ :=
      exists_of_segmentsOf separators shape
    obtain ⟨ps, qs, rfl, before', rest⟩ := List.map_eq_append_iff.mp (inner.trans parts)
    obtain ⟨r, rs, rfl, same, _⟩ := List.map_eq_cons_iff.mp rest
    have fit := fits (front ++ ps) r (rs ++ back) (by simp)
    rw [List.map_append, chars, before'] at fit
    have whole := uncut r (List.mem_append_right ps List.mem_cons_self)
    rw [fit.cuts.mpr ⟨same, plain, top⟩] at whole
    cases whole

/-! ## Blank texts -/

theorem isPlain_of_isBlank {c : Char} (h : Text.isBlank c = true) : isPlain c = true := by
  cases structural : isPlain c with
  | true => rfl
  | false =>
    simp only [isPlain, isQuote, isOpening, isClosing, Bool.and_eq_false_iff, Bool.not_eq_false',
      Bool.or_eq_true, beq_iff_eq] at structural
    rcases structural with (((rfl | rfl) | rfl) | ((rfl | rfl) | rfl)) | ((rfl | rfl) | rfl) <;>
      exact absurd h (by decide)

theorem past_of_plain {cs : List Char} (h : ∀ c ∈ cs, isPlain c = true) :
    Level.past cs = .top := by
  have stays : ∀ c, isPlain c = true → (Level.at none 0).after c = .at none 0 :=
    fun c hc => Level.at_after_plain hc
  rw [Level.past]
  induction cs with
  | nil => rfl
  | cons c cs ih =>
    obtain ⟨first, others⟩ := List.forall_mem_cons.mp h
    exact (congrArg (cs.foldl Level.after) (stays c first)).trans (ih others)

theorem balanced_of_plain (h : ∀ c ∈ text, isPlain c = true) : Balanced text where
  unquoted := by
    rw [past_of_plain h]
    rfl
  opened front part := by
    rw [past_of_plain fun c hc => h c (part.subset hc)]
    decide
  closed := by
    rw [past_of_plain h]
    rfl

/-! ## Pieces -/

theorem splitTopLevel_of_sound (sound : (scan separator text).fault = none) :
    splitTopLevel separator text = .ok (piecesOf (segmentsOf (scan separator text).placed)) := by
  simp only [splitTopLevel, segments, sound]
  rfl

theorem sound_of_splitTopLevel {pieces : List (List Char)}
    (h : splitTopLevel separator text = .ok pieces) : (scan separator text).fault = none := by
  cases fault : (scan separator text).fault with
  | none => rfl
  | some e => simp [splitTopLevel, segments, fault] at h

theorem piecesOf_eq_map {segments : List (List Char)} (h : piecesOf segments ≠ []) :
    piecesOf segments = segments.map Text.trim := by
  unfold piecesOf at h ⊢
  split at h
  · split at h
    · exact absurd rfl h
    · rename_i visible
      rw [if_neg visible]
      rfl
  · rfl

/-- There is no piece just when there is nothing but blanks, none of them a separator. -/
theorem CutsInto.piecesOf_eq_nil_iff {first : List Char} {others : List (List Char)}
    (h : CutsInto separator text (first :: others)) :
    piecesOf (first :: others) = [] ↔ Text.isAllBlank text = true ∧ separator ∉ text := by
  cases others with
  | nil =>
    have same : first = text := by
      rw [← h.joined, List.intercalate_singleton]
    subst same
    rw [piecesOf]
    constructor
    · intro nothing
      split at nothing
      · rename_i blank
        refine ⟨blank, fun occurs => ?_⟩
        obtain ⟨xs, ys, parts⟩ := List.append_of_mem occurs
        refine h.whole [] first [] xs ys rfl parts (past_of_plain fun c hc => ?_)
        have inside : c ∈ first := by
          rw [parts]
          exact List.mem_append_left _ hc
        exact isPlain_of_isBlank (List.all_eq_true.mp blank c inside)
      · cases nothing
    · rintro ⟨blank, _⟩
      rw [if_pos blank]
  | cons t ts =>
    refine iff_of_false (by simp [piecesOf]) fun ⟨_, absent⟩ => absent ?_
    rw [← h.joined, List.intercalate_cons_cons]
    simp

/-- **A text is cut at its separators at top level, and nothing of it is lost.** It can be cut just
when it is balanced, and there is no piece just when it is blank: white space with no separator in
it, of which the latter only says something where the separator is white space itself. -/
theorem text_cut_at_separators {separator : Char} (plain : isPlain separator = true)
    (text : List Char) :
    ((∃ pieces, splitTopLevel separator text = .ok pieces) ↔ Balanced text) ∧
    (splitTopLevel separator text = .ok [] ↔
      Text.isAllBlank text = true ∧ separator ∉ text) ∧
    (Text.isBlank separator = false →
      (splitTopLevel separator text = .ok [] ↔ Text.isAllBlank text = true)) ∧
    (∀ pieces, pieces ≠ [] → splitTopLevel separator text = .ok pieces →
      ∃ segments, CutsInto separator text segments ∧ pieces = segments.map Text.trim) := by
  have nothing : splitTopLevel separator text = .ok [] ↔
      Text.isAllBlank text = true ∧ separator ∉ text := by
    constructor
    · intro h
      have sound := sound_of_splitTopLevel h
      rw [splitTopLevel_of_sound sound] at h
      exact (cutsInto_of_sound plain sound).piecesOf_eq_nil_iff.mp (Except.ok.inj h)
    · intro blank
      have inert : ∀ c ∈ text, isPlain c = true := fun c hc =>
        isPlain_of_isBlank (List.all_eq_true.mp blank.1 c hc)
      have sound : (scan separator text).fault = none :=
        sound_of_balanced (balanced_of_plain inert)
      rw [splitTopLevel_of_sound sound]
      exact congrArg Except.ok ((cutsInto_of_sound plain sound).piecesOf_eq_nil_iff.mpr blank)
  refine ⟨⟨?_, fun balanced => ?_⟩, nothing, fun visible => ?_, fun pieces filled h => ?_⟩
  · rintro ⟨pieces, h⟩
    exact balanced_of_sound (sound_of_splitTopLevel h)
  · exact ⟨_, splitTopLevel_of_sound (sound_of_balanced balanced)⟩
  · rw [nothing, and_iff_left_iff_imp]
    intro blank occurs
    rw [List.all_eq_true.mp blank separator occurs] at visible
    cases visible
  · have sound := sound_of_splitTopLevel h
    rw [splitTopLevel_of_sound sound] at h
    obtain rfl := Except.ok.inj h
    exact ⟨_, cutsInto_of_sound plain sound, piecesOf_eq_map filled⟩

/-- Commas in a quotation and in brackets are no cuts. -/
theorem text_cut_at_separators_row :
    isPlain ',' = true ∧ Text.isBlank ',' = false ∧
      ¬ splitTopLevel ',' "1, 'a,b', (2, 3)".toList = .ok [] ∧
      ∃ segments, CutsInto ',' "1, 'a,b', (2, 3)".toList segments ∧
        ["1".toList, "'a,b'".toList, "(2, 3)".toList] = segments.map Text.trim := by
  have cut : splitTopLevel ',' "1, 'a,b', (2, 3)".toList =
      .ok ["1".toList, "'a,b'".toList, "(2, 3)".toList] :=
    (splitTopLevel_of_sound (by decide +kernel)).trans (congrArg Except.ok (by decide +kernel))
  have comma : isPlain ',' = true := by decide
  obtain ⟨_, _, blank, pieces⟩ := text_cut_at_separators comma "1, 'a,b', (2, 3)".toList
  refine ⟨comma, by decide, ?_, pieces _ (by simp) cut⟩
  rw [blank (by decide)]
  decide

/-- **A blank text is cut where the separator is a blank itself**, so that it has pieces. And where a
bracket is closed that was not opened, the text is cut all the same if one of another shape was. -/
theorem blank_text_cut_at_blanks :
    (isPlain ' ' = true ∧ Text.isAllBlank [' '] = true ∧
      splitTopLevel ' ' [' '] = .ok [[], []] ∧
      ¬ (splitTopLevel ' ' [' '] = .ok [] ↔ Text.isAllBlank [' '] = true)) ∧
    isPlain ',' = true ∧ '[' ∉ ['(', ']'] ∧
      splitTopLevel ',' ['(', ']'] = .ok [['(', ']']] := by
  have cut : splitTopLevel ' ' [' '] = .ok [[], []] := rfl
  refine ⟨⟨by decide, by decide, cut, fun same => ?_⟩, by decide, by decide, rfl⟩
  have none := cut.symm.trans (same.mpr (by decide))
  exact absurd (Except.ok.inj none) (List.cons_ne_nil _ _)

end Polystore.Sql
