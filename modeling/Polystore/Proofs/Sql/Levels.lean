import Polystore.Proofs.Sql.Quotation

/-!
# Where a text is quoted

Two readers follow the quotations of a text. The reader of lists looks one character ahead and takes
a doubled mark for content; the reader of clauses goes character by character, so that the first of
two marks closes the quotation and the second one opens it again. The level of a place is what the
second reader knows of it, with the brackets of all shapes counted. Main statement: what either
reader takes for quoted is the same at every character but the marks themselves, and they end inside
a quotation together.
-/

namespace Polystore.Sql

/-! ## Standings and levels -/

/-- Where the reader of clauses stands past some characters. -/
def Standing.past (cs : List Char) : Standing := cs.foldl Standing.after .start

/-- A place in a text: what is open in quotation marks, and the open brackets less those closed
outside quotations. -/
structure Level where
  quoting : Quoting
  depth : Int
deriving DecidableEq

/-- No quotation and no bracket is open. -/
def Level.top : Level := ⟨.outside, 0⟩

/-- The level behind one more character. -/
def Level.after (l : Level) (c : Char) : Level :=
  { quoting := l.quoting.after c
    depth :=
      if l.quoting.mark.isSome then l.depth
      else if isOpening c then l.depth + 1
      else if isClosing c then l.depth - 1
      else l.depth }

/-- The level past some characters. -/
def Level.past (cs : List Char) : Level := cs.foldl Level.after .top

theorem Level.past_concat (cs : List Char) (c : Char) :
    Level.past (cs ++ [c]) = (Level.past cs).after c := by
  rw [Level.past, List.foldl_append]
  rfl

/-- Levels and standings follow the same quotations. -/
theorem quoting_foldl (cs : List Char) (s : Standing) (l : Level) (h : s.quoting = l.quoting) :
    (cs.foldl Standing.after s).quoting = (cs.foldl Level.after l).quoting := by
  induction cs generalizing s l with
  | nil => exact h
  | cons c cs ih => exact ih _ _ (congrArg (Quoting.after · c) h)

theorem Standing.quoting_past (cs : List Char) :
    (Standing.past cs).quoting = (Level.past cs).quoting :=
  quoting_foldl cs .start .top rfl

/-- Whether a character is neither a mark nor a bracket. -/
def isPlain (c : Char) : Bool := !isQuote c && !isOpening c && !isClosing c

theorem isPlain_iff {c : Char} :
    isPlain c = true ↔ isQuote c = false ∧ isOpening c = false ∧ isClosing c = false := by
  rw [isPlain, Bool.and_eq_true, Bool.and_eq_true, Bool.not_eq_true', Bool.not_eq_true',
    Bool.not_eq_true', and_assoc]

theorem isQuote_not_bracket {q : Char} (hq : isQuote q = true) :
    isOpening q = false ∧ isClosing q = false := by
  unfold isQuote at hq
  rw [Bool.or_eq_true, Bool.or_eq_true] at hq
  rcases hq with (hq | hq) | hq <;> rw [beq_iff_eq.mp hq] <;> decide

/-! ## One character -/

/-- The level at which reading can go on: a quotation with this mark, if any, and so many brackets
are open. -/
def Level.at (mark : Option Char) (depth : Nat) : Level := ⟨⟨mark, false⟩, depth⟩

variable {q c : Char} {depth : Nat}

theorem Level.at_eq_top_iff : Level.at none depth = .top ↔ depth = 0 := by
  simp [Level.at, Level.top, Quoting.outside]

theorem Level.at_after_content (hb : c ≠ '\\') (hc : c ≠ q) :
    (Level.at (some q) depth).after c = .at (some q) depth := by
  have backslash : (c == '\\') = false := beq_eq_false_iff_ne.mpr hb
  have mark : (c == q) = false := beq_eq_false_iff_ne.mpr hc
  simp [Level.after, Level.at, Quoting.after, backslash, mark]

/-- The character behind a backslash changes nothing. -/
theorem Level.at_after_escape (q c : Char) (depth : Nat) :
    ((Level.at (some q) depth).after '\\').after c = .at (some q) depth := by
  simp [Level.after, Level.at, Quoting.after]

theorem Level.at_after_closing_mark (hb : q ≠ '\\') :
    (Level.at (some q) depth).after q = .at none depth := by
  have backslash : (q == '\\') = false := beq_eq_false_iff_ne.mpr hb
  simp [Level.after, Level.at, Quoting.after, Quoting.outside, backslash]

theorem Level.at_after_opening_mark (hq : isQuote q = true) :
    (Level.at none depth).after q = .at (some q) depth := by
  obtain ⟨opening, closing⟩ := isQuote_not_bracket hq
  simp [Level.after, Level.at, Quoting.after, hq, opening, closing]

theorem Level.at_after_opening (hq : isQuote c = false) (h : isOpening c = true) :
    (Level.at none depth).after c = .at none (depth + 1) := by
  simp [Level.after, Level.at, Quoting.after, hq, h]

theorem Level.at_after_closing (hq : isQuote c = false) (ho : isOpening c = false)
    (h : isClosing c = true) : (Level.at none (depth + 1)).after c = .at none depth := by
  simp [Level.after, Level.at, Quoting.after, hq, ho, h]

/-- Closing a bracket that was never opened leads below the top level. -/
theorem Level.depth_after_unopened (ho : isOpening c = false) (h : isClosing c = true) :
    ((Level.at none 0).after c).depth = -1 := by
  simp [Level.after, Level.at, ho, h]

theorem Level.at_after_plain (h : isPlain c = true) :
    (Level.at none depth).after c = .at none depth := by
  obtain ⟨quote, opening, closing⟩ := isPlain_iff.mp h
  simp [Level.after, Level.at, Quoting.after, quote, opening, closing]

/-! ## The reader of lists -/

/-- What the reader of lists notes of a character is right at the level in front of it: whether it
is quoted, unless it is a mark, and whether the text is cut there. -/
structure Placed.Fits (separator : Char) (l : Level) (r : Placed) : Prop where
  quoted : isQuote r.char = false → r.quoted = l.quoting.mark.isSome
  cuts : r.cuts = true ↔ r.char = separator ∧ isPlain separator = true ∧ l = .top
  opened : 0 ≤ l.depth

/-- Where reading stops: with what fault, at which level, and in front of which characters. -/
inductive Stops : Option CutError → Level → List Char → Prop
  | sound : Stops none (.at none 0) []
  | unterminated {l : Level} : l.quoting.mark.isSome = true → Stops (some .unterminated) l []
  | unclosed {depth : Nat} : Stops (some .unbalanced) (.at none (depth + 1)) []
  | unopened {c : Char} {rest : List Char} :
    isQuote c = false → isOpening c = false → isClosing c = true →
      Stops (some .unbalanced) (.at none 0) (c :: rest)

/-- The scan of a text follows it from a level on. -/
structure Scan.Follows (separator : Char) (l : Level) (cs : List Char) (s : Scan) : Prop where
  stops : ∃ rest, cs = s.placed.map Placed.char ++ rest ∧
    Stops s.fault ((s.placed.map Placed.char).foldl Level.after l) rest
  fits : ∀ front r back, s.placed = front ++ r :: back →
    r.Fits separator ((front.map Placed.char).foldl Level.after l)

variable {separator : Char} {l : Level} {cs rest : List Char} {s : Scan}

theorem Scan.follows_of_stops {fault : Option CutError} (h : Stops fault l rest) :
    Scan.Follows separator l rest ⟨[], fault⟩ where
  stops := ⟨rest, rfl, h⟩
  fits := by
    intro front r back shape
    exact absurd shape.symm (by simp)

/-- A scan with one character more in front follows the text from the level in front of it. -/
theorem Scan.Follows.preceded {quoted cuts : Bool} (h : s.Follows separator (l.after c) cs)
    (fits : Placed.Fits separator l ⟨c, quoted, cuts⟩) :
    (s.preceded c quoted cuts).Follows separator l (c :: cs) where
  stops := by
    obtain ⟨rest, text, stops⟩ := h.stops
    refine ⟨rest, ?_, stops⟩
    rw [text]
    rfl
  fits := by
    intro front r back shape
    cases front with
    | nil =>
      obtain ⟨rfl, _⟩ := List.cons.inj shape
      exact fits
    | cons first front =>
      obtain ⟨rfl, others⟩ := List.cons.inj shape
      exact h.fits front r back others

/-- Inside a quotation every character is quoted and none is a cut. -/
theorem Placed.fits_quoted (h : l.quoting.mark.isSome = true) (opened : 0 ≤ l.depth) (c : Char) :
    Placed.Fits separator l ⟨c, true, false⟩ where
  quoted _ := h.symm
  cuts := by
    refine ⟨fun cut => (nomatch cut), ?_⟩
    rintro ⟨_, _, rfl⟩
    exact absurd h (by decide)
  opened := opened

/-- A mark or a bracket is no cut. -/
theorem no_cut (h : isPlain c = false) (separator : Char) (l : Level) :
    false = true ↔ c = separator ∧ isPlain separator = true ∧ l = .top := by
  refine ⟨fun cut => (nomatch cut), ?_⟩
  rintro ⟨rfl, plain, _⟩
  rw [h] at plain
  cases plain

theorem Placed.fits_mark (hq : isQuote q = true) (opened : 0 ≤ l.depth) (quoted : Bool) :
    Placed.Fits separator l ⟨q, quoted, false⟩ where
  quoted other := by
    rw [hq] at other
    cases other
  cuts := no_cut (by simp [isPlain, hq]) separator l
  opened := opened

theorem Placed.fits_bracket (h : isPlain c = false) (depth : Nat) :
    Placed.Fits separator (.at none depth) ⟨c, false, false⟩ where
  quoted _ := rfl
  cuts := no_cut h separator (.at none depth)
  opened := Int.natCast_nonneg depth

/-- Outside quotations and brackets the text is cut at separators. -/
theorem Placed.fits_plain (h : isPlain c = true) (separator : Char) (depth : Nat) :
    Placed.Fits separator (.at none depth) ⟨c, false, c == separator && depth == 0⟩ where
  quoted _ := rfl
  cuts := by
    rw [Bool.and_eq_true, beq_iff_eq, beq_iff_eq, Level.at_eq_top_iff]
    constructor
    · rintro ⟨rfl, top⟩
      exact ⟨rfl, h, top⟩
    · rintro ⟨same, _, top⟩
      exact ⟨same, top⟩
  opened := Int.natCast_nonneg depth

/-- A mark closes the quotation. -/
theorem Scan.Follows.closing (hq : isQuote q = true) (h : s.Follows separator (.at none depth) cs) :
    (s.preceded q true false).Follows separator (.at (some q) depth) (q :: cs) := by
  rw [← Level.at_after_closing_mark (isQuote_ne_backslash hq)] at h
  exact h.preceded (Placed.fits_quoted rfl (Int.natCast_nonneg depth) q)

/-- A mark opens a quotation. Where the reader takes it for the second one of a doubled mark, it
notes it as quoted. -/
theorem Scan.Follows.opening (hq : isQuote q = true)
    (h : s.Follows separator (.at (some q) depth) cs) (quoted : Bool) :
    (s.preceded q quoted false).Follows separator (.at none depth) (q :: cs) := by
  rw [← Level.at_after_opening_mark hq] at h
  exact h.preceded (Placed.fits_mark hq (Int.natCast_nonneg depth) quoted)

/-- **The reader of lists follows the text,** from any place inside or outside a quotation. -/
theorem scanFrom_follows (separator : Char) (mark : Option Char) (depth : Nat) (cs : List Char)
    (hm : ∀ q ∈ mark, isQuote q = true) :
    (scanFrom separator mark depth cs).Follows separator (.at mark depth) cs := by
  have quoted : ∀ (q c : Char) (depth : Nat),
      Placed.Fits separator (.at (some q) depth) ⟨c, true, false⟩ :=
    fun q c depth => Placed.fits_quoted rfl (Int.natCast_nonneg depth) c
  fun_induction scanFrom separator mark depth cs with
  | case1 => exact Scan.follows_of_stops (.unterminated rfl)
  | case2 => exact Scan.follows_of_stops .sound
  | case3 => exact Scan.follows_of_stops .unclosed
  | case4 q depth c escape d rest ih =>
    obtain rfl : c = '\\' := beq_iff_eq.mp escape
    rw [← Level.at_after_escape q d depth] at ih
    have behind := (ih hm).preceded (Placed.fits_quoted rfl (Int.natCast_nonneg depth) d)
    exact behind.preceded (quoted q '\\' depth)
  | case5 q depth c escape =>
    obtain rfl : c = '\\' := beq_iff_eq.mp escape
    have unended : Stops (some .unterminated) ((Level.at (some q) depth).after '\\') [] :=
      .unterminated rfl
    exact (Scan.follows_of_stops unended).preceded (quoted q '\\' depth)
  | case6 q depth c plain closes d rest doubled ih =>
    obtain rfl : c = q := beq_iff_eq.mp closes
    obtain rfl : d = c := beq_iff_eq.mp doubled
    -- what is one doubled mark for this reader closes and opens a quotation at its level
    exact ((ih hm).opening (hm d rfl) true).closing (hm d rfl)
  | case7 q depth c plain closes d rest single ih =>
    obtain rfl : c = q := beq_iff_eq.mp closes
    exact (ih fun _ none => (nomatch none)).closing (hm c rfl)
  | case8 q depth c plain closes ih =>
    obtain rfl : c = q := beq_iff_eq.mp closes
    exact (ih fun _ none => (nomatch none)).closing (hm c rfl)
  | case9 q depth c rest plain content ih =>
    rw [beq_iff_eq] at plain content
    rw [← Level.at_after_content plain content] at ih
    exact (ih hm).preceded (quoted q c depth)
  | case10 depth c rest hq ih =>
    exact (ih fun q same => by rwa [← Option.some.inj same]).opening hq false
  | case11 depth c rest hq opening ih =>
    rw [Bool.not_eq_true] at hq
    rw [← Level.at_after_opening hq opening] at ih
    exact (ih hm).preceded (Placed.fits_bracket (by simp [isPlain, opening]) depth)
  | case12 c rest hq opening closing =>
    rw [Bool.not_eq_true] at hq opening
    exact Scan.follows_of_stops (.unopened hq opening closing)
  | case13 c rest hq opening closing depth ih =>
    rw [Bool.not_eq_true] at hq opening
    rw [← Level.at_after_closing hq opening closing] at ih
    exact (ih hm).preceded (Placed.fits_bracket (by simp [isPlain, closing]) (depth + 1))
  | case14 depth c rest hq opening closing ih =>
    rw [Bool.not_eq_true] at hq opening closing
    have plain := isPlain_iff.mpr ⟨hq, opening, closing⟩
    rw [← Level.at_after_plain plain] at ih
    exact (ih hm).preceded (Placed.fits_plain plain separator depth)

theorem scan_follows (separator : Char) (text : List Char) :
    (scan separator text).Follows separator .top text :=
  scanFrom_follows separator none 0 text fun _ none => (nomatch none)

/-! ## Both readers -/

theorem Stops.unterminated_iff {fault : Option CutError} (h : Stops fault l rest) :
    fault = some .unterminated ↔ l.quoting.mark.isSome = true := by
  cases h with
  | sound => decide
  | unterminated unended => exact iff_of_true rfl unended
  | unclosed => exact iff_of_false (by decide) Bool.false_ne_true
  | unopened => exact iff_of_false (by decide) Bool.false_ne_true

/-- Only a bracket that was never opened stops the reader in front of the end. -/
theorem Stops.unopened_of_rest {fault : Option CutError} (h : Stops fault l rest)
    (more : rest ≠ []) : fault = some .unbalanced ∧ l = .top ∧
      ∃ c behind, rest = c :: behind ∧ isClosing c = true := by
  cases h with
  | @unopened c behind _ _ closing => exact ⟨rfl, rfl, c, behind, rfl, closing⟩
  | _ => exact absurd rfl more

/-- **The two readers see the same quotations.** The reader of lists comes to the end of the text,
or to a bracket that closes none; up to there a character other than a mark is quoted for one reader
just when it is for the other, and one ends inside a quotation just when the other does. -/
theorem quotations_seen_alike (separator : Char) (text : List Char) :
    (∃ rest, text = (scan separator text).placed.map Placed.char ++ rest ∧
      (rest ≠ [] → (scan separator text).fault = some .unbalanced ∧
        Level.past ((scan separator text).placed.map Placed.char) = .top ∧
        ∃ c behind, rest = c :: behind ∧ isClosing c = true)) ∧
    (∀ front r back, (scan separator text).placed = front ++ r :: back →
      isQuote r.char = false →
        (r.quoted = true ↔
          (Standing.past (front.map Placed.char)).quoting.mark.isSome = true)) ∧
    ((scan separator text).fault = some .unterminated ↔
      (Standing.past ((scan separator text).placed.map Placed.char)).quoting.mark.isSome =
        true) := by
  have follows := scan_follows separator text
  obtain ⟨rest, read, stops⟩ := follows.stops
  refine ⟨⟨rest, read, stops.unopened_of_rest⟩, fun front r back shape other => ?_, ?_⟩
  · rw [(follows.fits front r back shape).quoted other, Standing.quoting_past, Level.past]
  · rw [stops.unterminated_iff, Standing.quoting_past, Level.past]

/-- Behind a doubled mark both readers are in the quotation still, in a text whose last bracket was
never opened. -/
theorem quotations_seen_alike_doubled :
    (scan ',' "'a''b')".toList).placed =
      [⟨'\x27', false, false⟩, ⟨'a', true, false⟩, ⟨'\x27', true, false⟩,
        ⟨'\x27', true, false⟩] ++ ⟨'b', true, false⟩ :: [⟨'\x27', true, false⟩] ∧
    isQuote 'b' = false ∧ (Standing.past "'a''".toList).quoting.mark.isSome = true := by
  have placed : (scan ',' "'a''b')".toList).placed =
      [⟨'\x27', false, false⟩, ⟨'a', true, false⟩, ⟨'\x27', true, false⟩,
        ⟨'\x27', true, false⟩] ++ ⟨'b', true, false⟩ :: [⟨'\x27', true, false⟩] := by
    decide +kernel
  exact ⟨placed, rfl, ((quotations_seen_alike ',' _).2.1 _ _ _ placed rfl).mp rfl⟩

end Polystore.Sql
