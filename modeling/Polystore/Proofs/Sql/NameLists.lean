import Mathlib
import Polystore.Proofs.Sql.Values

/-!
# Which lists of names read back

A quoted name has its quotation marks written twice and its backslashes left as they are, but the
reader takes a backslash as an escape. A list of names therefore reads back just when no name holds
a backslash. Where one does, the list either comes apart at another place or gives a shorter name:
the backslashes at the end of a run cannot all come back.
-/

namespace Polystore.Sql

/-! ## Quotations that stay open -/

theorem cutAt_preceded (scan : Scan) (c : Char) (quoted : Bool) :
    cutAt (scan.preceded c quoted false).placed =
      (c :: (cutAt scan.placed).1, (cutAt scan.placed).2) := rfl

/-- Where a quotation is open and the text has no fault, the mark that closes it stands in front of
the first cut. -/
theorem mem_first_of_open {q : Char} {depth : Nat} {cs : List Char}
    (sound : (scanFrom ',' (some q) depth cs).fault = none) :
    q ∈ (cutAt (scanFrom ',' (some q) depth cs).placed).1 := by
  generalize hm : some q = mark at sound ⊢
  fun_induction scanFrom ',' mark depth cs with
  | case1 => cases sound
  | case4 q' depth c escape d rest ih =>
    rw [cutAt_preceded, cutAt_preceded]
    exact List.mem_cons_of_mem c (List.mem_cons_of_mem d (ih hm sound))
  | case5 => cases sound
  | case6 q' depth c plain closes d rest doubled ih =>
    obtain rfl : q = q' := Option.some.inj hm
    rw [cutAt_preceded, beq_iff_eq.mp closes]
    exact List.mem_cons_self
  | case7 q' depth c plain closes d rest single ih =>
    obtain rfl : q = q' := Option.some.inj hm
    rw [cutAt_preceded, beq_iff_eq.mp closes]
    exact List.mem_cons_self
  | case8 q' depth c plain closes ih =>
    obtain rfl : q = q' := Option.some.inj hm
    rw [cutAt_preceded, beq_iff_eq.mp closes]
    exact List.mem_cons_self
  | case9 q' depth c rest plain other ih =>
    rw [cutAt_preceded]
    exact List.mem_cons_of_mem c (ih hm sound)
  | _ => cases hm

/-- What stands in front of the first cut begins the text. -/
theorem cutAt_front (placed : List Placed) : (cutAt placed).1 <+: placed.map Placed.char := by
  induction placed with
  | nil => exact List.prefix_rfl
  | cons r rest ih =>
    obtain ⟨c, quoted, cuts⟩ := r
    cases cuts with
    | true => exact List.nil_prefix
    | false => exact (List.prefix_cons_inj c).mpr ih

/-- The reader of lists reads from the front, up to the end or to a fault. -/
theorem placed_front (mark : Option Char) (depth : Nat) (cs : List Char) :
    (scanFrom ',' mark depth cs).placed.map Placed.char <+: cs := by
  fun_induction scanFrom ',' mark depth cs with
  | _ => simp_all [Scan.preceded]

/-! ## Runs of backslashes -/

theorem unescapeChar_eq_backslash {d : Char} (h : unescapeChar d = '\\') : d = '\\' := by
  unfold unescapeChar at h
  split at h
  · exact absurd h (by decide)
  · split at h
    · exact absurd h (by decide)
    · split at h
      · exact absurd h (by decide)
      · split at h
        · exact absurd h (by decide)
        · exact h

/-- Characters without marks at the front of a written name are the front of the name. -/
theorem marks_front {xs cs rest behind : List Char} (clean : '\x22' ∉ xs)
    (text : doubledMarks cs ++ '\x22' :: rest = xs ++ behind) :
    ∃ cs', cs = xs ++ cs' ∧ behind = doubledMarks cs' ++ '\x22' :: rest := by
  induction xs generalizing cs with
  | nil => exact ⟨cs, rfl, text.symm⟩
  | cons x xs ih =>
    rw [List.mem_cons, not_or] at clean
    cases cs with
    | nil => exact absurd (List.cons.inj text).1 clean.1
    | cons c cs =>
      by_cases mark : c = '\x22'
      · subst mark
        exact absurd (List.cons.inj text).1 clean.1
      · rw [doubledMarks_cons mark, List.cons_append, List.cons_append] at text
        obtain ⟨rfl, tail⟩ := List.cons.inj text
        obtain ⟨cs', rfl, rfl⟩ := ih clean.2 tail
        exact ⟨cs', rfl, rfl⟩

/-- Any character of a written name but a mark stands for itself. -/
theorem doubledMarks_front {c : Char} (other : c ≠ '\x22') {xs name rest : List Char}
    (part : c :: xs <+: doubledMarks name ++ '\x22' :: rest) :
    ∃ tail, name = c :: tail ∧ xs <+: doubledMarks tail ++ '\x22' :: rest := by
  obtain ⟨behind, text⟩ := part
  have clean : '\x22' ∉ [c] := fun mem => other (List.mem_singleton.mp mem).symm
  obtain ⟨tail, rfl, behind'⟩ := marks_front clean text.symm
  exact ⟨tail, rfl, behind, behind'⟩

/-- A run of backslashes does not come back whole: in front of a written name, and of as many
backslashes as there are, half of the run is lost. -/
theorem unescape_ne_backslashes {xs name rest : List Char} (k : Nat)
    (part : xs <+: doubledMarks name ++ '\x22' :: rest) :
    unescape '\x22' xs ≠ '\\' :: (List.replicate k '\\' ++ name) := by
  intro same
  fun_induction unescape '\x22' xs generalizing name k with
  | case1 => cases same
  | case2 c =>
    obtain ⟨rfl, nothing⟩ := List.cons.inj same
    obtain ⟨_, rfl⟩ := List.append_eq_nil_iff.mp nothing.symm
    exact absurd (List.cons_prefix_cons.mp part).1 (by decide)
  | case3 c d xs escape ih =>
    obtain rfl : c = '\\' := beq_iff_eq.mp escape
    obtain ⟨first, others⟩ := List.cons.inj same
    obtain rfl := unescapeChar_eq_backslash first
    obtain ⟨_, rfl, part'⟩ := doubledMarks_front (by decide) part
    obtain ⟨tail, rfl, behind⟩ := doubledMarks_front (by decide) part'
    -- two backslashes of the name join those that still have to come
    refine ih (k + 1) behind ?_
    rw [others, ← List.cons_append, ← List.replicate_succ, List.append_cons,
      List.append_cons, ← List.replicate_succ', ← List.replicate_succ']
  | case4 c d xs plain doubled ih => exact absurd (List.cons.inj same).1 (by decide)
  | case5 c d xs plain single ih =>
    obtain ⟨rfl, _⟩ := List.cons.inj same
    exact plain rfl

/-! ## The first name -/

/-- A text is blank, or ends with a visible character and blanks. -/
theorem blank_or_visible (cs : List Char) :
    (∀ c ∈ cs, Text.isBlank c = true) ∨ ∃ start c blanks, cs = start ++ c :: blanks ∧
      Text.isBlank c = false ∧ ∀ b ∈ blanks, Text.isBlank b = true := by
  induction cs with
  | nil => exact .inl fun c hc => absurd hc List.not_mem_nil
  | cons c cs ih =>
    rcases ih with blank | ⟨start, d, blanks, rfl, hd, hblanks⟩
    · cases hc : Text.isBlank c with
      | true => exact .inl (List.forall_mem_cons.mpr ⟨hc, blank⟩)
      | false => exact .inr ⟨[], c, cs, rfl, hc, blank⟩
    · exact .inr ⟨c :: start, d, blanks, rfl, hd, hblanks⟩

/-- Two texts that agree up to a character that neither holds before have the same front. -/
theorem front_unique {c : Char} {cs ds xs ys : List Char} (hc : c ∉ cs) (hd : c ∉ ds)
    (same : cs ++ c :: xs = ds ++ c :: ys) : cs = ds := by
  rw [← (takeWhile_first hc xs).1, same, (takeWhile_first hd ys).1]

/-- What the reader of lists finds of a written name that holds a backslash: everything up to the
first backslash, the character behind it, and then what goes on to a mark. -/
theorem first_of_escape {cs front behind rest : List Char} (clean : '\\' ∉ front)
    (shape : cs = front ++ '\\' :: behind)
    (sound : (scanFrom ',' none 0 ('\x22' :: doubledMarks cs ++ '\x22' :: rest)).fault = none) :
    ∃ d tail more, doubledMarks behind ++ '\x22' :: rest = d :: tail ∧ more <+: tail ∧
      '\x22' ∈ more ∧
      (cutAt (scanFrom ',' none 0 ('\x22' :: doubledMarks cs ++ '\x22' :: rest)).placed).1 =
        '\x22' :: (doubledMarks front ++ '\\' :: d :: more) := by
  obtain ⟨d, tail, text⟩ := exists_cons_marks behind rest
  have escaped : doubledMarks ('\\' :: behind) = '\\' :: doubledMarks behind := rfl
  have whole : '\x22' :: doubledMarks cs ++ '\x22' :: rest =
      '\x22' :: (doubledMarks front ++ '\\' :: d :: tail) := by
    rw [shape, doubledMarks_append, escaped, List.cons_append, List.append_assoc,
      List.cons_append, text]
  have isMark : isQuote '\x22' = true := rfl
  have quoted : scanFrom ',' none 0 ('\x22' :: (doubledMarks front ++ '\\' :: d :: tail)) = _ :=
    scanFrom_opening isMark 0 _
  rw [scanFrom_within isMark (content_marks clean), scanFrom_escaped] at quoted
  rw [whole, quoted] at sound ⊢
  have open_ : (scanFrom ',' (some '\x22') 0 tail).fault = none := sound
  refine ⟨d, tail, (cutAt (scanFrom ',' (some '\x22') 0 tail).placed).1, text, ?_,
    mem_first_of_open open_, ?_⟩
  · exact (cutAt_front _).trans (placed_front _ _ _)
  · rw [cutAt_preceded, Scan.behind, cutAt_append fun r hr => ?_, cutAt_preceded, cutAt_preceded]
    · simp [Function.comp_def]
    · obtain ⟨c, _, rfl⟩ := List.mem_map.mp hr
      rfl

/-- **A name with a backslash does not come back**, whatever is written behind it. -/
theorem nameOf_first_ne {name : String} (h : ¬ Quotable name) {rest : List Char}
    {first : List Char} {others : List (List Char)}
    (sound : (scanFrom ',' none 0
      ((Formatter.memory.quoteName name).toList ++ rest)).fault = none)
    (cut : cutAt (scanFrom ',' none 0
      ((Formatter.memory.quoteName name).toList ++ rest)).placed = (first, others)) :
    nameOf (Text.trim first) ≠ name := by
  obtain ⟨front, behind, shape, clean⟩ := List.eq_append_cons_of_mem (not_not.mp h)
  rw [toList_quoteName, List.append_assoc, List.singleton_append] at sound cut
  obtain ⟨d, tail, more, text, part, closed, found⟩ := first_of_escape clean shape sound
  rw [cut] at found
  obtain rfl : first = _ := found
  obtain ⟨start, e, blanks, rfl, visible, hblanks⟩ := (blank_or_visible more).resolve_left
    fun blank => absurd (blank '\x22' closed) (by decide)
  -- what remains of the piece is tight: it starts with a mark and ends with `e`
  have tight : Text.Tight ('\x22' :: (doubledMarks front ++ '\\' :: d :: start) ++ [e]) :=
    Text.Tight.enclosed (by decide) visible _
  have piece : Text.trim ('\x22' :: (doubledMarks front ++ '\\' :: d :: (start ++ e :: blanks))) =
      '\x22' :: (doubledMarks front ++ '\\' :: d :: start) ++ [e] := by
    have between := tight.trim_between (fun c (hc : c ∈ []) => nomatch hc) hblanks
    simpa using between
  have shown : nameOf ('\x22' :: (doubledMarks front ++ '\\' :: d :: start) ++ [e]) =
      String.ofList ((unquote ('\x22' :: (doubledMarks front ++ '\\' :: d :: start) ++ [e])).getD
        ('\x22' :: (doubledMarks front ++ '\\' :: d :: start) ++ [e])) := by
    rw [nameOf, tight.trim_eq]
    rfl
  intro same
  rw [piece, shown] at same
  have chars := (congrArg String.toList same).symm
  rw [String.toList_ofList, shape] at chars
  by_cases mark : e = '\x22'
  · -- the quotation is resolved, and the backslash takes the next character along
    subst mark
    rw [List.cons_append, unquote, List.getLast?_concat, List.dropLast_concat, if_pos (by decide),
      Option.getD_some, unescape_within rfl (content_marks clean), unescape,
      if_pos (by decide)] at chars
    have resolved := List.append_cancel_left chars
    obtain ⟨first, others⟩ := List.cons.inj resolved
    obtain rfl := unescapeChar_eq_backslash first.symm
    have starts : '\\' :: tail <+: doubledMarks behind ++ '\x22' :: rest := by
      rw [text]
    obtain ⟨name', rfl, behind'⟩ := doubledMarks_front (by decide) starts
    exact unescape_ne_backslashes 0
      (((List.prefix_append start _).trans part).trans behind') others.symm
  · -- the piece is the name itself, and longer in front of its first backslash
    have unresolved : unquote ('\x22' :: (doubledMarks front ++ '\\' :: d :: start) ++ [e]) =
        none := by
      rw [List.cons_append, unquote, List.getLast?_concat, if_neg (by simp [mark])]
    rw [unresolved, Option.getD_none, List.cons_append, List.append_assoc, List.cons_append,
      ← List.cons_append] at chars
    have marked : '\\' ∉ '\x22' :: doubledMarks front :=
      List.not_mem_cons_of_ne_of_not_mem (by decide) (mt mem_doubledMarks.mp clean)
    have longer := length_le_doubledMarks front
    have same_length := congrArg List.length (front_unique clean marked chars)
    rw [List.length_cons] at same_length
    omega

/-! ## Lists of names -/

theorem trim_blank (cs : List Char) : Text.trim (' ' :: cs) = Text.trim cs := rfl

theorem toList_names_cons (name next : String) (names : List String) :
    (Formatter.memory.names (name :: next :: names)).toList =
      (Formatter.memory.quoteName name).toList ++
        ',' :: ' ' :: (Formatter.memory.names (next :: names)).toList :=
  Text.toList_joined_cons _ _ _ _

/-- Where the segments of a written list mean its names, no name holds a backslash. -/
theorem quotable_of_segments {names : List String} {first : List Char} {others : List (List Char)}
    (sound : (scanFrom ',' none 0 (Formatter.memory.names names).toList).fault = none)
    (cut : cutAt (scanFrom ',' none 0 (Formatter.memory.names names).toList).placed =
      (first, others))
    (same : (first :: others).map (fun s => nameOf (Text.trim s)) = names) :
    ∀ name ∈ names, Quotable name := by
  induction names generalizing first others with
  | nil => exact fun name hname => absurd hname List.not_mem_nil
  | cons name names ih =>
    obtain ⟨head, tail⟩ := List.cons.inj same
    cases names with
    | nil =>
      intro other hother
      rw [List.mem_singleton.mp hother]
      have text : (Formatter.memory.names [name]).toList =
          (Formatter.memory.quoteName name).toList ++ [] := (List.append_nil _).symm
      rw [text] at sound cut
      by_contra unquotable
      exact nameOf_first_ne unquotable sound cut head
    | cons next names =>
      rw [toList_names_cons] at sound cut
      have quotable : Quotable name := by
        by_contra unquotable
        exact nameOf_first_ne unquotable sound cut head
      obtain ⟨second, rest, behind⟩ : ∃ second rest, cutAt (scanFrom ',' none 0
          (Formatter.memory.names (next :: names)).toList).placed = (second, rest) := ⟨_, _, rfl⟩
      obtain ⟨fault, cut'⟩ := scan_item (uncut_name quotable) behind
      rw [fault] at sound
      obtain ⟨rfl, rfl⟩ := Prod.mk.inj (cut'.symm.trans cut)
      rw [List.map_cons, trim_blank] at tail
      intro other hother
      rcases List.mem_cons.mp hother with rfl | hother
      · exact quotable
      · exact ih sound behind tail other hother

/-- A list that reads as some names has no fault, and its segments mean these names. -/
theorem segments_of_nameList {text : List Char} {names : List String} (filled : names ≠ [])
    (read : nameList text = .ok names) :
    ∃ first others, (scanFrom ',' none 0 text).fault = none ∧
      cutAt (scanFrom ',' none 0 text).placed = (first, others) ∧
      (first :: others).map (fun s => nameOf (Text.trim s)) = names := by
  cases fault : (scanFrom ',' none 0 text).fault with
  | some e => simp [nameList, splitTopLevel, segments, scan, fault, Except.map] at read
  | none =>
    refine ⟨_, _, rfl, rfl, ?_⟩
    simp only [nameList, splitTopLevel, segments, scan, fault, Except.map] at read
    have pieces := Except.ok.inj read
    generalize (cutAt (scanFrom ',' none 0 text).placed).1 = first at pieces ⊢
    generalize (cutAt (scanFrom ',' none 0 text).placed).2 = others at pieces ⊢
    unfold piecesOf at pieces
    split at pieces
    · rename_i s single
      rw [single]
      split at pieces
      · exact absurd pieces.symm filled
      · exact pieces
    · rw [List.map_map] at pieces
      exact pieces

/-- **A written list of names reads back just when no name holds a backslash.** -/
theorem names_read_back_iff (names : List String) :
    nameList (Formatter.memory.names names).toList = .ok names ↔
      ∀ name ∈ names, Quotable name := by
  constructor
  · intro read
    by_cases filled : names = []
    · subst filled
      exact fun name hname => absurd hname List.not_mem_nil
    · obtain ⟨first, others, sound, cut, same⟩ := segments_of_nameList filled read
      exact quotable_of_segments sound cut same
  · exact nameList_names

/-- **A backslash in a name is read as an escape.** A path comes back with a line break in it, and
behind a name that ends in a backslash the quotation has no end. -/
theorem backslash_read_as_escape :
    nameList (Formatter.memory.names ["C:\\new"]).toList = .ok ["C:\new"] ∧
      nameList (Formatter.memory.names ["tab\\", "size"]).toList =
        .error (SyntaxError.unterminatedString "\"tab\\\", \"size\"") ∧
      ¬ ∀ names, nameList (Formatter.memory.names names).toList = .ok names := by
  have path : nameList (Formatter.memory.names ["C:\\new"]).toList = .ok ["C:\new"] := by
    decide +kernel
  refine ⟨path, by decide +kernel, fun every => ?_⟩
  have same := Except.ok.inj (path.symm.trans (every ["C:\\new"]))
  exact absurd same (by decide)

end Polystore.Sql
