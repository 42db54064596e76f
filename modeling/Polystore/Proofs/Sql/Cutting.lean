import Polystore.Proofs.Sql.Phrase
import Polystore.Proofs.Text.Joined

/-!
# Lists that are cut again

A list is written with a comma and a blank between its items. An item that the reader of lists takes
in one piece is uncut: its commas stand in quotations or in brackets. Main statement: a written list
of uncut items is cut into just these items.
-/

namespace Polystore.Sql

/-- The reader of lists passes over the text, at any depth of brackets, without cutting it. -/
def Uncut (cs : List Char) : Prop :=
  ∃ placed : List Placed, placed.map Placed.char = cs ∧ (∀ r ∈ placed, r.cuts = false) ∧
    ∀ (depth : Nat) {rest : List Char}, Boundary rest →
      scanFrom ',' none depth (cs ++ rest) = (scanFrom ',' none depth rest).behind placed

theorem Scan.behind_behind (ps qs : List Placed) (s : Scan) :
    (s.behind qs).behind ps = s.behind (ps ++ qs) := by
  rw [Scan.behind, Scan.behind, Scan.behind, List.append_assoc]

/-! ## Items -/

theorem uncut_quotation {q : Char} {cs ms : List Char} (hq : isQuote q = true)
    (h : Content q cs ms) : Uncut (q :: cs ++ [q]) := by
  refine ⟨placedQuotation q cs, ?_, ?_, ?_⟩
  · simp [placedQuotation, Function.comp_def]
  · intro r hr
    rw [placedQuotation, List.mem_cons, List.mem_map] at hr
    rcases hr with rfl | ⟨c, _, rfl⟩ <;> rfl
  · intro depth rest hrest
    rw [List.append_assoc, List.singleton_append, scanFrom_quotation hq h depth (hrest.apart hq)]

/-- Whether a character opens and closes nothing and separates nothing. -/
def isInert (c : Char) : Bool := !isQuote c && !isOpening c && !isClosing c && c != ','

theorem scanFrom_inert {c : Char} (h : isInert c = true) (depth : Nat) (rest : List Char) :
    scanFrom ',' none depth (c :: rest) =
      (scanFrom ',' none depth rest).behind [⟨c, false, false⟩] := by
  unfold isInert at h
  simp only [Bool.and_eq_true, Bool.not_eq_true', bne_iff_ne] at h
  obtain ⟨⟨⟨quote, opening⟩, closing⟩, comma⟩ := h
  have separates : (c == ',') = false := beq_eq_false_iff_ne.mpr comma
  rw [scanFrom.eq_def]
  simp only [quote, opening, closing, separates]
  rfl

/-- Inert characters where they stand. -/
def placedInert (cs : List Char) : List Placed := cs.map fun c => ⟨c, false, false⟩

theorem chars_placedInert (cs : List Char) : (placedInert cs).map Placed.char = cs := by
  simp [placedInert, Function.comp_def]

theorem cuts_placedInert {cs : List Char} : ∀ r ∈ placedInert cs, r.cuts = false := by
  intro r hr
  obtain ⟨c, _, rfl⟩ := List.mem_map.mp hr
  rfl

theorem scanFrom_inerts {cs : List Char} (h : cs.all isInert = true) (depth : Nat)
    (rest : List Char) :
    scanFrom ',' none depth (cs ++ rest) =
      (scanFrom ',' none depth rest).behind (placedInert cs) := by
  rw [List.all_eq_true] at h
  induction cs with
  | nil => rfl
  | cons c cs ih =>
    rw [List.cons_append, scanFrom_inert (h c List.mem_cons_self),
      ih fun d hd => h d (List.mem_cons_of_mem c hd), Scan.behind_behind]
    rfl

/-- A text of inert characters is uncut. -/
theorem uncut_inert {cs : List Char} (h : cs.all isInert = true) : Uncut cs :=
  ⟨placedInert cs, chars_placedInert cs, cuts_placedInert,
    fun depth rest _ => scanFrom_inerts h depth rest⟩

/-- Inert characters with others in parentheses behind them are uncut. -/
theorem uncut_parentheses {cs ds : List Char} (hc : cs.all isInert = true)
    (hd : ds.all isInert = true) : Uncut (cs ++ '(' :: (ds ++ [')'])) := by
  refine ⟨placedInert cs ++ ⟨'(', false, false⟩ :: (placedInert ds ++ [⟨')', false, false⟩]),
    ?_, ?_, fun depth rest _ => ?_⟩
  · simp [chars_placedInert]
  · intro r hr
    simp only [List.mem_append, List.mem_cons, List.not_mem_nil, or_false] at hr
    rcases hr with hr | rfl | hr | rfl
    · exact cuts_placedInert r hr
    · rfl
    · exact cuts_placedInert r hr
    · rfl
  · have opening : ∀ more, scanFrom ',' none depth ('(' :: more) =
        (scanFrom ',' none (depth + 1) more).behind [⟨'(', false, false⟩] := by
      cases depth <;> exact fun _ => rfl
    have closing : scanFrom ',' none (depth + 1) (')' :: rest) =
        (scanFrom ',' none depth rest).behind [⟨')', false, false⟩] := rfl
    rw [List.append_assoc, List.cons_append, List.append_assoc, List.singleton_append,
      scanFrom_inerts hc, opening, scanFrom_inerts hd, closing]
    simp only [Scan.behind_behind, List.cons_append, List.nil_append]

/-- Uncut texts with a blank between them are uncut together. -/
theorem Uncut.blank {cs ds : List Char} (hc : Uncut cs) (hd : Uncut ds) :
    Uncut (cs ++ ' ' :: ds) := by
  obtain ⟨ps, chars, cuts, scans⟩ := hc
  obtain ⟨qs, chars', cuts', scans'⟩ := hd
  refine ⟨ps ++ ⟨' ', false, false⟩ :: qs, ?_, ?_, ?_⟩
  · rw [List.map_append, List.map_cons, chars, chars']
  · intro r hr
    rw [List.mem_append, List.mem_cons] at hr
    rcases hr with hr | rfl | hr
    · exact cuts r hr
    · rfl
    · exact cuts' r hr
  · intro depth rest hrest
    rw [List.append_assoc, List.cons_append, scans depth (boundary_blank _),
      scanFrom_inert (by decide), scans' depth hrest, Scan.behind_behind, Scan.behind_behind,
      List.append_assoc, List.singleton_append]

/-! ## Lists -/

/-- A written list of phrases is a phrase. -/
theorem phrase_joined {s : String} {ss : List String}
    (h : ∀ t ∈ s :: ss, ∃ ts, Phrase t.toList ts) :
    ∃ ts, Phrase (Text.joined ", " (s :: ss)).toList ts := by
  induction ss generalizing s with
  | nil => exact h s List.mem_cons_self
  | cons t ss ih =>
    obtain ⟨us, first⟩ := h s List.mem_cons_self
    obtain ⟨vs, others⟩ := ih fun u hu => h u (List.mem_cons_of_mem s hu)
    rw [Text.toList_joined_cons]
    exact ⟨_, first.comma others⟩

theorem cutAt_append {ps : List Placed} (h : ∀ r ∈ ps, r.cuts = false) (qs : List Placed) :
    cutAt (ps ++ qs) = (ps.map Placed.char ++ (cutAt qs).1, (cutAt qs).2) := by
  induction ps with
  | nil => rfl
  | cons p ps ih =>
    rw [List.cons_append, cutAt, ih fun r hr => h r (List.mem_cons_of_mem p hr),
      h p List.mem_cons_self]
    rfl

/-- Behind an item the scan of a list goes on with the next one; the comma between them is a cut,
and the blank behind it falls to the next item. -/
theorem scan_item {item : List Char} (h : Uncut item) {cs first : List Char}
    {others : List (List Char)} (cut : cutAt (scanFrom ',' none 0 cs).placed = (first, others)) :
    (scanFrom ',' none 0 (item ++ ',' :: ' ' :: cs)).fault = (scanFrom ',' none 0 cs).fault ∧
      cutAt (scanFrom ',' none 0 (item ++ ',' :: ' ' :: cs)).placed =
        (item, (' ' :: first) :: others) := by
  obtain ⟨placed, chars, cuts, scans⟩ := h
  have comma : scanFrom ',' none 0 (',' :: ' ' :: cs) =
      ((scanFrom ',' none 0 cs).preceded ' ' false false).preceded ',' false true := rfl
  rw [scans 0 (boundary_comma _), comma]
  refine ⟨rfl, ?_⟩
  rw [Scan.behind, cutAt_append cuts, chars]
  simp [Scan.preceded, cutAt, cut]

/-- The cuts fall behind the items, so that every item but the first keeps the blank in front. -/
theorem scan_joined {s : String} {ss : List String} (h : ∀ t ∈ s :: ss, Uncut t.toList) :
    (scanFrom ',' none 0 (Text.joined ", " (s :: ss)).toList).fault = none ∧
    cutAt (scanFrom ',' none 0 (Text.joined ", " (s :: ss)).toList).placed =
      (s.toList, ss.map fun t => ' ' :: t.toList) := by
  rw [List.forall_mem_cons] at h
  induction ss generalizing s with
  | nil =>
    obtain ⟨placed, chars, cuts, scans⟩ := h.1
    have whole := scans 0 boundary_nil
    rw [List.append_nil] at whole
    rw [Text.joined, whole]
    refine ⟨rfl, ?_⟩
    rw [Scan.behind, cutAt_append cuts, chars]
    show (s.toList ++ [], []) = _
    rw [List.append_nil]
    rfl
  | cons t ss ih =>
    obtain ⟨sound, parts⟩ := ih (List.forall_mem_cons.mp h.2)
    obtain ⟨fault, cut⟩ := scan_item h.1 parts
    rw [Text.toList_joined_cons]
    exact ⟨fault.trans sound, cut⟩

/-- **A written list is cut into its items.** -/
theorem splitTopLevel_joined {ss : List String} (uncut : ∀ s ∈ ss, Uncut s.toList)
    (tight : ∀ s ∈ ss, Text.Tight s.toList) :
    splitTopLevel ',' (Text.joined ", " ss).toList = .ok (ss.map String.toList) := by
  cases ss with
  | nil => rfl
  | cons s ss =>
    obtain ⟨sound, parts⟩ := scan_joined uncut
    have first := tight s List.mem_cons_self
    have cut : segments ',' (Text.joined ", " (s :: ss)).toList =
        .ok (s.toList :: ss.map fun t => ' ' :: t.toList) := by
      simp only [segments, scan, sound, parts]
    rw [splitTopLevel, cut]
    show Except.ok (piecesOf _) = _
    congr 1
    cases ss with
    | nil =>
      have visible : Text.isAllBlank s.toList = false := by
        obtain ⟨c, rest, e, hc⟩ := first.first
        rw [e, Text.isAllBlank, List.all_cons, hc, Bool.false_and]
      rw [List.map_nil, piecesOf, visible, first.trim_eq]
      rfl
    | cons t ss =>
      have trimmed : ∀ u ∈ t :: ss, Text.trim (' ' :: u.toList) = u.toList := by
        intro u hu
        have between := (tight u (List.mem_cons_of_mem s hu)).trim_between
          (fun c (hc : c ∈ [' ']) => by rw [List.mem_singleton.mp hc]; decide)
          (fun c (hc : c ∈ []) => nomatch hc)
        rw [List.append_nil] at between
        exact between
      show Text.trim s.toList :: List.map Text.trim ((t :: ss).map fun t => ' ' :: t.toList) = _
      rw [first.trim_eq, List.map_map, List.map_cons]
      congr 1
      exact List.map_congr_left trimmed

end Polystore.Sql
