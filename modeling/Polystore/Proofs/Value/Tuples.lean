import Mathlib.Data.List.Basic
import Polystore.Index
import Polystore.Proofs.Text.Joined

/-!
# Keys of tuples

The key of a tuple of values is one text: the texts of the values, with a separator between each two
of them. It tells two things less than the tuple does. The text of `null` is a text that a value can
have, and where the separator stands in texts, the key does not say how its pieces were divided
among the values. That is all: tuples of texts and `null` in which neither is at play have one key
only if they are the same.
-/

namespace Polystore

/-! ## The values of a row -/

/-- The values of a row in columns. -/
def Row.valuesIn (columns : List String) (row : Row) : List Value := columns.map row.at

theorem Row.valuesIn_insert {columns : List String} {name : String} (free : name ∉ columns)
    (row : Row) (v : Value) : Row.valuesIn columns (row.insert name v) = row.valuesIn columns := by
  refine List.map_congr_left fun column hc => ?_
  have ne : name ≠ column := by
    rintro rfl
    exact free hc
  exact Row.at_insert_of_ne ne row v

theorem Row.valuesIn_erase {columns : List String} {name : String} (free : name ∉ columns)
    (row : Row) : Row.valuesIn columns (row.erase name) = row.valuesIn columns := by
  refine List.map_congr_left fun column hc => ?_
  have ne : name ≠ column := by
    rintro rfl
    exact free hc
  exact Row.at_erase_of_ne ne row

@[simp] theorem Row.length_valuesIn (columns : List String) (row : Row) :
    (row.valuesIn columns).length = columns.length :=
  List.length_map _

/-! ## Pieces -/

namespace Value

/-- What the separator of keys cuts the text of a value into. -/
def pieces (v : Value) : List (List Char) := v.keyText.toList.splitOn '\x1f'

/-- Whether the separator of keys is nowhere in the text of a value. -/
def isWhole (v : Value) : Bool := !v.keyText.toList.contains '\x1f'

variable {v w : Value}

theorem isWhole_iff : v.isWhole = true ↔ '\x1f' ∉ v.keyText.toList := by
  rw [isWhole, Bool.not_eq_true', ← Bool.not_eq_true, List.contains_iff_mem]

theorem pieces_of_isWhole (h : v.isWhole = true) : v.pieces = [v.keyText.toList] :=
  List.splitOn_eq_singleton (isWhole_iff.mp h)

theorem length_pieces_pos (v : Value) : 0 < v.pieces.length :=
  List.length_pos_iff.mpr (List.splitOn_ne_nil _ _)

theorem isWhole_of_length_pieces (h : v.pieces.length = 1) : v.isWhole = true := by
  refine isWhole_iff.mpr fun inside => ?_
  obtain ⟨before, behind, divided⟩ := List.append_of_mem inside
  have one := List.length_pos_iff.mpr (List.splitOn_ne_nil '\x1f' before)
  have other := List.length_pos_iff.mpr (List.splitOn_ne_nil '\x1f' behind)
  rw [pieces, divided, List.splitOn_append_cons_self, List.length_append] at h
  omega

/-- Two texts with the separator between them. -/
def glued (s t : List Char) : Value := .text (String.ofList (s ++ '\x1f' :: t))

theorem pieces_glued (s t : List Char) :
    (glued s t).pieces = s.splitOn '\x1f' ++ t.splitOn '\x1f' := by
  rw [pieces, glued, keyText, String.toList_ofList, List.splitOn_append_cons_self]

theorem pieces_text_ofList (s : List Char) :
    (Value.text (String.ofList s)).pieces = s.splitOn '\x1f' := by
  rw [pieces, keyText, String.toList_ofList]

end Value

namespace Rows

variable {vs ws : List Value}

/-- **Keys of tuples of one length are the same just when the pieces of the tuples are.** -/
theorem keyOf_eq_iff (length : vs.length = ws.length) :
    keyOf vs = keyOf ws ↔ vs.flatMap Value.pieces = ws.flatMap Value.pieces := by
  have separated : keySeparator = String.singleton '\x1f' := rfl
  have cut (xs : List Value) :
      ((xs.map Value.keyText).flatMap fun s => s.toList.splitOn '\x1f') =
        xs.flatMap Value.pieces :=
    List.flatMap_map ..
  rw [keyOf, keyOf, separated, Text.joined_eq_iff (by simpa using length), cut, cut]

theorem flatMap_pieces_of_whole (whole : ∀ v ∈ vs, v.isWhole = true) :
    vs.flatMap Value.pieces = (vs.map Value.keyText).map String.toList := by
  induction vs with
  | nil => rfl
  | cons v rest ih =>
    rw [List.forall_mem_cons] at whole
    rw [List.flatMap_cons, Value.pieces_of_isWhole whole.1, ih whole.2]
    rfl

theorem length_le_length_pieces (vs : List Value) :
    vs.length ≤ (vs.flatMap Value.pieces).length := by
  induction vs with
  | nil => exact Nat.le_refl 0
  | cons v rest ih =>
    have one := v.length_pieces_pos
    rw [List.flatMap_cons, List.length_append, List.length_cons]
    omega

/-- As many pieces as values leave one piece to each of them. -/
theorem whole_of_length_pieces (h : (vs.flatMap Value.pieces).length = vs.length) :
    ∀ v ∈ vs, v.isWhole = true := by
  induction vs with
  | nil => exact List.forall_mem_nil _
  | cons v rest ih =>
    have one := v.length_pieces_pos
    have others := length_le_length_pieces rest
    rw [List.flatMap_cons, List.length_append, List.length_cons] at h
    exact List.forall_mem_cons.mpr
      ⟨Value.isWhole_of_length_pieces (by omega), ih (by omega)⟩

/-- If the separator is in no text of one of two tuples, or there is no place for it, a key says
which texts it is made of. -/
theorem keyOf_eq_iff_texts (length : vs.length = ws.length)
    (whole : vs.length ≤ 1 ∨ (∀ v ∈ vs, v.isWhole = true) ∨ ∀ w ∈ ws, w.isWhole = true) :
    keyOf vs = keyOf ws ↔ vs.map Value.keyText = ws.map Value.keyText := by
  refine ⟨fun same => ?_, fun same => by rw [keyOf, keyOf, same]⟩
  have pieces := (keyOf_eq_iff length).mp same
  -- whichever tuple has one piece for each value, the other has as many
  have both (vs ws : List Value) (length : vs.length = ws.length)
      (pieces : vs.flatMap Value.pieces = ws.flatMap Value.pieces)
      (whole : ∀ v ∈ vs, v.isWhole = true) : vs.map Value.keyText = ws.map Value.keyText := by
    have texts := flatMap_pieces_of_whole whole
    have other : ∀ w ∈ ws, w.isWhole = true := by
      refine whole_of_length_pieces ?_
      rw [← pieces, texts, List.length_map, List.length_map, length]
    rw [pieces, flatMap_pieces_of_whole other] at texts
    exact List.map_injective_iff.mpr (fun _ _ => String.toList_injective) texts.symm
  rcases whole with few | whole | whole
  · match vs, ws, length with
    | [], [], _ => rfl
    | [v], [w], _ => exact congrArg ([·]) same
  · exact both vs ws length pieces whole
  · exact (both ws vs length.symm pieces.symm whole).symm

end Rows

/-! ## Texts and `null` -/

/-- Whether a value is a text or `null`. -/
def Value.isTextual : Value → Bool
  | .null => true
  | .text _ => true
  | _ => false

/-- One value is `null` and the other one the text that `null` has in keys. -/
def Value.Mistaken (v w : Value) : Prop :=
  (v = .null ∧ w = .text "null") ∨ (v = .text "null" ∧ w = .null)

theorem Value.keyText_eq_iff {v w : Value} (hv : v.isTextual = true) (hw : w.isTextual = true) :
    v.keyText = w.keyText ↔ v = w ∨ v.Mistaken w := by
  cases v <;> cases hv <;> cases w <;> cases hw <;> simp [Value.keyText, Value.Mistaken, eq_comm]

/-- Two tuples of texts and `null` of which a key says enough to tell them apart: nowhere one holds
`null` and the other one the text of it, and one of them is free of the separator, unless there is
one place only. -/
structure TextsApart (vs ws : List Value) : Prop where
  left : ∀ v ∈ vs, v.isTextual = true
  right : ∀ w ∈ ws, w.isTextual = true
  whole : vs.length ≤ 1 ∨ (∀ v ∈ vs, v.isWhole = true) ∨ ∀ w ∈ ws, w.isWhole = true
  nulls : ∀ p ∈ vs.zip ws, ¬p.1.Mistaken p.2

namespace TextsApart

variable {vs ws : List Value}

theorem eq_of_texts (left : ∀ v ∈ vs, v.isTextual = true) (right : ∀ w ∈ ws, w.isTextual = true)
    (nulls : ∀ p ∈ vs.zip ws, ¬p.1.Mistaken p.2)
    (same : vs.map Value.keyText = ws.map Value.keyText) : vs = ws := by
  induction vs generalizing ws with
  | nil => exact (List.map_eq_nil_iff.mp same.symm).symm
  | cons v vs ih =>
    obtain ⟨w, ws, rfl⟩ : ∃ w rest, ws = w :: rest :=
      List.exists_cons_of_ne_nil fun none => by
        subst none
        cases same
    rw [List.zip_cons_cons, List.forall_mem_cons] at nulls
    rw [List.forall_mem_cons] at left right
    obtain ⟨head, tail⟩ := List.cons.inj same
    have first := ((Value.keyText_eq_iff left.1 right.1).mp head).resolve_right nulls.1
    rw [first, ih left.2 right.2 nulls.2 tail]

/-- **Such tuples have one key only if they are the same.** -/
theorem keyOf_eq_iff (h : TextsApart vs ws) (length : vs.length = ws.length) :
    Rows.keyOf vs = Rows.keyOf ws ↔ vs = ws := by
  refine ⟨fun same => ?_, congrArg Rows.keyOf⟩
  exact eq_of_texts h.left h.right h.nulls ((Rows.keyOf_eq_iff_texts length h.whole).mp same)

end TextsApart

/-- Whether a value is `null`, or a text that keys show as it is: without the separator, and not the
text of `null`. -/
def Value.isClear : Value → Bool
  | .null => true
  | .text s => s != "null" && (Value.text s).isWhole
  | _ => false

/-- Keys tell clear tuples apart. -/
theorem textsApart_of_isClear {vs ws : List Value} (left : ∀ v ∈ vs, v.isClear = true)
    (right : ∀ w ∈ ws, w.isClear = true) : TextsApart vs ws := by
  have textual (v : Value) (clear : v.isClear = true) : v.isTextual = true := by
    cases v <;> first | rfl | cases clear
  have whole (v : Value) (clear : v.isClear = true) : v.isWhole = true := by
    cases v with
    | null => rfl
    | text s => exact (Bool.and_eq_true_iff.mp clear).2
    | _ => cases clear
  refine ⟨fun v hv => textual v (left v hv), fun w hw => textual w (right w hw),
    .inr (.inl fun v hv => whole v (left v hv)), fun p hp => ?_⟩
  obtain ⟨hv, hw⟩ := List.of_mem_zip hp
  rintro (⟨_, text⟩ | ⟨text, _⟩)
  · exact absurd (text ▸ right p.2 hw) (by decide)
  · exact absurd (text ▸ left p.1 hv) (by decide)

namespace Rows

/-- A tuple of texts and `null` shares its key with no other one of its length. -/
def HasOwnKey (vs : List Value) : Prop :=
  ∀ ws : List Value, (∀ w ∈ ws, w.isTextual = true) → ws.length = vs.length →
    keyOf ws = keyOf vs → ws = vs

variable {vs : List Value}

/-- A value in a tuple with a key of its own is the only one with its text. -/
theorem HasOwnKey.eq_of_keyText {v w : Value} {before behind : List Value}
    (h : HasOwnKey (before ++ v :: behind))
    (textual : ∀ u ∈ before ++ v :: behind, u.isTextual = true) (hw : w.isTextual = true)
    (same : w.keyText = v.keyText) : w = v := by
  have tuples : before ++ w :: behind = before ++ v :: behind := by
    refine h _ (fun u hu => ?_) (by simp) (by simp [keyOf, same])
    rcases List.mem_append.mp hu with there | there
    · exact textual u (List.mem_append_left _ there)
    · rcases List.mem_cons.mp there with rfl | there
      · exact hw
      · exact textual u (List.mem_append_right _ (List.mem_cons_of_mem v there))
  exact (List.cons.inj (List.append_cancel_left tuples)).1

/-- Two neighbours in a tuple with a key of its own are the only two texts with their pieces. -/
theorem HasOwnKey.eq_of_pieces {v w x y : Value} {before behind : List Value}
    (h : HasOwnKey (before ++ v :: w :: behind))
    (textual : ∀ u ∈ before ++ v :: w :: behind, u.isTextual = true)
    (hx : x.isTextual = true) (hy : y.isTextual = true)
    (same : x.pieces ++ y.pieces = v.pieces ++ w.pieces) : x = v ∧ y = w := by
  have tuples : before ++ x :: y :: behind = before ++ v :: w :: behind := by
    refine h _ (fun u hu => ?_) (by simp) ((keyOf_eq_iff (by simp)).mpr ?_)
    · simp only [List.mem_append, List.mem_cons] at hu textual
      rcases hu with there | rfl | rfl | there
      · exact textual u (.inl there)
      · exact hx
      · exact hy
      · exact textual u (.inr (.inr (.inr there)))
    · simp only [List.flatMap_append, List.flatMap_cons]
      rw [← List.append_assoc x.pieces, same, List.append_assoc]
  obtain ⟨first, rest⟩ := List.cons.inj (List.append_cancel_left tuples)
  exact ⟨first, (List.cons.inj rest).1⟩

theorem HasOwnKey.isWhole (h : HasOwnKey vs) (textual : ∀ v ∈ vs, v.isTextual = true)
    (many : 1 < vs.length) : ∀ v ∈ vs, v.isWhole = true := by
  intro v hv
  refine Value.isWhole_iff.mpr fun inside => ?_
  obtain ⟨s, t, divided⟩ := List.append_of_mem inside
  have length := congrArg List.length divided
  rw [List.length_append, List.length_cons] at length
  have longer : s ≠ v.keyText.toList ∧ t ≠ v.keyText.toList := by
    constructor <;>
      · intro same
        have := congrArg List.length same
        omega
  have pieces : v.pieces = s.splitOn '\x1f' ++ t.splitOn '\x1f' := by
    rw [Value.pieces, divided, List.splitOn_append_cons_self]
  obtain ⟨before, behind, rfl⟩ := List.append_of_mem hv
  cases behind with
  | cons w behind =>
    -- what stands behind the separator goes over to the next value
    have moved := (h.eq_of_pieces (x := .text (String.ofList s))
      (y := .glued t w.keyText.toList) textual rfl rfl (by
        rw [Value.pieces_text_ofList, Value.pieces_glued, pieces, List.append_assoc]
        rfl)).1
    exact longer.1 (by rw [← moved, Value.keyText, String.toList_ofList])
  | nil =>
    -- what stands in front of it goes over to the value before
    obtain ⟨front, u, rfl⟩ : ∃ front u, before = front ++ [u] := by
      rcases List.eq_nil_or_concat before with rfl | split
      · exact absurd many (by simp)
      · simpa using split
    rw [List.append_assoc, List.singleton_append] at h textual
    have moved := (h.eq_of_pieces (x := .glued u.keyText.toList s)
      (y := .text (String.ofList t)) textual rfl rfl (by
        rw [Value.pieces_text_ofList, Value.pieces_glued, pieces, List.append_assoc]
        rfl)).2
    exact longer.2 (by rw [← moved, Value.keyText, String.toList_ofList])

/-- **The tuples of texts and `null` that have keys of their own**: neither `null` nor the text of
it is among the values, nor the separator in a text, unless it is the only one. -/
theorem hasOwnKey_iff (textual : ∀ v ∈ vs, v.isTextual = true) :
    HasOwnKey vs ↔ (∀ v ∈ vs, v ≠ .null ∧ v ≠ .text "null") ∧
      (vs.length ≤ 1 ∨ ∀ v ∈ vs, v.isWhole = true) := by
  constructor
  · refine fun h => ⟨fun v hv => ?_, ?_⟩
    · obtain ⟨before, behind, rfl⟩ := List.append_of_mem hv
      constructor
      · rintro rfl
        cases h.eq_of_keyText (w := .text "null") textual rfl rfl
      · rintro rfl
        cases h.eq_of_keyText (w := .null) textual rfl rfl
    · rcases Nat.lt_or_ge 1 vs.length with many | few
      · exact .inr (h.isWhole textual many)
      · exact .inl few
  · rintro ⟨named, whole⟩ ws others length same
    refine (TextsApart.keyOf_eq_iff ⟨others, textual, ?_, fun p hp => ?_⟩ length).mp same
    · rw [length]
      exact whole.imp_right .inr
    · have right := named p.2 (List.of_mem_zip hp).2
      rintro (⟨_, text⟩ | ⟨_, null⟩)
      · exact right.2 text
      · exact right.1 null

end Rows

end Polystore
