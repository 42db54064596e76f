import Polystore.Proofs.Sql.Cutting
import Polystore.Proofs.Sql.Grammar
import Polystore.Proofs.Text.Digits
import Polystore.Statement.Render

/-!
# Places that read back

`null`, truth values, whole numbers and texts are written as single tokens that read back as the
value, and so is the place of a parameter. The text of a number is no keyword and no quotation, and
the escapes of a text are undone when its quotation is read. Both readers of places, the one of
predicates and the one of lists, find what was written.
-/

namespace Polystore

/-- Whether the literal of the value is a single token that tells its kind. -/
def Value.isPlain : Value → Bool
  | .null => true
  | .bool _ => true
  | .int _ => true
  | .text _ => true
  | _ => false

namespace Operand

/-- The value of a place; a parameter has none. -/
def value? : Operand → Option Value
  | .literal v => some v
  | _ => none

/-- The place is a plain value or the next parameter; the numbers are those of the next parameter
in front of it and behind it. -/
inductive Written : Nat → Operand → Nat → Prop
  | param (n : Nat) : Written n (.param n) (n + 1)
  | literal (n : Nat) {v : Value} : v.isPlain = true → Written n (.literal v) n

/-- The places are written one after the other. -/
inductive AllWritten : Nat → List Operand → Nat → Prop
  | nil (n : Nat) : AllWritten n [] n
  | cons {a b c : Nat} {o : Operand} {os : List Operand} :
    Written a o b → AllWritten b os c → AllWritten a (o :: os) c

end Operand

namespace Sql

/-- The text stands for the place, as a token of a predicate and as an item of a list. -/
structure Stands (a : Nat) (cs : List Char) (o : Operand) (b : Nat) : Prop where
  token : ∃ t, Phrase cs [t] ∧ IsValue a t o b
  uncut : Uncut cs
  parsed : parseValue cs = o.value?

/-! ## Words -/

/-- A word of a literal stands for its value. -/
theorem stands_word {c : Char} {cs : List Char} {v : Value} (a : Nat)
    (phrase : Phrase (c :: cs) [.word (String.ofList (c :: cs))])
    (inert : (c :: cs).all isInert = true) (parsed : parseValue (c :: cs) = some v) :
    Stands a (c :: cs) (.literal v) a where
  token := by
    refine ⟨_, phrase, .word ?_⟩
    rw [String.toList_ofList, parsed]
  uncut := uncut_inert inert
  parsed := parsed

theorem stands_null (a : Nat) : Stands a "NULL".toList (.literal .null) a :=
  stands_word a (phrase_plainWord (by decide) (by decide) (by decide) (by decide)) (by decide) rfl

theorem stands_bool (a : Nat) (b : Bool) :
    Stands a (Formatter.memory.boolean b).toList (.literal (.bool b)) a := by
  cases b <;>
    exact stands_word a (phrase_plainWord (by decide) (by decide) (by decide) (by decide))
      (by decide) rfl

theorem stands_param (a : Nat) : Stands a ['?'] (.param a) (a + 1) where
  token := ⟨_, phrase_placeholder, .param rfl⟩
  uncut := uncut_inert (by decide)
  parsed := rfl

/-! ## Whole numbers -/

/-- A text whose first letter begins none of the three words is a quotation, a number, a document, a
date or itself. -/
theorem literalOf_cons {c : Char} {cs : List Char} (h : c.toLower ∉ ['n', 't', 'f']) :
    literalOf (c :: cs) =
      (((unquote (c :: cs)).map fun ms => Value.text (String.ofList ms)).or <|
        (readNumber (c :: cs)).or <| (readDocument (c :: cs)).or (readInstant (c :: cs))).getD
        (.text (String.ofList (c :: cs))) := by
  have other : ∀ {d : Char} (ds : List Char), d ∈ ['n', 't', 'f'] →
      ((c :: cs).map Char.toLower == d :: ds) = false := by
    intro d ds hd
    rw [beq_eq_false_iff_ne]
    intro e
    obtain ⟨rfl, _⟩ := List.cons.inj e
    exact h hd
  have null : ((c :: cs).map Char.toLower == "null".toList) = false := other _ (by decide)
  have truth : ((c :: cs).map Char.toLower == "true".toList) = false := other _ (by decide)
  have falsity : ((c :: cs).map Char.toLower == "false".toList) = false := other _ (by decide)
  rw [literalOf, null, truth, falsity]
  rfl

/-- What all readers make of the characters of a number. -/
theorem numberChar_facts :
    ∀ c ∈ "-0123456789".toList, isWordChar c = true ∧ isInert c = true ∧
      (c ≠ '(' ∧ c ≠ ')' ∧ c ≠ ';' ∧ c ≠ '?') ∧ isQuote c = false ∧ opensKeyword c = false ∧
      c.toLower ∉ ['n', 't', 'f'] := by
  intro c hc
  change c ∈ ['-', '0', '1', '2', '3', '4', '5', '6', '7', '8', '9'] at hc
  simp only [List.mem_cons, List.not_mem_nil, or_false] at hc
  rcases hc with rfl | rfl | rfl | rfl | rfl | rfl | rfl | rfl | rfl | rfl | rfl <;> decide

theorem mem_of_mem_intDigits {n : Int} {c : Char} (h : c ∈ Text.intDigits n) :
    c ∈ "-0123456789".toList := by
  have digit : ∀ d ∈ Text.natDigits n.natAbs, d ∈ "-0123456789".toList := fun d hd =>
    List.mem_cons_of_mem '-' (Text.mem_of_isDigit (Text.isDigit_of_mem_natDigits hd))
  rw [Text.intDigits] at h
  split at h
  · rcases List.mem_cons.mp h with rfl | h
    · decide
    · exact digit c h
  · exact digit c h

theorem looksNumeric_intDigits (n : Int) : looksNumeric (Text.intDigits n) = true := by
  obtain ⟨c, cs, h, hc⟩ := Text.exists_cons_natDigits n.natAbs
  have digits : (c :: cs).all (fun d =>
      d.isDigit || d == '.' || d == 'e' || d == 'E' || d == '-' || d == '+') = true := by
    rw [List.all_eq_true]
    intro d hd
    rw [← h] at hd
    rw [Text.isDigit_of_mem_natDigits hd]
    rfl
  rw [Text.intDigits, h]
  split
  · rw [looksNumeric, digits]
    simp only [hc]
    rfl
  · -- a digit is no sign
    have unsigned : c ≠ '-' ∧ c ≠ '+' := by
      constructor <;> rintro rfl <;> exact absurd hc (by decide)
    have body : looksNumeric (c :: cs) = ((c.isDigit || c == '.') && (c :: cs).all fun d =>
        d.isDigit || d == '.' || d == 'e' || d == 'E' || d == '-' || d == '+') := by
      simp [looksNumeric, unsigned]
    rw [body, digits, hc]
    rfl

theorem phrase_number {c : Char} {cs : List Char} (h : ∀ d ∈ c :: cs, d ∈ "-0123456789".toList) :
    Phrase (c :: cs) [.word (String.ofList (c :: cs))] := by
  have facts := fun d hd => numberChar_facts d (h d hd)
  refine phrase_ofWord (fun d hd => (facts d hd).1) ?_ fun depth {rest} hrest => ?_
  · rw [List.getLast?_eq_some_getLast (List.cons_ne_nil c cs)]
    intro e
    have last := facts _ (List.getLast_mem (List.cons_ne_nil c cs))
    exact last.2.2.1.2.2.1 (Option.some.inj e)
  · refine clausesFrom_plain (fun d hd => ?_) depth false hrest
    obtain ⟨_, _, shape, quote, opens, _⟩ := facts d hd
    exact ⟨quote, shape.1, shape.2.1, opens⟩

theorem stands_int (a : Nat) (n : Int64) :
    Stands a (Value.intText n).toList (.literal (.int n)) a := by
  have chars : ∀ d ∈ Text.intDigits n.toInt, d ∈ "-0123456789".toList :=
    fun d hd => mem_of_mem_intDigits hd
  have numeric := looksNumeric_intDigits n.toInt
  have read := Text.readInt64_intDigits n
  rw [Value.intText, String.toList_ofList]
  cases digits : Text.intDigits n.toInt with
  | nil =>
    rw [digits] at numeric
    exact absurd numeric (by decide)
  | cons c cs =>
    rw [digits] at chars numeric read
    have phrase := phrase_number chars
    obtain ⟨_, _, shape, quote, _, letters⟩ := numberChar_facts c (chars c List.mem_cons_self)
    have inert : (c :: cs).all isInert = true :=
      List.all_eq_true.mpr fun d hd => (numberChar_facts d (chars d hd)).2.1
    refine stands_word a phrase inert ?_
    have notPlace : (c :: cs == ['?']) = false := by
      rw [beq_eq_false_iff_ne]
      intro e
      exact shape.2.2.2 (List.cons.inj e).1
    have unquoted : unquote (c :: cs) = none := by
      rw [unquote, quote]
      rfl
    have number : readNumber (c :: cs) = some (.int n) := by
      rw [readNumber, numeric, if_pos rfl, read]
      rfl
    rw [parseValue, phrase.tight.trim_eq]
    show (if (c :: cs == ['?']) = true then none else some (literalOf (c :: cs))) = _
    rw [notPlace, literalOf_cons letters, unquoted, number]
    rfl

/-! ## Texts -/

/-- The escapes of a text in single quotes mean the text. -/
theorem content_escape (s : String) :
    Content '\x27' (Formatter.memory.escape s).toList s.toList := by
  have escaped : (Formatter.memory.escape s).toList =
      (s.toList.flatMap fun d => if d == '\\' then [d, d] else [d]).flatMap
        fun d => if d == '\x27' then [d, d] else [d] := by
    simp [Formatter.memory, Formatter.doubled]
  rw [escaped]
  induction s.toList with
  | nil => exact .nil
  | cons c cs ih =>
    rw [List.flatMap_cons, List.flatMap_append]
    by_cases backslash : c = '\\'
    · subst backslash
      exact .escaped ih
    · by_cases quote : c = '\x27'
      · subst quote
        exact .doubled ih
      · rw [if_neg (by simpa using backslash), List.flatMap_singleton,
          if_neg (by simpa using quote)]
        exact .plain quote backslash ih

theorem stands_text (a : Nat) (s : String) :
    Stands a (Formatter.memory.string s).toList (.literal (.text s)) a := by
  have content := content_escape s
  have marks : (Formatter.memory.string s).toList =
      '\x27' :: (Formatter.memory.escape s).toList ++ ['\x27'] := by
    rw [Formatter.string, String.toList_append, String.toList_append]
    rfl
  have phrase := phrase_quotation rfl content
  rw [String.ofList_toList] at phrase
  rw [marks]
  refine ⟨⟨_, phrase, .quoted s⟩, uncut_quotation rfl content, ?_⟩
  rw [parseValue, phrase.tight.trim_eq]
  show some (literalOf ('\x27' :: ((Formatter.memory.escape s).toList ++ ['\x27']))) = _
  have unquoted := unquote_content rfl content
  rw [List.cons_append] at unquoted
  rw [literalOf_cons (by decide), unquoted]
  show some (Value.text (String.ofList s.toList)) = _
  rw [String.ofList_toList]
  rfl

/-! ## Places -/

/-- **A written place reads back.** -/
theorem stands_of_written {a b : Nat} {o : Operand} (h : o.Written a b) :
    ∃ text, o.render Formatter.memory = .ok text ∧ Stands a text.toList o b := by
  cases h with
  | param => exact ⟨"?", rfl, stands_param a⟩
  | @literal v plain =>
    cases v with
    | null => exact ⟨"NULL", rfl, stands_null a⟩
    | bool x => exact ⟨_, rfl, stands_bool a x⟩
    | int n => exact ⟨_, rfl, stands_int a n⟩
    | text s => exact ⟨_, rfl, stands_text a s⟩
    | float x => exact absurd plain Bool.false_ne_true
    | date t => exact absurd plain Bool.false_ne_true
    | json j => exact absurd plain Bool.false_ne_true
    | list items => exact absurd plain Bool.false_ne_true

end Sql

end Polystore
