import Mathlib
import Polystore.Column.Coerce
import Polystore.Proofs.Binary64.Reread
import Polystore.Proofs.Calendar.Reread
import Polystore.Proofs.Json.Numbers
import Polystore.Proofs.Value.Proper

/-!
# Values that columns recall

A column stores a value in the representation of its type, and a condition compares what is stored
with the value that was given. A column recalls a value when the two are equal. Most values are
recalled, whatever the conversion: a number by the text that spells it, an instant by its text, a
text by the number or the instant that it spells.

Words are not recalled: a truth value stands in a column of text as a word, and a word in a column
of truth values as a truth value, and a word reads as no number. Nor is a document recalled by the
text it was read from, unless it is a number. `ColumnType.recalls` leaves these out, and beside them
what the conversions do not keep: numbers beyond the integers of 64 bits, decimals that the quick
way of documents need not read exactly, instants of years that four digits do not hold, and
instants given in milliseconds.
-/

namespace Polystore

/-! ## What is recalled -/

namespace Json

/-- The digits and the power of ten that a text spells behind a minus sign or none. -/
def decimal? (s : String) : Option (Nat × Int) :=
  match Text.trim s.toList with
  | '-' :: rest => Binary64.spelled? rest
  | cs => Binary64.spelled? cs

/-- Whether a text in a column of documents is equal to what is stored: it holds no document and
stays a text, or it is a number that is read exactly. -/
def recallsText (s : String) : Bool :=
  match read? s with
  | none => true
  | some j => j.number?.isSome && (decimal? s).any fun d => decide (IsShort d.1 d.2)

/-- **A text that is a number reads as the number it is stored as.** -/
theorem sameNumber_of_recallsText {s : String} {j : Json} (read : read? s = some j)
    (h : recallsText s = true) :
    ∃ x y, j.number? = some x ∧ Binary64.read? (Text.trim s.toList) = some y ∧
      x.same y = true := by
  rw [recallsText, read, Bool.and_eq_true] at h
  obtain ⟨number, short⟩ := h
  obtain ⟨x, number⟩ := Option.isSome_iff_exists.mp number
  obtain ⟨negative, body, digits, power, text, spells, quick⟩ := read?_number read number
  obtain ⟨c, cs, rfl, digit⟩ := spells.first
  have spelled : decimal? s = some (digits, power) := by
    rw [decimal?, text, ← spells.spelled]
    cases negative with
    | true => rfl
    | false =>
      obtain ⟨minus, -⟩ := Binary64.ne_sign_of_isDigit digit
      show (match c :: cs with
        | '-' :: rest => Binary64.spelled? rest
        | cs => Binary64.spelled? cs) = _
      split
      · rename_i same
        exact absurd (List.cons.inj same).1 minus
      · rfl
  rw [spelled, Option.any_some, decide_eq_true_eq] at short
  obtain ⟨z, own, same⟩ := (quick short.digits_lt).same_ofDecimal short
  refine ⟨z, _, own, ?_, same⟩
  rw [text, Binary64.read?_digits negative digit, spells.spelled]
  rfl

end Json

namespace ColumnType

/-- Whether a column finds a value that it stores by the value that was given. -/
def recalls : ColumnType → Value → Bool
  | .text, .bool _ => false
  | .text, .date t => decide t.HasPlainYear
  | .integer, .float x => decide (-2 ^ 63 ≤ x.truncate ∧ x.truncate ≤ 2 ^ 63)
  | .boolean, .text s => Text.trimmed s == "1" || Text.trimmed s == "0"
  | .date, .int _ => false
  | .json, .text s => Json.recallsText s
  | _, _ => true

/-! ## Numbers and their texts -/

open Value (looseEq_of_number looseEq_of_instant)

/-- A text is equal to a value that is no text and no instant when it spells the same number. -/
theorem looseEq_text {s : String} {v : Value} {x y : Binary64} (tight : Text.Tight s.toList)
    (read : Binary64.read? s.toList = some x) (number : v.asNumber = some y)
    (plain : v.isDate = false ∧ v.asText = none) (same : x.same y = true) :
    (Value.text s).looseEq v = true := by
  refine looseEq_of_number ?_ number ⟨rfl, plain.1⟩ (.inr plain.2) same
  show Binary64.read? (Text.trim s.toList) = some x
  rw [tight.trim_eq]
  exact read

theorem tight_intDigits (n : Int) : Text.Tight (Text.intDigits n) := by
  refine Binary64.tight_of_read? (Binary64.read?_intDigits n) ?_
  have digits : ∀ c ∈ Text.natDigits n.natAbs, Text.isBlank c = false :=
    Text.solid_of_digits fun c hc => Text.isDigit_of_mem_natDigits hc
  unfold Text.intDigits
  split
  · exact List.forall_mem_cons.mpr ⟨by decide, digits⟩
  · exact digits

/-- The text of a number spells the number. -/
theorem looseEq_keyText_int (n : Int64) :
    (Value.text (Value.keyText (.int n))).looseEq (.int n) = true := by
  have text : (Value.keyText (.int n)).toList = Text.intDigits n.toInt := String.toList_ofList
  refine looseEq_text ?_ ?_ rfl ⟨rfl, rfl⟩ (Binary64.same_self (Binary64.isNaN_ofInt n.toInt))
  · rw [text]
    exact tight_intDigits n.toInt
  · rw [text]
    exact Binary64.read?_intDigits n.toInt

theorem looseEq_keyText_float {x : Binary64} (number : x.isNaN = false) :
    (Value.text (Value.keyText (.float x))).looseEq (.float x) = true := by
  have same : x.same x = true := Binary64.same_self number
  rw [Value.keyText]
  split
  · rename_i whole
    exact looseEq_text (Binary64.tight_wholeText whole) (Binary64.read?_wholeText whole) rfl
      ⟨rfl, rfl⟩ same
  · have text : (Binary64.Layout.plain.text x).toList = Binary64.Layout.plain.chars x :=
      String.toList_ofList
    refine looseEq_text ?_ ?_ rfl ⟨rfl, rfl⟩ same
    · rw [text]
      exact Binary64.tight_plain number
    · rw [text]
      exact Binary64.read?_plain number

/-- The text of an instant spells the instant. -/
theorem looseEq_text_date {t : Calendar.Instant} (h : t.HasPlainYear) :
    (Value.text t.text).looseEq (.date t) = true :=
  looseEq_of_instant (Calendar.ofText?_text h) rfl (.inr rfl)

/-! ## Integers -/

/-- The integer that a whole float becomes is the nearest float again, and so is the greatest one
for the float behind it. -/
theorem same_clampInt64 {x : Binary64} (whole : x.isIntegral = true)
    (low : -2 ^ 63 ≤ x.truncate) (high : x.truncate ≤ 2 ^ 63) :
    (Binary64.ofInt (clampInt64 x.truncate).toInt).same x = true := by
  have own := Binary64.round_truncate whole
  rcases Int.lt_or_eq_of_le high with below | last
  · have kept : (clampInt64 x.truncate).toInt = x.truncate := by
      rw [clampInt64, if_neg (by omega), if_neg (by omega)]
      exact Int64.toInt_ofInt_of_le low below
    have signed : x.truncate =
        if x.negative then -((x.units / Binary64.unitsPerOne : Nat) : Int)
        else (x.units / Binary64.unitsPerOne : Nat) := rfl
    have same := Binary64.ofInt_same_round x.negative (x.units / Binary64.unitsPerOne)
    rw [← signed, ← Binary64.natAbs_truncate, own] at same
    rw [kept]
    exact same
  · -- the float `2 ^ 63` is held back to the greatest integer, which is rounded up to it
    have positive : x.negative = false := by
      rw [Bool.eq_false_iff]
      intro negative
      have below : x.truncate = -((x.units / Binary64.unitsPerOne : Nat) : Int) := by
        rw [Binary64.truncate]
        exact if_pos negative
      have sign : (0 : Int) ≤ (x.units / Binary64.unitsPerOne : Nat) := Int.natCast_nonneg _
      linarith
    rw [positive] at own
    rw [← own, last]
    decide +kernel

/-- An integer that a text spells is the number that it reads as. -/
theorem looseEq_int_text {s : String} {n : Int64}
    (h : Text.readInt64 (Text.trim s.toList) = some n) :
    (Value.int n).looseEq (.text s) = true := by
  rw [Text.readInt64] at h
  split at h
  · rename_i k read
    split at h
    · rename_i bounds
      obtain rfl : Int64.ofInt k = n := Option.some.inj h
      obtain ⟨x, number, same⟩ := Binary64.read?_of_readInt read
      rw [← Int64.toInt_ofInt_of_le bounds.1 bounds.2] at same
      exact looseEq_of_number rfl number ⟨rfl, rfl⟩ (.inl rfl) same
    · cases h
  · cases h

/-! ## Truth values -/

/-- One and zero are read as truth values and as numbers alike. -/
theorem looseEq_bool_text {s : String} {b : Bool} (read : readBool s = some b)
    (digit : Text.trimmed s = "1" ∨ Text.trimmed s = "0") :
    (Value.bool b).looseEq (.text s) = true := by
  have chars {t : String} (h : Text.trimmed s = t) : Text.trim s.toList = t.toList := by
    rw [← h, Text.trimmed, String.toList_ofList]
  have equal {n : Int} (value : (if b then 1 else 0) = n)
      (spelled : Binary64.read? (Text.trim s.toList) = some (Binary64.ofInt n)) :
      (Value.bool b).looseEq (.text s) = true := by
    refine looseEq_of_number rfl spelled ⟨rfl, rfl⟩ (.inl rfl) ?_
    rw [value]
    exact Binary64.same_self (Binary64.isNaN_ofInt n)
  rw [readBool] at read
  rcases digit with one | zero
  · rw [one] at read
    obtain rfl : true = b := Option.some.inj read
    refine equal rfl ?_
    rw [chars one]
    exact Binary64.read?_intDigits 1
  · rw [zero] at read
    obtain rfl : false = b := Option.some.inj read
    refine equal rfl ?_
    rw [chars zero]
    exact Binary64.read?_intDigits 0

/-! ## Documents -/

/-- A document that is a number reads as it does as a value. -/
theorem asNumber_ofJson {j : Json} {x : Binary64} (h : j.number? = some x) :
    (Value.ofJson j).asNumber = some x ∧ (Value.ofJson j).isDate = false ∧
      (Value.ofJson j).asText = none := by
  cases j with
  | int n =>
    rw [Value.ofJson]
    split
    · rename_i i small
      refine ⟨?_, rfl, rfl⟩
      rw [WideInt.toInt64?] at small
      split at small
      · rename_i below
        obtain rfl : Int64.ofInt n.val = i := Option.some.inj small
        rw [Value.asNumber, Int64.toInt_ofInt_of_le n.lower below]
        exact h
      · cases small
    · exact ⟨h, rfl, rfl⟩
  | float y => exact ⟨h, rfl, rfl⟩
  | _ => cases h

/-! ## Every type -/

/-- **What a column recalls is equal to what it stores.** -/
theorem looseEq_of_convert {type : ColumnType} {v w : Value} (h : type.convert v = some w)
    (filled : v ≠ .null) (proper : v.isProper = true)
    (number : ∀ x, w = .float x → x.isNaN = false) (recalled : type.recalls v = true) :
    w.looseEq v = true := by
  have own : v.looseEq v = true := v.looseEq_self proper
  have int (n : Int) : (Binary64.ofInt n).same (Binary64.ofInt n) = true :=
    Binary64.same_self (Binary64.isNaN_ofInt n)
  -- the cases are the rows of the conversion table; `cases h` closes what a type refuses
  cases type with
  | text =>
    cases v with
    | null => exact absurd rfl filled
    | bool b => cases recalled
    | int n =>
      obtain rfl := Option.some.inj h
      exact looseEq_keyText_int n
    | float x =>
      rw [Value.isProper, Bool.not_eq_true'] at proper
      obtain rfl := Option.some.inj h
      exact looseEq_keyText_float proper
    | text s =>
      obtain rfl := Option.some.inj h
      exact own
    | date t =>
      obtain rfl := Option.some.inj h
      exact looseEq_text_date (of_decide_eq_true recalled)
    | list items => cases h
    | json j => cases h
  | integer =>
    cases v with
    | null => exact absurd rfl filled
    | bool b =>
      obtain rfl := Option.some.inj h
      refine looseEq_of_number rfl rfl ⟨rfl, rfl⟩ (.inl rfl) ?_
      cases b <;> exact int _
    | int n =>
      obtain rfl := Option.some.inj h
      exact own
    | float x =>
      rw [convert] at h
      split at h
      · rename_i whole
        obtain rfl := Option.some.inj h
        obtain ⟨low, high⟩ := of_decide_eq_true recalled
        exact looseEq_of_number rfl rfl ⟨rfl, rfl⟩ (.inl rfl) (same_clampInt64 whole low high)
      · cases h
    | text s =>
      obtain ⟨n, read, rfl⟩ := Option.map_eq_some_iff.mp h
      exact looseEq_int_text read
    | date t => cases h
    | list items => cases h
    | json j => cases h
  | float =>
    cases v with
    | null => exact absurd rfl filled
    | int n =>
      obtain rfl := Option.some.inj h
      exact looseEq_of_number rfl rfl ⟨rfl, rfl⟩ (.inl rfl) (int _)
    | float x =>
      obtain rfl := Option.some.inj h
      exact own
    | text s =>
      obtain ⟨x, read, rfl⟩ := Option.map_eq_some_iff.mp h
      exact looseEq_of_number rfl read ⟨rfl, rfl⟩ (.inl rfl) (Binary64.same_self (number x rfl))
    | _ => cases h
  | boolean =>
    cases v with
    | null => exact absurd rfl filled
    | bool b =>
      obtain rfl := Option.some.inj h
      exact own
    | int n =>
      rw [convert] at h
      split_ifs at h with zero one
      · obtain rfl := Option.some.inj h
        subst zero
        exact looseEq_of_number rfl rfl ⟨rfl, rfl⟩ (.inl rfl) (int 0)
      · obtain rfl := Option.some.inj h
        subst one
        exact looseEq_of_number rfl rfl ⟨rfl, rfl⟩ (.inl rfl) (int 1)
    | text s =>
      rw [convert] at h
      obtain ⟨b, read, rfl⟩ := Option.map_eq_some_iff.mp h
      rw [recalls, Bool.or_eq_true, beq_iff_eq, beq_iff_eq] at recalled
      exact looseEq_bool_text read recalled
    | _ => cases h
  | date =>
    cases v with
    | null => exact absurd rfl filled
    | int n => cases recalled
    | text s =>
      obtain ⟨t, read, rfl⟩ := Option.map_eq_some_iff.mp h
      exact looseEq_of_instant rfl read (.inl rfl)
    | date t =>
      obtain rfl := Option.some.inj h
      exact own
    | _ => cases h
  | json =>
    cases v with
    | null => exact absurd rfl filled
    | text s =>
      rw [convert] at h
      split at h
      · rename_i j read
        obtain rfl := Option.some.inj h
        obtain ⟨x, y, stored, spelled, same⟩ := Json.sameNumber_of_recallsText read recalled
        obtain ⟨reads, dateless, textless⟩ := asNumber_ofJson stored
        exact looseEq_of_number reads spelled ⟨dateless, rfl⟩ (.inl textless) same
      · obtain rfl := Option.some.inj h
        exact own
    | date t => cases h
    | _ =>
      obtain rfl := Option.some.inj h
      exact own

/-! ## What is forgotten -/

/-- Whether a column turns a value into one that reads differently: a truth value into a word, a word
into a truth value, or a text into a document that is no number. -/
def forgets : ColumnType → Value → Bool
  | .text, .bool _ => true
  | .boolean, .text s => ["true", "false"].contains (Text.asciiLower (Text.trimmed s))
  | .json, .text s => (Json.read? s).any fun j => j.number?.isNone
  | _, _ => false

/-- The words for truth values are no numbers, in whatever case they are written. -/
theorem read?_word {cs : List Char} (word : String) (listed : word ∈ ["true", "false"])
    (h : cs.map Char.toLower = word.toList) : Binary64.read? cs = none := by
  -- the first letter rules out digits, and the whole word rules out the names of special numbers
  have initial : ∃ c tail, cs = c :: tail ∧ (c.toLower = 't' ∨ c.toLower = 'f') := by
    simp only [List.mem_cons, List.not_mem_nil, or_false] at listed
    cases cs with
    | nil => rcases listed with rfl | rfl <;> cases h
    | cons c tail =>
      refine ⟨c, tail, rfl, ?_⟩
      rcases listed with rfl | rfl
      · exact .inl (List.cons.inj h).1
      · exact .inr (List.cons.inj h).1
  obtain ⟨c, tail, rfl, letter⟩ := initial
  refine Binary64.read?_eq_none ?_ ?_
  · intro numeric
    have caseless : "-+.0123456789".toList.all (fun c => c.toLower == c) = true := by decide
    rw [beq_iff_eq.mp (List.all_eq_true.mp caseless c numeric)] at letter
    rcases letter with rfl | rfl <;> exact absurd numeric (by decide)
  · rw [h]
    simp only [List.mem_cons, List.not_mem_nil, or_false] at listed
    rcases listed with rfl | rfl <;> decide

/-- A truth value is equal to no text that spells no number. -/
theorem looseEq_bool_text_false {b : Bool} {s : String}
    (wordy : Binary64.read? (Text.trim s.toList) = none) :
    (Value.bool b).looseEq (.text s) = false ∧ (Value.text s).looseEq (.bool b) = false := by
  constructor <;> simp [Value.looseEq, Value.sameNumber, Value.asNumber, wordy]

/-- A document that a text holds is equal to the text only if it is a number. -/
theorem looseEq_ofJson_text {s : String} {j : Json} (read : Json.read? s = some j)
    (other : j.number? = none) : (Value.ofJson j).looseEq (.text s) = false := by
  obtain ⟨rest, opening, behind⟩ := Json.read?_eq_some read
  cases opening with
  | number _ unsigned =>
    obtain ⟨_, _, _, _, _, isRead⟩ := Json.readUnsigned_spec unsigned
    have number := isRead.number
    rw [other] at number
    cases number
  | @text tail inner front quoted same =>
    subst same
    -- the quotes make the text longer than what they enclose
    have shorter := Json.length_of_readChars quoted
    have most := (List.dropWhile_suffix (l := s.toList) Json.isSpace).length_le
    rw [← Json.skipSpace, front, List.length_cons] at most
    have apart : inner ≠ s := by
      rintro rfl
      rw [List.length_nil] at shorter
      omega
    rw [Value.ofJson, Value.looseEq]
    exact beq_eq_false_iff_ne.mpr apart
  | null _ same =>
    subst same
    simp [Value.ofJson, Value.looseEq]
  | @bool b front same =>
    subst same
    have word : Text.trim s.toList = (if b then "true" else "false").toList := by
      refine Json.trim_of_skipSpace front behind ?_
      cases b
      · exact Text.Tight.enclosed (by decide) (by decide) ['a', 'l', 's']
      · exact Text.Tight.enclosed (by decide) (by decide) ['r', 'u']
    refine (looseEq_bool_text_false ?_).1
    rw [word]
    cases b
    · exact read?_word "false" (by decide) rfl
    · exact read?_word "true" (by decide) rfl
  | array same =>
    subst same
    simp [Value.ofJson, Value.looseEq, Value.sameNumber, Value.asNumber]
  | object same =>
    subst same
    simp [Value.ofJson, Value.looseEq, Json.isObject]

/-- **What a column forgets is not equal to what it stores.** -/
theorem looseEq_of_forgets {type : ColumnType} {v w : Value} (h : type.convert v = some w)
    (forgotten : type.forgets v = true) : w.looseEq v = false := by
  cases type with
  | text =>
    cases v with
    | bool b =>
      obtain rfl := Option.some.inj h
      have tight : Text.trim (Value.boolText b).toList = (Value.boolText b).toList := by
        cases b <;> rfl
      refine (looseEq_bool_text_false ?_).2
      rw [Value.keyText, tight]
      cases b
      · exact read?_word "false" (by decide) rfl
      · exact read?_word "true" (by decide) rfl
    | _ => cases forgotten
  | boolean =>
    cases v with
    | text s =>
      rw [convert] at h
      obtain ⟨b, -, rfl⟩ := Option.map_eq_some_iff.mp h
      rw [forgets, List.contains_iff_mem] at forgotten
      refine (looseEq_bool_text_false (read?_word _ forgotten ?_)).1
      rw [Text.asciiLower, Text.trimmed, String.toList_ofList, String.toList_ofList]
    | _ => cases forgotten
  | json =>
    cases v with
    | text s =>
      rw [forgets, Option.any_eq_true] at forgotten
      obtain ⟨j, read, other⟩ := forgotten
      rw [convert, read] at h
      obtain rfl := Option.some.inj h
      exact looseEq_ofJson_text read (Option.isNone_iff_eq_none.mp other)
    | _ => cases forgotten
  | _ => cases forgotten

end ColumnType

end Polystore
