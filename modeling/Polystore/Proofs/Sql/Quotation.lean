import Polystore.Formatter
import Polystore.Proofs.Text.Tight
import Polystore.Sql.Clauses
import Polystore.Sql.Literal
import Polystore.Sql.Token

/-!
# What quotations hold

Four readers pass over quotations: the one that cuts tokens, the one that cuts lists, the one that
looks for clauses and the one that takes a quoted name off the front. `Content` says once what may
stand between two quotation marks and what it means, and each reader passes over contents up to the
closing mark.
-/

namespace Polystore.Sql

/-- The characters may stand between two marks `q`, and mean the second characters. -/
inductive Content (q : Char) : List Char → List Char → Prop
  | nil : Content q [] []
  | plain {c : Char} {cs ms : List Char} :
    c ≠ q → c ≠ '\\' → Content q cs ms → Content q (c :: cs) (c :: ms)
  | doubled {cs ms : List Char} : Content q cs ms → Content q (q :: q :: cs) (q :: ms)
  | escaped {c : Char} {cs ms : List Char} :
    Content q cs ms → Content q ('\\' :: c :: cs) (unescapeChar c :: ms)

theorem isQuote_ne_backslash {q : Char} (h : isQuote q = true) : q ≠ '\\' := by
  rintro rfl
  exact absurd h (by decide)

theorem isQuote_not_blank {q : Char} (h : isQuote q = true) : Text.isBlank q = false := by
  unfold isQuote at h
  rw [Bool.or_eq_true, Bool.or_eq_true] at h
  rcases h with (h | h) | h <;> rw [beq_iff_eq.mp h] <;> decide

/-- Doubling the mark makes content of any text without backslashes. -/
theorem content_doubled {q : Char} {cs : List Char} (h : '\\' ∉ cs) :
    Content q (cs.flatMap fun d => if d == q then [d, d] else [d]) cs := by
  induction cs with
  | nil => exact .nil
  | cons c cs ih =>
    rw [List.mem_cons, not_or] at h
    rw [List.flatMap_cons]
    by_cases hq : c = q
    · subst hq
      rw [if_pos (beq_self_eq_true c)]
      exact .doubled (ih h.2)
    · rw [if_neg (by simpa using hq)]
      exact .plain hq (fun e => h.1 e.symm) (ih h.2)

variable {q : Char} {cs ms : List Char}

/-- Resolving the escapes of a content brings what it means, whatever follows it. -/
theorem unescape_within (hq : isQuote q = true) (h : Content q cs ms) (rest : List Char) :
    unescape q (cs ++ rest) = ms ++ unescape q rest := by
  have backslash := isQuote_ne_backslash hq
  induction h with
  | nil => rfl
  | @plain c cs ms hc hb _ ih =>
    rw [List.cons_append, List.cons_append, ← ih]
    cases cs ++ rest with
    | nil => rfl
    | cons d tail => rw [unescape, if_neg (by simpa using hb), if_neg (by simp [hc])]
  | doubled _ ih =>
    rw [List.cons_append, List.cons_append, unescape, if_neg (by simpa using backslash),
      if_pos (by simp), ih]
    rfl
  | escaped _ ih =>
    rw [List.cons_append, List.cons_append, unescape, if_pos (by simp), ih]
    rfl

theorem unescape_content (hq : isQuote q = true) (h : Content q cs ms) : unescape q cs = ms := by
  have whole := unescape_within hq h []
  rw [List.append_nil, unescape, List.append_nil] at whole
  exact whole

theorem unquote_content (hq : isQuote q = true) (h : Content q cs ms) :
    unquote (q :: cs ++ [q]) = some ms := by
  rw [List.cons_append, unquote, List.getLast?_append, List.dropLast_concat,
    unescape_content hq h, if_pos (by simp [hq])]

/-! ## Cutting tokens -/

theorem tokensFrom_plain {c : Char} (hq : c ≠ q) (hb : c ≠ '\\') (seen rest : List Char) :
    tokensFrom (.quotation q seen) (c :: rest) = tokensFrom (.quotation q (c :: seen)) rest := by
  have mark : (c == q) = false := beq_eq_false_iff_ne.mpr hq
  have backslash : (c == '\\') = false := beq_eq_false_iff_ne.mpr hb
  rw [tokensFrom.eq_def]
  simp only [mark, backslash]
  rfl

theorem tokensFrom_doubled (hb : q ≠ '\\') (seen rest : List Char) :
    tokensFrom (.quotation q seen) (q :: q :: rest) =
      tokensFrom (.quotation q (q :: q :: seen)) rest := by
  rw [tokensFrom.eq_def]
  simp [hb]

theorem tokensFrom_escaped (c : Char) (seen rest : List Char) :
    tokensFrom (.quotation q seen) ('\\' :: c :: rest) =
      tokensFrom (.quotation q (c :: '\\' :: seen)) rest := by
  rfl

theorem tokensFrom_between_cons (c : Char) (rest : List Char) :
    tokensFrom .between (c :: rest) =
      (tokensFrom (Reading.begun c).2 rest).map ((Reading.begun c).1 ++ ·) := by
  rfl

theorem tokensFrom_closing (hb : q ≠ '\\') (seen : List Char) {rest : List Char}
    (apart : rest.head? ≠ some q) :
    tokensFrom (.quotation q seen) (q :: rest) =
      (tokensFrom .between rest).map (Reading.quotedToken (q :: seen) :: ·) := by
  rw [tokensFrom.eq_def]
  cases rest with
  | nil =>
    simp [hb]
    rfl
  | cons c tail =>
    have hc : c ≠ q := fun e => apart (congrArg some e)
    simp [hb, hc]

theorem tokensFrom_content (hq : isQuote q = true) (h : Content q cs ms) (seen : List Char)
    {rest : List Char} (apart : rest.head? ≠ some q) :
    tokensFrom (.quotation q seen) (cs ++ q :: rest) =
      (tokensFrom .between rest).map (Reading.quotedToken (q :: (cs.reverse ++ seen)) :: ·) := by
  have backslash := isQuote_ne_backslash hq
  induction h generalizing seen with
  | nil => exact tokensFrom_closing backslash seen apart
  | plain hc hb _ ih =>
    rw [List.cons_append, tokensFrom_plain hc hb, ih, List.reverse_cons, List.append_assoc,
      List.singleton_append]
  | doubled _ ih =>
    rw [List.cons_append, List.cons_append, tokensFrom_doubled backslash, ih, List.reverse_cons,
      List.reverse_cons, List.append_assoc, List.append_assoc]
    rfl
  | escaped _ ih =>
    rw [List.cons_append, List.cons_append, tokensFrom_escaped, ih, List.reverse_cons,
      List.reverse_cons, List.append_assoc, List.append_assoc]
    rfl

/-- A quotation is one token, whatever it holds. -/
theorem tokensFrom_quotation (hq : isQuote q = true) (h : Content q cs ms) {rest : List Char}
    (apart : rest.head? ≠ some q) :
    tokensFrom .between (q :: cs ++ q :: rest) =
      (tokensFrom .between rest).map (Token.quoted (String.ofList ms) :: ·) := by
  have opens : Reading.begun q = ([], .quotation q [q]) := by
    unfold isQuote at hq
    rw [Bool.or_eq_true, Bool.or_eq_true] at hq
    rcases hq with (hq | hq) | hq <;> rw [beq_iff_eq.mp hq] <;> rfl
  have token : Reading.quotedToken (q :: (cs.reverse ++ [q])) = .quoted (String.ofList ms) := by
    have content : (q :: (cs.reverse ++ [q])).reverse = q :: cs ++ [q] := by simp
    rw [Reading.quotedToken, content, unquote_content hq h]
    rfl
  rw [List.cons_append, tokensFrom_between_cons, opens, tokensFrom_content hq h [q] apart, token,
    Option.map_map]
  rfl

/-! ## Cutting lists -/

/-- Where the reader of lists places the characters of a quotation. -/
def placedQuotation (q : Char) (cs : List Char) : List Placed :=
  ⟨q, false, false⟩ :: (cs ++ [q]).map fun c => ⟨c, true, false⟩

/-- A scan behind some characters. -/
def Scan.behind (placed : List Placed) (scan : Scan) : Scan :=
  { scan with placed := placed ++ scan.placed }

theorem scanFrom_escaped (separator c : Char) (depth : Nat) (rest : List Char) :
    scanFrom separator (some q) depth ('\\' :: c :: rest) =
      ((scanFrom separator (some q) depth rest).preceded c true false).preceded '\\' true
        false := by
  rfl

theorem scanFrom_opening {separator : Char} (hq : isQuote q = true) (depth : Nat)
    (rest : List Char) :
    scanFrom separator none depth (q :: rest) =
      (scanFrom separator (some q) depth rest).preceded q false false := by
  rw [scanFrom.eq_def]
  simp [hq]

/-- A content is passed over, whatever follows it. -/
theorem scanFrom_within {separator : Char} (hq : isQuote q = true) (h : Content q cs ms)
    (depth : Nat) (rest : List Char) :
    scanFrom separator (some q) depth (cs ++ rest) =
      (scanFrom separator (some q) depth rest).behind (cs.map fun c => ⟨c, true, false⟩) := by
  have backslash := isQuote_ne_backslash hq
  induction h with
  | nil => rfl
  | plain hc hb _ ih =>
    rw [List.cons_append, scanFrom.eq_def]
    simp [hc, hb, ih]
    rfl
  | doubled _ ih =>
    rw [List.cons_append, List.cons_append, scanFrom.eq_def]
    simp [backslash, ih]
    rfl
  | escaped _ ih =>
    rw [List.cons_append, List.cons_append, scanFrom_escaped, ih]
    rfl

theorem scanFrom_closing {separator : Char} (hq : isQuote q = true) (depth : Nat)
    {rest : List Char} (apart : rest.head? ≠ some q) :
    scanFrom separator (some q) depth (q :: rest) =
      (scanFrom separator none depth rest).preceded q true false := by
  have backslash := isQuote_ne_backslash hq
  rw [scanFrom.eq_def]
  cases rest with
  | nil => simp [backslash]
  | cons c tail =>
    have hc : c ≠ q := fun e => apart (congrArg some e)
    simp [backslash, hc]

theorem scanFrom_quotation {separator : Char} (hq : isQuote q = true) (h : Content q cs ms)
    (depth : Nat) {rest : List Char} (apart : rest.head? ≠ some q) :
    scanFrom separator none depth (q :: cs ++ q :: rest) =
      (scanFrom separator none depth rest).behind (placedQuotation q cs) := by
  rw [List.cons_append, scanFrom_opening hq, scanFrom_within hq h, scanFrom_closing hq depth apart]
  simp [Scan.preceded, Scan.behind, placedQuotation]

end Polystore.Sql
