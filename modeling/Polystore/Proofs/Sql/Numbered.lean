import Polystore.Proofs.Sql.Written
import Polystore.Proofs.Statement.Operands

/-!
# Predicates read back from their text

Which predicates come back from their text is told here by four facts that can be read off the
predicate: its columns hold no backslash, its literals are `null`, truth values, whole numbers and
texts, lists stand behind `IN` and `NOT IN` and nowhere else, and its parameters are numbered one
after the other from left to right. Columns and texts may hold whatever else there is: quotes,
keywords, parentheses and question marks.

A predicate of this kind can be written. The induction goes along the predicate and shares its
numbers out: where one part ends the next one begins.
-/

namespace Polystore

/-- Whether the place is one for a single value. -/
def Operand.isSingle : Operand → Bool
  | .list _ => false
  | _ => true

/-- Whether a place has the shape that the comparison asks for: a list of single values behind `IN`
and `NOT IN`, a single value behind any other comparison. -/
def Comparison.suits (op : Comparison) : Operand → Bool
  | .list items => (op == .within || op == .notWithin) && items.all Operand.isSingle
  | _ => op != .within && op != .notWithin

namespace Predicate

mutual

/-- Whether lists of single values stand exactly behind `IN` and `NOT IN`. -/
def isListed : Predicate → Bool
  | .compare _ op operand => op.suits operand
  | .isNull _ _ => true
  | .between _ low high _ => low.isSingle && high.isSingle
  | .and parts => partsListed parts
  | .or parts => partsListed parts
  | .not inner => isListed inner
  | .literal _ => true

/-- Whether lists of single values stand exactly behind `IN` and `NOT IN` in all the parts. -/
def partsListed : List Predicate → Bool
  | [] => true
  | p :: rest => isListed p && partsListed rest

end

end Predicate

namespace Operand

/-! ## Places in order -/

/-- The literals at the places are plain, and the parameters are numbered one after the other. -/
structure InOrder (a b : Nat) (os : List Operand) : Prop where
  plain : ∀ v, Operand.literal v ∈ os → v.isPlain = true
  numbers : Consecutive a b (os.filterMap index?)

namespace InOrder

variable {a b : Nat} {o : Operand} {os xs ys : List Operand}

theorem eq_of_nil (h : InOrder a b []) : a = b := h.numbers.eq_of_nil

/-- Where one row of places ends the next one begins. -/
theorem split (h : InOrder a b (xs ++ ys)) : ∃ m, InOrder a m xs ∧ InOrder m b ys := by
  have numbers := h.numbers
  rw [List.filterMap_append] at numbers
  obtain ⟨m, left, right⟩ := numbers.split
  exact ⟨m, ⟨fun v hv => h.plain v (List.mem_append_left ys hv), left⟩,
    ⟨fun v hv => h.plain v (List.mem_append_right xs hv), right⟩⟩

theorem written (single : o.isSingle = true) (h : InOrder a b o.leaves) : o.Written a b := by
  cases o with
  | param index =>
    obtain ⟨rfl, rfl⟩ := h.numbers.eq_of_single
    exact .param index
  | literal v =>
    obtain rfl := h.numbers.eq_of_nil
    exact .literal a (h.plain v List.mem_cons_self)
  | list items => cases single

theorem allWritten (single : os.all isSingle = true) (h : InOrder a b (itemLeaves os)) :
    AllWritten a os b := by
  induction os generalizing a with
  | nil =>
    obtain rfl := h.eq_of_nil
    exact .nil a
  | cons o os ih =>
    obtain ⟨here, behind⟩ := Bool.and_eq_true_iff.mp single
    obtain ⟨m, first, rest⟩ := h.split
    exact .cons (first.written here) (ih behind rest)

end InOrder

end Operand

namespace Predicate

open Operand

mutual

theorem written_of_inOrder {a b : Nat} {p : Predicate} (quotable : ∀ c ∈ p.columns, Sql.Quotable c)
    (listed : p.isListed = true) (h : InOrder a b p.operands) : p.Written a b := by
  cases p with
  | compare column op operand =>
    have name := quotable column List.mem_cons_self
    cases operand with
    | list items =>
      obtain ⟨takesList, single⟩ := Bool.and_eq_true_iff.mp listed
      have items := InOrder.allWritten single h
      rcases Bool.or_eq_true_iff.mp takesList with same | same
      · obtain rfl : op = .within := beq_iff_eq.mp same
        exact .member false name items
      · obtain rfl : op = .notWithin := beq_iff_eq.mp same
        exact .member true name items
    | _ =>
      obtain ⟨notWithin, notNotWithin⟩ := Bool.and_eq_true_iff.mp listed
      exact .compare name (bne_iff_ne.mp notWithin) (bne_iff_ne.mp notNotWithin) (h.written rfl)
  | isNull column negated =>
    obtain rfl := h.eq_of_nil
    exact .isNull a negated (quotable column List.mem_cons_self)
  | between column low high negated =>
    obtain ⟨lowSingle, highSingle⟩ := Bool.and_eq_true_iff.mp listed
    obtain ⟨m, first, second⟩ := h.split
    exact .between negated (quotable column List.mem_cons_self) (first.written lowSingle)
      (second.written highSingle)
  | and parts => exact .and (partsWritten_of_inOrder quotable listed h)
  | or parts => exact .or (partsWritten_of_inOrder quotable listed h)
  | not inner => exact .not (written_of_inOrder quotable listed h)
  | literal truth =>
    obtain rfl := h.eq_of_nil
    exact .literal a truth

theorem partsWritten_of_inOrder {a b : Nat} {ps : List Predicate}
    (quotable : ∀ c ∈ partColumns ps, Sql.Quotable c) (listed : partsListed ps = true)
    (h : InOrder a b (partOperands ps)) : PartsWritten a ps b := by
  cases ps with
  | nil =>
    obtain rfl := h.eq_of_nil
    exact .nil a
  | cons p rest =>
    obtain ⟨here, behind⟩ := Bool.and_eq_true_iff.mp listed
    obtain ⟨m, first, others⟩ := h.split
    exact .cons
      (written_of_inOrder (fun c hc => quotable c (List.mem_append_left _ hc)) here first)
      (partsWritten_of_inOrder (fun c hc => quotable c (List.mem_append_right _ hc)) behind others)

end

/-- **A predicate is read back from its text as one that evaluates alike.** The text is there, it is
accepted, and what is read comes to the same answer or the same error on every row. -/
theorem rendered_predicate_evaluates_alike {first count : Nat} {p : Predicate}
    (quotable : ∀ c ∈ p.columns, Sql.Quotable c)
    (plain : ∀ v, Operand.literal v ∈ p.operands → v.isPlain = true) (listed : p.isListed = true)
    (numbered : p.indices = List.range' first count) :
    ∃ text q, p.render Formatter.memory = .ok text ∧
      Sql.parsePredicate first text.toList = .ok (q, first + count) ∧
      ∀ params caseSensitive row,
        q.holds params caseSensitive row = p.holds params caseSensitive row := by
  have inOrder : InOrder first (first + count) p.operands :=
    ⟨plain, Nat.le_add_right first count, by rw [Nat.add_sub_cancel_left]; exact numbered⟩
  obtain ⟨text, spells⟩ := Sql.exists_spells (written_of_inOrder quotable listed inOrder)
  obtain ⟨ts, phrase, derives⟩ := spells.derives
  exact ⟨text, p.reread, spells.rendered,
    Sql.parsePredicate_of_derives phrase.tokenize_eq derives,
    fun params caseSensitive row => holds_reread params caseSensitive row p⟩

/-- A predicate with every kind of part, whose columns and texts look like parts of a predicate. -/
def lookalike : Predicate :=
  .and [
    .or [],
    .not (.or [.isNull "a\" IS NULL) OR (\"b" true, .and [.and [], .literal false]]),
    .compare "NOT" .eq (.param 0),
    .compare "id" .within (.list []),
    .and [.and [.compare "?" .notLike (.literal (.text "it's \\ (\"?\") AND 'x"))]],
    .between "where" (.literal (.int (-1))) (.param 1) true,
    .compare "" .notWithin (.list [.param 2, .literal .null, .literal (.bool true), .param 3])]

theorem rendered_predicate_evaluates_alike_lookalike :
    ((∀ c ∈ lookalike.columns, Sql.Quotable c) ∧
      (∀ v, Operand.literal v ∈ lookalike.operands → v.isPlain = true) ∧
      lookalike.isListed = true ∧ lookalike.indices = List.range' 0 4) ∧
    ∃ text q, lookalike.render Formatter.memory = .ok text ∧
      Sql.parsePredicate 0 text.toList = .ok (q, 4) ∧
      ∀ params caseSensitive row,
        q.holds params caseSensitive row = lookalike.holds params caseSensitive row := by
  have quotable : ∀ c ∈ lookalike.columns, Sql.Quotable c := by
    simp only [lookalike, columns, partColumns, Sql.Quotable]
    decide
  have plain : ∀ v, Operand.literal v ∈ lookalike.operands → v.isPlain = true := by
    intro v hv
    simp only [lookalike, operands, partOperands, leaves, itemLeaves, List.cons_append,
      List.nil_append, List.append_nil, List.mem_cons, List.not_mem_nil, reduceCtorEq, false_or,
      or_false, Operand.literal.injEq] at hv
    rcases hv with rfl | rfl | rfl | rfl <;> rfl
  have listed : lookalike.isListed = true := rfl
  have numbered : lookalike.indices = List.range' 0 4 := rfl
  exact ⟨⟨quotable, plain, listed, numbered⟩,
    rendered_predicate_evaluates_alike quotable plain listed numbered⟩

end Predicate

end Polystore
