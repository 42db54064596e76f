import Polystore.Proofs.Condition.Columns
import Polystore.Sql.Where
import Polystore.Statement.Render

/-!
# Predicates as they are read back

A predicate does not read back as itself from its text. A row of terms groups to the left, so that
conjunctions that stand first in a conjunction melt into it; a conjunction of one part reads as that
part and one of no parts as a constant, and so does membership in an empty list. What is read back
still evaluates to the same, errors included, and it reads the same columns unless a list was empty.
-/

namespace Polystore

theorem Operand.eq_of_isEmptyList {o : Operand} (h : o.isEmptyList = true) : o = .list [] := by
  unfold isEmptyList at h
  split at h
  · rfl
  · cases h

namespace Predicate

/-- Predicates joined one after the other: `true` for `AND` and `false` for `OR`. -/
def joinAll (conjunction : Bool) : List Predicate → Predicate
  | [] => .literal conjunction
  | p :: rest => rest.foldl (Sql.Reader.join conjunction) p

mutual

/-- The predicate as it is read back from its text. -/
def reread : Predicate → Predicate
  | .compare column op operand =>
    if op == .within && operand.isEmptyList then .literal false
    else if op == .notWithin && operand.isEmptyList then .literal true
    else .compare column op operand
  | .isNull column negated => .isNull column negated
  | .between column low high negated => .between column low high negated
  | .and parts => joinAll true (rereadParts parts)
  | .or parts => joinAll false (rereadParts parts)
  | .not inner => .not (reread inner)
  | .literal truth => .literal truth

/-- The parts of a predicate as they are read back. -/
def rereadParts : List Predicate → List Predicate
  | [] => []
  | p :: rest => reread p :: rereadParts rest

end

/-! ## Evaluation -/

/-- One outcome, and another one if the first leaves it open. -/
def inTurn (conjunction : Bool) (x y : Outcome Bool) : Outcome Bool :=
  x >>= fun b => if b = conjunction then y else .ok b

theorem inTurn_assoc (conjunction : Bool) (x y z : Outcome Bool) :
    inTurn conjunction (inTurn conjunction x y) z =
      inTurn conjunction x (inTurn conjunction y z) := by
  cases x with
  | error e => rfl
  | ok b =>
    show inTurn conjunction (if b = conjunction then y else .ok b) z =
      if b = conjunction then inTurn conjunction y z else .ok b
    by_cases h : b = conjunction
    · rw [if_pos h, if_pos h]
    · rw [if_neg h, if_neg h]
      show (if b = conjunction then z else .ok b) = _
      rw [if_neg h]

theorem inTurn_ok (conjunction : Bool) (x : Outcome Bool) :
    inTurn conjunction x (.ok conjunction) = x := by
  cases x with
  | error e => rfl
  | ok b =>
    show (if b = conjunction then Except.ok conjunction else Except.ok b) = _
    by_cases h : b = conjunction
    · rw [if_pos h, h]
    · rw [if_neg h]

variable (params : List Value) (caseSensitive : Bool) (row : Row)

/-- What the parts of a conjunction or of a disjunction come to. -/
def partsHold (conjunction : Bool) (ps : List Predicate) : Outcome Bool :=
  match conjunction with
  | true => allHold params caseSensitive row ps
  | false => anyHolds params caseSensitive row ps

theorem partsHold_nil (conjunction : Bool) :
    partsHold params caseSensitive row conjunction [] = .ok conjunction := by
  cases conjunction <;> rfl

theorem partsHold_cons (conjunction : Bool) (p : Predicate) (ps : List Predicate) :
    partsHold params caseSensitive row conjunction (p :: ps) =
      inTurn conjunction (holds params caseSensitive row p)
        (partsHold params caseSensitive row conjunction ps) := by
  cases conjunction with
  | true =>
    rw [partsHold, allHold, inTurn]
    cases holds params caseSensitive row p with
    | error e => rfl
    | ok b => cases b <;> rfl
  | false =>
    rw [partsHold, anyHolds, inTurn]
    cases holds params caseSensitive row p with
    | error e => rfl
    | ok b => cases b <;> rfl

theorem partsHold_append (conjunction : Bool) (ps qs : List Predicate) :
    partsHold params caseSensitive row conjunction (ps ++ qs) =
      inTurn conjunction (partsHold params caseSensitive row conjunction ps)
        (partsHold params caseSensitive row conjunction qs) := by
  induction ps with
  | nil =>
    rw [partsHold_nil, List.nil_append]
    show _ = if conjunction = conjunction then _ else _
    rw [if_pos rfl]
  | cons p ps ih => rw [List.cons_append, partsHold_cons, partsHold_cons, ih, inTurn_assoc]

theorem partsHold_pair (conjunction : Bool) (p q : Predicate) :
    partsHold params caseSensitive row conjunction [p, q] =
      inTurn conjunction (holds params caseSensitive row p) (holds params caseSensitive row q) := by
  rw [partsHold_cons, partsHold_cons, partsHold_nil, inTurn_ok]

/-- Joining evaluates one predicate after the other, also where it melts them. -/
theorem holds_join (conjunction : Bool) (left right : Predicate) :
    holds params caseSensitive row (Sql.Reader.join conjunction left right) =
      inTurn conjunction (holds params caseSensitive row left)
        (holds params caseSensitive row right) := by
  have pair := partsHold_pair params caseSensitive row conjunction left right
  cases conjunction with
  | true =>
    cases left with
    | and parts =>
      show partsHold params caseSensitive row true (parts ++ [right]) = _
      rw [partsHold_append, partsHold_cons, partsHold_nil, inTurn_ok]
      rfl
    | _ => exact pair
  | false =>
    cases left with
    | or parts =>
      show partsHold params caseSensitive row false (parts ++ [right]) = _
      rw [partsHold_append, partsHold_cons, partsHold_nil, inTurn_ok]
      rfl
    | _ => exact pair

theorem holds_foldl_join (conjunction : Bool) (joined : Predicate) (ps : List Predicate) :
    holds params caseSensitive row (ps.foldl (Sql.Reader.join conjunction) joined) =
      inTurn conjunction (holds params caseSensitive row joined)
        (partsHold params caseSensitive row conjunction ps) := by
  induction ps generalizing joined with
  | nil => rw [List.foldl_nil, partsHold_nil, inTurn_ok]
  | cons p ps ih => rw [List.foldl_cons, ih, holds_join, inTurn_assoc, partsHold_cons]

theorem holds_joinAll (conjunction : Bool) (ps : List Predicate) :
    holds params caseSensitive row (joinAll conjunction ps) =
      partsHold params caseSensitive row conjunction ps := by
  cases ps with
  | nil => rw [partsHold_nil]; rfl
  | cons p ps => rw [joinAll, holds_foldl_join, partsHold_cons]

mutual

/-- What is read back evaluates to the same, errors included. -/
theorem holds_reread (p : Predicate) :
    holds params caseSensitive row (reread p) = holds params caseSensitive row p := by
  cases p with
  | compare column op operand =>
    rw [reread]
    split
    · rename_i empty
      rw [Bool.and_eq_true] at empty
      obtain rfl : op = .within := beq_iff_eq.mp empty.1
      obtain rfl := Operand.eq_of_isEmptyList empty.2
      rfl
    · split
      · rename_i empty
        rw [Bool.and_eq_true] at empty
        obtain rfl : op = .notWithin := beq_iff_eq.mp empty.1
        obtain rfl := Operand.eq_of_isEmptyList empty.2
        rfl
      · rfl
  | isNull column negated => rfl
  | between column low high negated => rfl
  | and parts => rw [reread, holds_joinAll, partsHold_rereadParts]; rfl
  | or parts => rw [reread, holds_joinAll, partsHold_rereadParts]; rfl
  | not inner => rw [reread, holds, holds, holds_reread inner]
  | literal truth => rfl

theorem partsHold_rereadParts (conjunction : Bool) (ps : List Predicate) :
    partsHold params caseSensitive row conjunction (rereadParts ps) =
      partsHold params caseSensitive row conjunction ps := by
  cases ps with
  | nil => rfl
  | cons p rest =>
    rw [rereadParts, partsHold_cons, partsHold_cons, holds_reread p, partsHold_rereadParts]

end

/-! ## Columns -/

mutual

/-- No column of the predicate is compared with an empty list. -/
def filled : Predicate → Bool
  | .compare _ _ operand => !operand.isEmptyList
  | .and parts => partsFilled parts
  | .or parts => partsFilled parts
  | .not inner => filled inner
  | .isNull _ _ => true
  | .between _ _ _ _ => true
  | .literal _ => true

/-- No column of the parts is compared with an empty list. -/
def partsFilled : List Predicate → Bool
  | [] => true
  | p :: rest => filled p && partsFilled rest

end

/-- What is listed part by part is listed in the same order when predicates are joined, whether
joining melts them or not. -/
theorem flatMap_join {α : Type} {f : Predicate → List α} (ofAnd : ∀ ps, f (.and ps) = ps.flatMap f)
    (ofOr : ∀ ps, f (.or ps) = ps.flatMap f) (conjunction : Bool) (left right : Predicate) :
    f (Sql.Reader.join conjunction left right) = f left ++ f right := by
  have pair : [left, right].flatMap f = f left ++ f right := by simp
  have behind (parts : List Predicate) :
      (parts ++ [right]).flatMap f = parts.flatMap f ++ f right := by simp
  cases conjunction with
  | true =>
    cases left with
    | and parts =>
      calc
        f (.and (parts ++ [right])) = (parts ++ [right]).flatMap f := ofAnd _
        _ = parts.flatMap f ++ f right := behind parts
        _ = f (.and parts) ++ f right := by rw [ofAnd]
    | _ => exact (ofAnd _).trans pair
  | false =>
    cases left with
    | or parts =>
      calc
        f (.or (parts ++ [right])) = (parts ++ [right]).flatMap f := ofOr _
        _ = parts.flatMap f ++ f right := behind parts
        _ = f (.or parts) ++ f right := by rw [ofOr]
    | _ => exact (ofOr _).trans pair

theorem columns_join (conjunction : Bool) (left right : Predicate) :
    columns (Sql.Reader.join conjunction left right) = columns left ++ columns right :=
  flatMap_join partColumns_eq_flatMap partColumns_eq_flatMap conjunction left right

theorem columns_joinAll (conjunction : Bool) (ps : List Predicate) :
    columns (joinAll conjunction ps) = partColumns ps := by
  cases ps with
  | nil => rfl
  | cons p ps =>
    rw [joinAll, partColumns]
    induction ps generalizing p with
    | nil => rw [List.foldl_nil, partColumns, List.append_nil]
    | cons q ps ih => rw [List.foldl_cons, ih, columns_join, partColumns, List.append_assoc]

mutual

/-- What is read back reads the same columns in the same order. -/
theorem columns_reread {p : Predicate} (h : filled p = true) :
    columns (reread p) = columns p := by
  cases p with
  | compare column op operand =>
    have notEmpty : operand.isEmptyList = false := by
      rw [filled] at h
      simpa using h
    rw [reread, notEmpty, Bool.and_false, Bool.and_false]
    rfl
  | isNull column negated => rfl
  | between column low high negated => rfl
  | and parts => rw [reread, columns_joinAll, partColumns_rereadParts h]; rfl
  | or parts => rw [reread, columns_joinAll, partColumns_rereadParts h]; rfl
  | not inner =>
    rw [filled] at h
    rw [reread, columns, columns, columns_reread h]
  | literal truth => rfl

theorem partColumns_rereadParts {ps : List Predicate} (h : partsFilled ps = true) :
    partColumns (rereadParts ps) = partColumns ps := by
  cases ps with
  | nil => rfl
  | cons p rest =>
    rw [partsFilled, Bool.and_eq_true] at h
    rw [rereadParts, partColumns, partColumns, columns_reread h.1, partColumns_rereadParts h.2]

end

end Predicate

end Polystore
