import Polystore.Like
import Polystore.Statement.Basic
import Polystore.Value.Compare

/-!
# When a predicate holds

A predicate is evaluated on one row under given parameters. A column that the row lacks reads as
`null`. The parts of a conjunction are evaluated from the left up to the first that does not hold,
those of a disjunction up to the first that does; what comes behind is not looked at, so that a
missing parameter there is no error.
-/

namespace Polystore

namespace Value

/-- The text of a value that patterns are matched with; `null` has none. -/
def likeText (v : Value) : Option String := if v.isNull then none else some v.keyText

/-- Whether the order of two values is there and accepted. -/
def isOrdered (accept : Ordering → Bool) (actual operand : Value) : Bool :=
  match actual.compare operand with
  | some o => accept o
  | none => false

/-- Whether a value matches the pattern that another value is; `none` when one of them is `null`. -/
def likeMatch (caseSensitive : Bool) (actual pattern : Value) : Option Bool :=
  match actual.likeText, pattern.likeText with
  | some s, some p => some (Like.isMatch caseSensitive p s)
  | _, _ => none

end Value

namespace Comparison

/-- Whether a comparison holds between the value of a column and an operand. Nothing is like `null`
and `null` is not unlike anything. -/
def holds (caseSensitive : Bool) (op : Comparison) (actual operand : Value) : Outcome Bool :=
  match op with
  | .eq => .ok (actual.looseEq operand)
  | .notEq => .ok (!actual.looseEq operand)
  | .gt => .ok (actual.isOrdered Ordering.isGT operand)
  | .gte => .ok (actual.isOrdered Ordering.isGE operand)
  | .lt => .ok (actual.isOrdered Ordering.isLT operand)
  | .lte => .ok (actual.isOrdered Ordering.isLE operand)
  | .like => .ok ((actual.likeMatch caseSensitive operand).getD false)
  | .notLike => .ok (((actual.likeMatch caseSensitive operand).map (!·)).getD false)
  | .within =>
    match operand.asList with
    | some items => .ok (items.any actual.looseEq)
    | none => .error (ExecutionError.notAnArray op.spelling)
  | .notWithin =>
    match operand.asList with
    | some items => .ok (!items.any actual.looseEq)
    | none => .error (ExecutionError.notAnArray op.spelling)

end Comparison

namespace Predicate

mutual

/-- Whether a predicate holds of a row. -/
def holds (params : List Value) (caseSensitive : Bool) (row : Row) : Predicate → Outcome Bool
  | .compare column op operand => do
    let v ← operand.resolve params
    op.holds caseSensitive (row.at column) v
  | .isNull column negated => .ok ((row.at column).isNull != negated)
  | .between column low high negated =>
    let actual := row.at column
    if actual.isNull then .ok false
    else do
      let lowest ← low.resolve params
      if actual.isOrdered Ordering.isGE lowest then
        let highest ← high.resolve params
        .ok (actual.isOrdered Ordering.isLE highest != negated)
      else .ok negated
  | .and parts => allHold params caseSensitive row parts
  | .or parts => anyHolds params caseSensitive row parts
  | .not inner => (holds params caseSensitive row inner).map (!·)
  | .literal truth => .ok truth

/-- Whether every part holds, up to the first that does not. -/
def allHold (params : List Value) (caseSensitive : Bool) (row : Row) :
    List Predicate → Outcome Bool
  | [] => .ok true
  | p :: rest => do
    if ← holds params caseSensitive row p then allHold params caseSensitive row rest
    else .ok false

/-- Whether some part holds, up to the first that does. -/
def anyHolds (params : List Value) (caseSensitive : Bool) (row : Row) :
    List Predicate → Outcome Bool
  | [] => .ok false
  | p :: rest => do
    if ← holds params caseSensitive row p then .ok true
    else anyHolds params caseSensitive row rest

end

mutual

/-- The columns that a predicate reads, from left to right. -/
def columns : Predicate → List String
  | .compare column _ _ => [column]
  | .isNull column _ => [column]
  | .between column _ _ _ => [column]
  | .and parts => partColumns parts
  | .or parts => partColumns parts
  | .not inner => columns inner
  | .literal _ => []

/-- The columns that the parts of a predicate read. -/
def partColumns : List Predicate → List String
  | [] => []
  | p :: rest => columns p ++ partColumns rest

end

end Predicate

/-- Whether a row meets a filter; every row meets a filter that is not there. -/
def meets (params : List Value) (caseSensitive : Bool) (filter : Option Predicate) (row : Row) :
    Outcome Bool :=
  match filter with
  | none => .ok true
  | some p => p.holds params caseSensitive row

end Polystore
