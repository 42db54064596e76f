import Polystore.Sql.Where

/-!
# The grammar of predicates

A predicate is a row of terms with `AND` and `OR` between them, a term is `NOT` and a term, a
predicate in parentheses or a comparison. The relations here say of a list of tokens what it derives
and what it means; numbers before and behind are those of the next parameter. Main statement: on
tokens that derive a predicate the reader finds this predicate and stops behind them, whatever
follows, unless what follows would join on.
-/

namespace Polystore.Sql

/-! ## Derivations -/

/-- A token stands for a value: a literal, or the next parameter. -/
inductive IsValue : Nat → Token → Operand → Nat → Prop
  | word {n : Nat} {s : String} {v : Value} :
    parseValue s.toList = some v → IsValue n (.word s) (.literal v) n
  | param {n : Nat} {s : String} :
    parseValue s.toList = none → IsValue n (.word s) (.param n) (n + 1)
  | quoted {n : Nat} (s : String) : IsValue n (.quoted s) (.literal (.text s)) n

/-- Tokens stand for values with commas between them. -/
inductive AreValues : Nat → List Token → List Operand → Nat → Prop
  | one {a b : Nat} {t : Token} {o : Operand} : IsValue a t o b → AreValues a [t] [o] b
  | more {a b c : Nat} {t : Token} {o : Operand} {ts : List Token} {os : List Operand} :
    IsValue a t o b → AreValues b ts os c → AreValues a (t :: .comma :: ts) (o :: os) c

/-- Tokens stand for a list of values in parentheses. -/
inductive IsList : Nat → List Token → Operand → Nat → Prop
  | empty (a : Nat) : IsList a [.leftParen, .rightParen] (.list []) a
  | filled {a b : Nat} {ts : List Token} {os : List Operand} :
    AreValues a ts os b → IsList a (.leftParen :: ts ++ [.rightParen]) (.list os) b

/-- A token stands for a column, and perhaps for a number as well. -/
inductive IsColumn : Token → String → Option Value → Prop
  | word {s : String} :
    (Token.word s).isKeyword "NOT" = false → IsColumn (.word s) s (Reader.numberOf s)
  | quoted (s : String) : IsColumn (.quoted s) s none

/-- Tokens that may or may not hold the keyword `NOT`. -/
inductive IsNegation : Bool → List Token → Prop
  | absent : IsNegation false []
  | present {t : Token} : t.isKeyword "NOT" = true → IsNegation true [t]

/-- Tokens stand for a comparison. -/
inductive IsComparison : Nat → List Token → Predicate → Nat → Prop
  | symbol {a b : Nat} {t v : Token} {name s : String} {number : Option Value} {op : Comparison}
    {o : Operand} :
    IsColumn t name number → Comparison.ofSymbol? s = some op → IsValue a v o b →
    (number = none ∨ ∀ right, o ≠ .literal right) →
    IsComparison a [t, .symbol s, v] (.compare name op o) b
  | settled {a b : Nat} {t v : Token} {name s : String} {op : Comparison} {left right : Value}
    {truth : Bool} :
    IsColumn t name (some left) → Comparison.ofSymbol? s = some op →
    IsValue a v (.literal right) b → op.holds false left right = .ok truth →
    IsComparison a [t, .symbol s, v] (.literal truth) b
  | null {a : Nat} {t is null : Token} {name : String} {number : Option Value} {negated : Bool}
    {nots : List Token} :
    IsColumn t name number → is.isKeyword "IS" = true → IsNegation negated nots →
    null.isKeyword "NULL" = true →
    IsComparison a (t :: is :: nots ++ [null]) (.isNull name negated) a
  | like {a b : Nat} {t like v : Token} {name : String} {number : Option Value} {negated : Bool}
    {nots : List Token} {o : Operand} :
    IsColumn t name number → IsNegation negated nots → like.isKeyword "LIKE" = true →
    IsValue a v o b →
    IsComparison a (t :: nots ++ [like, v])
      (.compare name (if negated then .notLike else .like) o) b
  | within {a b : Nat} {t within : Token} {name : String} {number : Option Value} {negated : Bool}
    {nots ts : List Token} {o : Operand} :
    IsColumn t name number → IsNegation negated nots → within.isKeyword "IN" = true →
    IsList a ts o b →
    IsComparison a (t :: nots ++ within :: ts)
      (.compare name (if negated then .notWithin else .within) o) b
  | between {a b c : Nat} {t between v and w : Token} {name : String} {number : Option Value}
    {negated : Bool} {nots : List Token} {low high : Operand} :
    IsColumn t name number → IsNegation negated nots → between.isKeyword "BETWEEN" = true →
    IsValue a v low b → and.isKeyword "AND" = true → IsValue b w high c →
    IsComparison a (t :: nots ++ [between, v, and, w]) (.between name low high negated) c

/-- What is read: a term, a whole predicate, or the terms that follow what is joined already. -/
inductive Part where
  | term
  | whole
  | more (joined : Predicate)

/-- A token joins terms: `true` for `AND` and `false` for `OR`. -/
inductive Joins : Token → Bool → Prop
  | and {t : Token} : t.isKeyword "AND" = true → Joins t true
  | or {t : Token} : t.isKeyword "OR" = true → Joins t false

/-- Tokens derive a predicate. -/
inductive Derives : Part → Nat → List Token → Predicate → Nat → Prop
  | comparison {a b : Nat} {ts : List Token} {p : Predicate} :
    IsComparison a ts p b → Derives .term a ts p b
  | group {a b : Nat} {ts : List Token} {p : Predicate} :
    Derives .whole a ts p b → Derives .term a (.leftParen :: ts ++ [.rightParen]) p b
  | not {a b : Nat} {t : Token} {ts : List Token} {p : Predicate} :
    t.isKeyword "NOT" = true → Derives .term a ts p b → Derives .term a (t :: ts) (.not p) b
  | whole {a b c : Nat} {ts us : List Token} {p q : Predicate} :
    Derives .term a ts p b → Derives (.more p) b us q c → Derives .whole a (ts ++ us) q c
  | done (a : Nat) (p : Predicate) : Derives (.more p) a [] p a
  | more {a b c : Nat} {t : Token} {ts us : List Token} {p q r : Predicate} {conjunction : Bool} :
    Joins t conjunction → Derives .term a ts q b →
    Derives (.more (Reader.join conjunction p q)) b us r c →
    Derives (.more p) a (t :: ts ++ us) r c

end Polystore.Sql
