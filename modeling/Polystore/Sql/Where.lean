import Polystore.Sql.Token
import Polystore.Statement.Holds

/-!
# Reading predicates

A predicate is a row of terms with `AND` and `OR` between them, which bind alike and group to the
left. A term is a comparison, a predicate in parentheses, or `NOT` and a term. Question marks are
numbered as parameters from the left.

A comparison has a column in front: any word, or a quotation. Where a number stands there and a
literal behind, the comparison is settled at once.
-/

namespace Polystore.Sql

/-- What is left to read. -/
structure Remaining where
  tokens : List Token
  /-- How many tokens have been read. -/
  position : Nat
  /-- The number of the next parameter. -/
  nextParam : Nat

/-- Something that reads tokens from the front and may fail. -/
abbrev Reader (α : Type) := StateT Remaining Outcome α

namespace Reader

/-- The token in front, which stays there. -/
def peek : Reader (Option Token) := do return (← get).tokens.head?

/-- The token in front, which is gone then. -/
def next (expected : String) : Reader Token := do
  let s ← get
  match s.tokens with
  | t :: rest =>
    set { s with tokens := rest, position := s.position + 1 }
    pure t
  | [] => throw (.shape <| .unexpectedEnd expected)

/-- The error of a token that cannot stand here. -/
def unexpected {α : Type} (t : Token) : Reader α := do
  throw (.shape <| .unexpectedToken t.describe (← get).position)

/-- Whether a keyword stands in front, which is gone then. -/
def eatKeyword (keyword : String) : Reader Bool := do
  let s ← get
  match s.tokens with
  | t :: rest =>
    if t.isKeyword keyword then
      set { s with tokens := rest, position := s.position + 1 }
      pure true
    else pure false
  | [] => pure false

/-- A keyword must stand in front. -/
def expectKeyword (keyword : String) : Reader Unit := do
  let t ← next keyword
  if t.isKeyword keyword then pure () else unexpected t

/-- The number of a parameter that has none yet. -/
def freshParam : Reader Nat := do
  let s ← get
  set { s with nextParam := s.nextParam + 1 }
  pure s.nextParam

/-- The place of a value: a word or a quotation. -/
def operand : Reader Operand := do
  match ← next "value" with
  | .word s =>
    match parseValue s.toList with
    | some v => pure (.literal v)
    | none => return .param (← freshParam)
  | .quoted s => pure (.literal (.text s))
  | t => unexpected t

/-- The places of a list up to its closing parenthesis; `fuel` bounds their number. -/
def listItems : Nat → Reader (List Operand)
  | 0 => throw (.shape <| .unexpectedEnd ")")
  | fuel + 1 => do
    let item ← operand
    match ← next ")" with
    | .comma => return item :: (← listItems fuel)
    | .rightParen => pure [item]
    | t => unexpected t

/-- A list of places in parentheses. -/
def list : Reader Operand := do
  match ← next "(" with
  | .leftParen =>
    if (← peek) = some .rightParen then
      let _ ← next ")"
      pure (.list [])
    else
      return .list (← listItems ((← get).tokens.length + 1))
  | t => unexpected t

/-- The number that a word in the place of a column spells. -/
def numberOf (s : String) : Option Value :=
  match parseValue s.toList with
  | some (.int n) => some (.int n)
  | some (.float x) => some (.float x)
  | _ => none

/-- A comparison by a symbol. -/
def symbolComparison (column : String) (number : Option Value) (symbol : String) :
    Reader Predicate := do
  match Comparison.ofSymbol? symbol with
  | none => throw (.shape <| .unknownOperator symbol)
  | some op =>
    let value ← operand
    match number, value with
    -- with a number on the left and no parameter on the right no row can change the answer
    | some left, .literal right => return .literal (← op.holds false left right)
    | _, _ => pure (.compare column op value)

/-- A comparison by a word. -/
def wordComparison (column : String) (negated : Bool) (word : String) : Reader Predicate := do
  let is := fun keyword => (Token.word word).isKeyword keyword
  if is "IS" && !negated then
    let isNot ← eatKeyword "NOT"
    expectKeyword "NULL"
    pure (.isNull column isNot)
  else if is "LIKE" then
    return .compare column (if negated then .notLike else .like) (← operand)
  else if is "IN" then
    return .compare column (if negated then .notWithin else .within) (← list)
  else if is "BETWEEN" then
    let low ← operand
    expectKeyword "AND"
    let high ← operand
    pure (.between column low high negated)
  else throw (.shape <| .unknownOperator word)

/-- The column in front of a comparison, with the number that it spells. -/
def column : Reader (String × Option Value) := do
  match ← next "column" with
  | .word s => pure (s, numberOf s)
  | .quoted s => pure (s, none)
  | t => unexpected t

/-- A comparison. -/
def comparison : Reader Predicate := do
  let (name, number) ← column
  let negated ← eatKeyword "NOT"
  match ← next "operator" with
  | .symbol s =>
    if negated then unexpected (.symbol s) else symbolComparison name number s
  | .word s => wordComparison name negated s
  | t => unexpected t

/-- Two predicates joined; a conjunction on the left takes the right one up, and so does a
disjunction. -/
def join (conjunction : Bool) (left right : Predicate) : Predicate :=
  match conjunction, left with
  | true, .and parts => .and (parts ++ [right])
  | false, .or parts => .or (parts ++ [right])
  | true, _ => .and [left, right]
  | false, _ => .or [left, right]

/-- The word in front that joins terms: `some true` for `AND` and `some false` for `OR`. -/
def conjunction : Reader (Option Bool) := do
  if ← eatKeyword "AND" then pure (some true)
  else if ← eatKeyword "OR" then pure (some false)
  else pure none

/-- The error of parentheses that do not come in pairs. -/
def unbalanced {α : Type} (input : List Char) : Reader α :=
  throw (.shape <| .unbalancedParentheses (String.ofList input))

/-- A closing parenthesis must stand in front. -/
def expectRightParen (input : List Char) : Reader Unit := do
  match (← get).tokens with
  | .rightParen :: _ =>
    let _ ← next ")"
    pure ()
  | _ => unbalanced input

mutual

/-- A row of terms; `fuel` bounds how much is left to read. -/
def expression (input : List Char) : Nat → Reader Predicate
  | 0 => unbalanced input
  | fuel + 1 => do
    let first ← term input fuel
    moreTerms input fuel first

/-- The terms that follow the joined ones. -/
def moreTerms (input : List Char) : Nat → Predicate → Reader Predicate
  | 0, joined => pure joined
  | fuel + 1, joined => do
    match ← conjunction with
    | none => pure joined
    | some c =>
      let right ← term input fuel
      moreTerms input fuel (join c joined right)

/-- A term. -/
def term (input : List Char) : Nat → Reader Predicate
  | 0 => unbalanced input
  | fuel + 1 => do
    match ← peek with
    | some .leftParen =>
      let _ ← next "("
      let inner ← expression input fuel
      expectRightParen input
      pure inner
    | _ =>
      if ← eatKeyword "NOT" then return .not (← term input fuel)
      else comparison

end

/-- Nothing may be left to read. -/
def finish (input : List Char) : Reader Unit := do
  match ← peek with
  | none => pure ()
  | some .rightParen => unbalanced input
  | some t => unexpected t

/-- A whole predicate. -/
def predicate (input : List Char) : Reader Predicate := do
  let p ← expression input (2 * (← get).tokens.length + 2)
  finish input
  pure p

end Reader

/-- The predicate of a text whose first parameter has a given number, and the number of the
parameter behind its last. -/
def parsePredicate (first : Nat) (text : List Char) : Outcome (Predicate × Nat) := do
  let tokens ← tokenize text
  let (p, rest) ← (Reader.predicate text).run ⟨tokens, 0, first⟩
  .ok (p, rest.nextParam)

end Polystore.Sql
