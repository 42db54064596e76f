import Polystore.Sql.Literal

/-!
# The tokens of a predicate

The text of a predicate is made of words, quotations, parentheses, commas and symbols. A word ends
at a blank and at everything that another token starts with; a symbol is a run of the characters
`=`, `<`, `>` and `!`.
-/

namespace Polystore.Sql

/-- A token of a predicate. -/
inductive Token where
  | word (s : String)
  /-- The content of a quotation. -/
  | quoted (s : String)
  | leftParen
  | rightParen
  | comma
  | symbol (s : String)
deriving DecidableEq

namespace Token

/-- The token in messages. -/
def describe : Token → String
  | .word s => s
  | .quoted s => "'" ++ s ++ "'"
  | .leftParen => "("
  | .rightParen => ")"
  | .comma => ","
  | .symbol s => s

/-- Whether the token is a keyword. Keywords are not quoted; the case of their letters does not
count. -/
def isKeyword (keyword : String) : Token → Bool
  | .word s => Text.asciiLower s == Text.asciiLower keyword
  | _ => false

end Token

/-- Whether symbols are made of the character. -/
def isSymbolChar (c : Char) : Bool := c == '=' || c == '<' || c == '>' || c == '!'

/-- Whether words are made of the character. -/
def isWordChar (c : Char) : Bool :=
  !Text.isBlank c && !isQuote c && !isSymbolChar c && c != '(' && c != ')' && c != ','

/-- What a text is in the middle of; the characters so far are held last one first. -/
inductive Reading where
  | between
  | word (seen : List Char)
  | symbol (seen : List Char)
  | quotation (q : Char) (seen : List Char)

namespace Reading

/-- The tokens that are complete when something else begins or the text ends. -/
def finished : Reading → List Token
  | .word seen => [.word (String.ofList seen.reverse)]
  | .symbol seen => [.symbol (String.ofList seen.reverse)]
  | _ => []

/-- The token of a quotation whose end is the last character seen. -/
def quotedToken (seen : List Char) : Token :=
  .quoted (String.ofList ((unquote seen.reverse).getD []))

/-- What a character begins: the tokens that it is by itself, and what it leaves open. -/
def begun (c : Char) : List Token × Reading :=
  if Text.isBlank c then ([], .between)
  else if c == '(' then ([.leftParen], .between)
  else if c == ')' then ([.rightParen], .between)
  else if c == ',' then ([.comma], .between)
  else if isQuote c then ([], .quotation c [c])
  else if isSymbolChar c then ([], .symbol [c])
  else ([], .word [c])

/-- The same reading with one more character, if it goes on with it. -/
def extended (c : Char) : Reading → Option Reading
  | .word seen => if isWordChar c then some (.word (c :: seen)) else none
  | .symbol seen => if isSymbolChar c then some (.symbol (c :: seen)) else none
  | _ => none

end Reading

/-- The tokens of a text in the middle of something; `none` when a quotation has no end. -/
def tokensFrom : Reading → List Char → Option (List Token)
  | .quotation _ _, [] => none
  | reading, [] => some reading.finished
  | .quotation q seen, c :: rest =>
    if c == '\\' then
      match rest with
      | d :: rest => tokensFrom (.quotation q (d :: c :: seen)) rest
      | [] => none
    else if c == q then
      match rest with
      | d :: rest =>
        if d == q then tokensFrom (.quotation q (d :: c :: seen)) rest
        else (tokensFrom .between (d :: rest)).map (Reading.quotedToken (c :: seen) :: ·)
      | [] => some [Reading.quotedToken (c :: seen)]
    else tokensFrom (.quotation q (c :: seen)) rest
  | reading, c :: rest =>
    match reading.extended c with
    | some next => tokensFrom next rest
    | none =>
      let (tokens, next) := Reading.begun c
      (tokensFrom next rest).map (reading.finished ++ tokens ++ ·)

/-- The tokens of a text. -/
def tokenize (text : List Char) : Outcome (List Token) :=
  match tokensFrom .between text with
  | some tokens => .ok tokens
  | none => .error (SyntaxError.unterminatedString (String.ofList text))

end Polystore.Sql
