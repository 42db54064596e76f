import Polystore.Sql.Pieces
import Polystore.Sql.Words
import Polystore.Text.Alphanumeric
import Polystore.Text.Basic

/-!
# The clauses of a statement

What stands behind the head of a statement is cut at the keywords of its clauses: `WHERE`,
`GROUP BY`, `ORDER BY`, `LIMIT` and `OFFSET`. A keyword counts only outside quotations and
parentheses, and where it is not part of a longer word.
-/

namespace Polystore.Sql

/-- Where a text stands between quotation marks: the mark that is open, and whether a backslash
stands in front. -/
structure Quoting where
  mark : Option Char
  escaped : Bool
deriving DecidableEq

/-- Outside all quotations. -/
def Quoting.outside : Quoting := ⟨none, false⟩

/-- Where the text stands behind one more character. A doubled mark closes the quotation and opens
it again. -/
def Quoting.after (q : Quoting) (c : Char) : Quoting :=
  match q.mark with
  | some m =>
    if q.escaped then ⟨some m, false⟩
    else if c == '\\' then ⟨some m, true⟩
    else if c == m then .outside
    else q
  | none => if isQuote c then ⟨some c, false⟩ else q

/-- Where a text stands while its clauses are looked for. -/
structure Standing where
  quoting : Quoting
  /-- The open parentheses, less the closed ones. -/
  depth : Int
  /-- Whether the character in front belongs to a word. -/
  inWord : Bool

/-- In front of a text. -/
def Standing.start : Standing := ⟨.outside, 0, false⟩

/-- Where the text stands behind one more character. -/
def Standing.after (s : Standing) (c : Char) : Standing :=
  { quoting := s.quoting.after c
    depth :=
      if s.quoting.mark.isSome then s.depth
      else if c == '(' then s.depth + 1
      else if c == ')' then s.depth - 1
      else s.depth
    inWord := Text.isAlphanumeric c || c == '_' }

/-- The keywords of clauses. -/
def clauseKeywords : List (List String) :=
  [["where"], ["group", "by"], ["order", "by"], ["limit"], ["offset"]]

/-- The text behind the first keyword that stands in front. -/
def afterKeyword (cs : List Char) : List (List String) → Option (List Char)
  | [] => none
  | words :: rest =>
    match afterWords words cs with
    | some tail => if endsWord tail then some tail else afterKeyword cs rest
    | none => afterKeyword cs rest

/-- The length of the keyword that stands in front of a text, if one stands there and counts. -/
def keywordLength (s : Standing) (cs : List Char) : Option Nat :=
  if s.quoting.mark.isNone && s.depth == 0 && !s.inWord then
    (afterKeyword cs clauseKeywords).map fun tail => cs.length - tail.length
  else none

/-- The words of a text. `current` holds the word so far, last character first. -/
def wordsFrom (current : List Char) : List Char → List (List Char)
  | [] => if current.isEmpty then [] else [current.reverse]
  | c :: rest =>
    if Text.isBlank c then
      if current.isEmpty then wordsFrom [] rest else current.reverse :: wordsFrom [] rest
    else wordsFrom (c :: current) rest

/-- The words of a text, in lower case. -/
def lowerWords (cs : List Char) : List String :=
  (wordsFrom [] cs).map fun w => Text.asciiLower (String.ofList w)

/-- The name of a clause: the words of its keyword with one blank between them. -/
def clauseName (keyword : List Char) : String := Text.joined " " (lowerWords keyword)

/-- The text up to the first clause, and the clauses with their names and bodies. The next `skip`
characters belong to a keyword and to nothing else. -/
def clausesFrom : Standing → Nat → List Char → List Char × List (String × List Char)
  | _, _, [] => ([], [])
  | s, skip + 1, c :: rest => clausesFrom (s.after c) skip rest
  | s, 0, c :: rest =>
    match keywordLength s (c :: rest) with
    | some n =>
      let (body, clauses) := clausesFrom (s.after c) (n - 1) rest
      ([], (clauseName ((c :: rest).take n), body) :: clauses)
    | none =>
      let (head, clauses) := clausesFrom (s.after c) 0 rest
      (c :: head, clauses)

/-- The text in front of the clauses, and the clauses, without the blanks around them. -/
def splitClauses (tail : List Char) : List Char × List (String × List Char) :=
  let (head, clauses) := clausesFrom .start 0 tail
  (Text.trim head, clauses.map fun c => (c.1, Text.trim c.2))

end Polystore.Sql
