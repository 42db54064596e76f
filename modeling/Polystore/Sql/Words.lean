import Polystore.Text.Basic
import Polystore.Text.Fold
import Polystore.Text.Word

/-!
# Keywords and identifiers

What the heads of statements are made of. Keywords are told by their letters, the case aside, and
stand apart by blanks. An identifier stands in double quotes, in backquotes or in brackets, or is
bare: a letter or `_` and then letters, digits, `_` and `$`.

Every function here takes what it looks for off the front of a text and gives the rest.
-/

namespace Polystore.Sql

/-- The text behind a word. -/
def afterWord : List Char → List Char → Option (List Char)
  | [], cs => some cs
  | w :: word, c :: cs => if Text.sameFold w c then afterWord word cs else none
  | _ :: _, [] => none

/-- The text behind at least one blank and all blanks that follow. -/
def afterBlanks : List Char → Option (List Char)
  | c :: cs => if Text.isBlank c then some (Text.trimStart cs) else none
  | [] => none

/-- The text behind words with blanks between them. -/
def afterWords : List String → List Char → Option (List Char)
  | [], cs => some cs
  | [w], cs => afterWord w.toList cs
  | w :: rest, cs => ((afterWord w.toList cs).bind afterBlanks).bind (afterWords rest)

/-- The text behind words and the blanks that follow them. -/
def afterPhrase (words : List String) (cs : List Char) : Option (List Char) :=
  (afterWords words cs).bind afterBlanks

/-- The text behind one character, with blanks in front of it. -/
def afterMark (c : Char) (cs : List Char) : Option (List Char) :=
  match Text.trimStart cs with
  | d :: rest => if d == c then some rest else none
  | [] => none

/-! ## Identifiers -/

/-- Whether a bare identifier can start with the character. -/
def isNameStart (c : Char) : Bool := c == '_' || (Text.fold c).isLower

/-- Whether a bare identifier can go on with the character. -/
def isNamePart (c : Char) : Bool := isNameStart c || c.isDigit || c == '$'

/-- The rest of a token in double quotes, behind the characters in `seen` (last one first). Quotes
are doubled inside; when the end is missing, the token ends with the first quote of the last pair,
which is `fallback`. -/
def takeDoubleQuoted (seen : List Char) (fallback : Option (List Char × List Char)) :
    List Char → Option (List Char × List Char)
  | [] => fallback
  | [c] => if c == '\x22' then some ((c :: seen).reverse, []) else fallback
  | c :: d :: rest =>
    if c == '\x22' then
      if d == '\x22' then
        takeDoubleQuoted (d :: c :: seen) (some ((c :: seen).reverse, d :: rest)) rest
      else some ((c :: seen).reverse, d :: rest)
    else takeDoubleQuoted (c :: seen) fallback (d :: rest)

/-- A token up to a closing character, behind an opening one. -/
def takeEnclosed (opening closing : Char) (cs : List Char) : Option (List Char × List Char) :=
  match cs.dropWhile (· ≠ closing) with
  | c :: rest => some (opening :: cs.takeWhile (· ≠ closing) ++ [c], rest)
  | [] => none

/-- An identifier with its quotes, and the text behind it. -/
def takeIdentifier : List Char → Option (List Char × List Char)
  | [] => none
  | c :: rest =>
    if c == '\x22' then takeDoubleQuoted [c] none rest
    else if c == '\x60' then takeEnclosed c '\x60' rest
    else if c == '[' then takeEnclosed c ']' rest
    else if isNameStart c then some (c :: rest.takeWhile isNamePart, rest.dropWhile isNamePart)
    else none

/-! ## Phrases anywhere in a text -/

/-- Whether a text goes on with something other than a word character, or ends. -/
def endsWord : List Char → Bool
  | [] => true
  | c :: _ => !Text.isWord c

/-- Whether a text starts with words, apart from what follows. -/
def startsWithPhrase (words : List String) (cs : List Char) : Bool :=
  match afterWords words cs with
  | some rest => endsWord rest
  | none => false

/-- Whether words stand somewhere in a text, apart from what surrounds them. `apart` says whether
a word can begin here. -/
def hasPhraseFrom (words : List String) (apart : Bool) : List Char → Bool
  | [] => false
  | c :: rest =>
    (apart && startsWithPhrase words (c :: rest)) ||
      hasPhraseFrom words (!Text.isWord c) rest

/-- Whether words stand somewhere in a text. -/
def hasPhrase (words : List String) (cs : List Char) : Bool := hasPhraseFrom words true cs

/-! ## Bodies in parentheses -/

/-- The text between an opening parenthesis, with blanks in front of it, and the closing one at the
end of the text. -/
def parenthesized (cs : List Char) : Option (List Char) :=
  match afterMark '(' cs with
  | some rest => if rest.getLast? == some ')' then some rest.dropLast else none
  | none => none

end Polystore.Sql
