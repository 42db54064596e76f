import Polystore.Column.Basic
import Polystore.Sql.Literal
import Polystore.Sql.Words

/-!
# Declarations of columns

A column is declared by its name, its type with an optional length, and modifiers: a default, the
primary key, distinct values, no `null`, counting up. The default is looked for first and taken out,
so that what it says is not mistaken for another modifier.
-/

namespace Polystore.Sql

/-- The error of a text that is no statement of a kind. -/
def invalidStatement (statement : String) (text : List Char) : Error :=
  SyntaxError.invalidStatement statement (String.ofList text)

/-! ## Types -/

/-- Whether a character is a letter of a type's name. -/
def isTypeLetter (c : Char) : Bool := (Text.fold c).isLower

/-- The text behind blanks and one of two words that belong to the name of a type. -/
def afterTypeWord (cs : List Char) : Option (List Char) :=
  (afterBlanks cs).bind fun rest =>
    (afterWord "precision".toList rest).or (afterWord "varying".toList rest)

/-- Decimal digits of any script, at least one, and the text behind them. -/
def takeAnyDigits (cs : List Char) : Option (List Char × List Char) :=
  let ds := cs.takeWhile Text.isDecimalDigit
  if ds.isEmpty then none else some (ds, cs.dropWhile Text.isDecimalDigit)

/-- A comma and digits, the second of two lengths, if they are there. -/
def skipSecondLength (cs : List Char) : List Char :=
  match (afterMark ',' cs).bind fun rest => takeAnyDigits (Text.trimStart rest) with
  | some (_, rest) => rest
  | none => cs

/-- The digits of a length in parentheses, and the text behind them. -/
def takeLength (cs : List Char) : Option (List Char × List Char) := do
  let rest ← afterMark '(' cs
  let (digits, rest) ← takeAnyDigits (Text.trimStart rest)
  let rest ← afterMark ')' (skipSecondLength rest)
  some (digits, rest)

/-- The name of a type, its length if it has one, and the text behind them. -/
def takeType (cs : List Char) : Option (List Char × Option UInt32 × List Char) :=
  let letters := cs.takeWhile isTypeLetter
  if letters.isEmpty then none
  else
    let afterLetters := cs.dropWhile isTypeLetter
    let rest := (afterTypeWord afterLetters).getD afterLetters
    let name := cs.take (cs.length - rest.length)
    match takeLength rest with
    | some (digits, tail) =>
      some (name, (Text.readNatBelow (2 ^ 32) digits).map UInt32.ofNat, tail)
    | none => some (name, none, Text.trimStart rest)

/-! ## Defaults -/

/-- The rest of a literal in single quotes, behind the characters in `seen` (last one first).
Backslashes take a character along and quotes are doubled; when the end is missing, the literal
ends with the first quote of the last pair, which is `fallback`. -/
def takeSingleQuoted (seen : List Char) (fallback : Option (List Char × List Char)) :
    List Char → Option (List Char × List Char)
  | [] => fallback
  | [c] => if c == '\x27' then some ((c :: seen).reverse, []) else fallback
  | c :: d :: rest =>
    if c == '\\' then takeSingleQuoted (d :: c :: seen) fallback rest
    else if c == '\x27' then
      if d == '\x27' then
        takeSingleQuoted (d :: c :: seen) (some ((c :: seen).reverse, d :: rest)) rest
      else some ((c :: seen).reverse, d :: rest)
    else takeSingleQuoted (c :: seen) fallback (d :: rest)

/-- The rest of a literal in double quotes, in which backslashes take a character along. -/
def takeEscapedQuoted (seen : List Char) : List Char → Option (List Char × List Char)
  | [] => none
  | c :: rest =>
    if c == '\\' then
      match rest with
      | d :: rest => takeEscapedQuoted (d :: c :: seen) rest
      | [] => none
    else if c == '\x22' then some ((c :: seen).reverse, rest)
    else takeEscapedQuoted (c :: seen) rest

/-- The literal of a default: a quotation, or else everything up to a blank. -/
def takeDefaultLiteral (cs : List Char) : Option (List Char × List Char) :=
  let plain := cs.takeWhile (!Text.isBlank ·)
  let bare := if plain.isEmpty then none else some (plain, cs.dropWhile (!Text.isBlank ·))
  match cs with
  | c :: rest =>
    if c == '\x27' then (takeSingleQuoted [c] none rest).or bare
    else if c == '\x22' then (takeEscapedQuoted [c] rest).or bare
    else bare
  | [] => none

/-- The first default among modifiers: the text in front of it, its literal, and the text behind.
`apart` says whether a word can begin here. -/
def findDefaultFrom (apart : Bool) (seen : List Char) :
    List Char → Option (List Char × List Char × List Char)
  | [] => none
  | c :: rest =>
    let here := if apart then (afterPhrase ["default"] (c :: rest)).bind takeDefaultLiteral else none
    match here with
    | some (literal, tail) => some (seen.reverse, literal, tail)
    | none => findDefaultFrom (!Text.isWord c) (c :: seen) rest

/-- The first default among modifiers, its literal set apart from them. -/
def takeDefault (modifiers : List Char) : Option (List Char × List Char) :=
  (findDefaultFrom true [] modifiers).map fun (before, literal, after) =>
    (literal, before ++ ' ' :: after)

/-! ## Columns -/

/-- A column with the modifiers that a text names. -/
def withModifiers (c : Column) (modifiers : List Char) : Column :=
  let c := if hasPhrase ["primary", "key"] modifiers then c.asPrimary else c
  let c := if hasPhrase ["unique"] modifiers then c.asUnique else c
  let c := if hasPhrase ["not", "null"] modifiers then c.notNull else c
  if hasPhrase ["auto_increment"] modifiers || hasPhrase ["autoincrement"] modifiers then c.counting
  else c

/-- The column of a type and modifiers. -/
def parseColumn (statement : String) (text : List Char) : Outcome Column :=
  match takeType (Text.trim text) with
  | none => .error (invalidStatement statement (Text.trim text))
  | some (name, length, modifiers) =>
    let plain := { Column.ofType (.ofDeclaredName (String.ofList name)) with length }
    match takeDefault modifiers with
    | none => .ok (withModifiers plain modifiers)
    | some (literal, others) =>
      match parseValue literal with
      | some v => .ok (withModifiers (plain.withDefault v) others)
      | none => .error (invalidStatement statement text)

/-- A name, and what stands behind it and a blank at least. -/
def takeNamed (cs : List Char) : Option (String × List Char) := do
  let (token, rest) ← takeIdentifier cs
  let tail ← afterBlanks rest
  if tail.isEmpty then none else some (nameOf token, tail)

/-- The named column that a text declares. -/
def parseColumnDef (statement : String) (text : List Char) : Outcome ColumnDef :=
  match takeNamed (Text.trim text) with
  | none => .error (invalidStatement statement (Text.trim text))
  | some (name, spec) => (parseColumn statement spec).map fun column => { name, column }

end Polystore.Sql
