import Polystore.Text.Fold

/-!
# Patterns

In a pattern `%` stands for any run of characters, also an empty one, `_` for exactly one, and every
other character for itself. A text matches when the pattern accounts for all of it.

All suffixes of the text are matched at once: from the answers for the rest of a pattern those for
the whole pattern follow in one pass over the text, so matching takes time proportional to the
product of both lengths.
-/

namespace Polystore.Like

/-- From the answers for a pattern on all suffixes of a text, those for `%` in front of it: some
suffix of the suffix matches. -/
def anySuffix : List Bool → List Bool
  | [] => []
  | b :: rest =>
    let later := anySuffix rest
    (b || later.headD false) :: later

/-- Whether a character of a pattern, other than `%`, accepts a character. -/
def accepts (c d : Char) : Bool := c == '_' || c == d

/-- From the answers for a pattern on all suffixes of a text, those for one more character in front
of it. -/
def oneMore (c : Char) : List Char → List Bool → List Bool
  | d :: text, _ :: answers => (accepts c d && answers.headD false) :: oneMore c text answers
  | _, _ => [false]

/-- Whether a pattern matches each suffix of a text, from the text itself to the empty one. -/
def answers : List Char → List Char → List Bool
  | [], text => List.replicate text.length false ++ [true]
  | c :: pattern, text =>
    let rest := answers pattern text
    if c == '%' then anySuffix rest else oneMore c text rest

/-- Whether a text matches a pattern. -/
def matchesChars (pattern text : List Char) : Bool := (answers pattern text).headD false

/-- Whether a text matches a pattern, the case of letters aside unless it shall count. -/
def isMatch (caseSensitive : Bool) (pattern text : String) : Bool :=
  if caseSensitive then matchesChars pattern.toList text.toList
  else matchesChars (pattern.toList.map Text.fold) (text.toList.map Text.fold)

example : isMatch false "a%b_c" "AxxByC" = true := by decide +kernel
example : isMatch true "a%b_c" "AxxByC" = false := by decide +kernel
example : isMatch true "%" "" = true := by decide +kernel
example : isMatch true "_" "" = false := by decide +kernel

end Polystore.Like
