import Polystore.Json.Fields

/-!
# Records and alternatives in documents

A record is written as an object, whose fields are its members by name, or as an array, which lists
its members in the order of their declaration. A member may be required, may have a default that
stands in when it is missing, or may be `null`. Fields that nobody asks for are ignored; items that
nobody asks for are not allowed.

One of several alternatives is written as its name. When an alternative carries members, its name is
a tag: a field of the object, or the first item of the array. Whatever stands inside a tagged
document is read leniently, what stands outside is read strictly.
-/

namespace Polystore

/-- How alternatives may be written. Read leniently, the number of an alternative can stand for its
name as a tag, and an empty object for `null` beside its name. -/
inductive Manner where
  | strict
  | lenient
deriving DecidableEq

/-- The members of a record: under their names, or listed in the order of their declaration. -/
inductive Members where
  | named (fields : List (String × Json))
  | listed (items : List Json)

namespace Members

/-- The member of a name, in a list the one whose turn it is, and the members behind it. -/
def next (key : String) : Members → Option Json × Members
  | named fields => (Json.field? key fields, named fields)
  | listed [] => (none, listed [])
  | listed (j :: rest) => (some j, listed rest)

/-- Whether nothing is left that somebody would have to ask for. -/
def isDone : Members → Bool
  | named _ => true
  | listed items => items.isEmpty

/-- Something that reads members one after the other and may fail. -/
abbrev Reader (α : Type) := StateT Members Option α

/-- A member that must be there. -/
def required {α : Type} (key : String) (read : Json → Option α) : Reader α := fun m =>
  match m.next key with
  | (some j, rest) => (read j).map (·, rest)
  | (none, _) => none

/-- A member with a default. -/
def defaulted {α : Type} (key : String) (read : Json → Option α) (default : α) : Reader α :=
  fun m =>
    match m.next key with
    | (some j, rest) => (read j).map (·, rest)
    | (none, rest) => some (default, rest)

/-- A member that may be missing or `null`. -/
def optional {α : Type} (key : String) (read : Json → Option α) : Reader (Option α) :=
  defaulted key (Json.asOptional? read) none

/-- A member that may be `null`. Only an object can leave it out. -/
def nullable {α : Type} (key : String) (read : Json → Option α) : Reader (Option α) := fun m =>
  match m with
  | named _ => optional key read m
  | listed _ => required key (Json.asOptional? read) m

/-- What a reader makes of all members. -/
def readAll {α : Type} (reader : Reader α) (m : Members) : Option α := do
  let (a, rest) ← reader.run m
  if rest.isDone then some a else none

end Members

namespace Json

/-- The members of a record. -/
def members? : Json → Option Members
  | .object fields => some (.named fields)
  | .array items => some (.listed items)
  | _ => none

/-- What a reader makes of a record. -/
def record? {α : Type} (reader : Members.Reader α) (j : Json) : Option α :=
  j.members?.bind (Members.readAll reader)

/-- Whether a document says that an alternative carries nothing. -/
def isNothing (manner : Manner) : Json → Bool
  | .null => true
  | .object [] => manner == .lenient
  | _ => false

/-- The name of an alternative that carries nothing: a text, or the name of the only field of an
object that says so. -/
def bareName? (manner : Manner) : Json → Option String
  | .text s => some s
  | .object [(s, j)] => if j.isNothing manner then some s else none
  | _ => none

/-- The alternative of some names that a tag means. -/
def tagName? (manner : Manner) (names : List String) : Json → Option String
  | .text s => some s
  | .int n => if manner = .lenient ∧ 0 ≤ n.val then names[n.val.toNat]? else none
  | _ => none

/-- The alternative that the tag of a document means, and the members that come with it. The tag is
the field `key`, or the first item. -/
def tagged? (manner : Manner) (key : String) (names : List String) :
    Json → Option (String × Members)
  | .object fields => do
    let name ← (field? key fields).bind (tagName? manner names)
    some (name, .named fields)
  | .array (tag :: items) => (tagName? manner names tag).map (·, .listed items)
  | _ => none

end Json

example : Json.bareName? .strict (.object [("a", .null)]) = some "a" := by decide
example : Json.bareName? .strict (.object [("a", .object [])]) = none := by decide
example : Json.bareName? .lenient (.object [("a", .object [])]) = some "a" := by decide
example : Json.tagName? .lenient ["a", "b"] (.ofNat64 1) = some "b" := by decide
example : Json.tagName? .strict ["a", "b"] (.ofNat64 1) = none := by decide

end Polystore
