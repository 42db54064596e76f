import Polystore.Json.Basic

/-!
# Reading plain documents

What a document is when it stands for a text, a truth value, a number, or a list of such. A document
of another kind stands for none.
-/

namespace Polystore.Json

/-- The text, if the document is one. -/
def asText? : Json → Option String
  | .text s => some s
  | _ => none

/-- The truth value, if the document is one. -/
def asBool? : Json → Option Bool
  | .bool b => some b
  | _ => none

/-- The whole number, if the document is one that is not negative and less than a bound. -/
def asNatBelow? (bound : Nat) : Json → Option Nat
  | .int n => if 0 ≤ n.val && n.val < bound then some n.val.toNat else none
  | _ => none

/-- The unsigned number of 64 bits. -/
def asUInt64? (j : Json) : Option UInt64 := (j.asNatBelow? (2 ^ 64)).map UInt64.ofNat

/-- The unsigned number of 32 bits. -/
def asUInt32? (j : Json) : Option UInt32 := (j.asNatBelow? (2 ^ 32)).map UInt32.ofNat

/-- The items, if the document is an array. -/
def asArray? : Json → Option (List Json)
  | .array items => some items
  | _ => none

/-- The fields, if the document is an object. -/
def asFields? : Json → Option (List (String × Json))
  | .object fields => some fields
  | _ => none

/-- The items of an array, each read by `read`. -/
def asListOf? {α : Type} (read : Json → Option α) (j : Json) : Option (List α) :=
  match j with
  | .array items => items.mapM read
  | _ => none

/-- A document that may be `null`, else read by `read`. -/
def asOptional? {α : Type} (read : Json → Option α) : Json → Option (Option α)
  | .null => some none
  | j => (read j).map some

/-- A list of texts as an array. -/
def ofTexts (items : List String) : Json := .array (items.map .text)

/-- An unsigned number as a document. -/
def ofUInt64 (n : UInt64) : Json := .ofNat64 n

end Polystore.Json
