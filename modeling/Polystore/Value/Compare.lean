import Polystore.Binary64.Read
import Polystore.Value.Basic

/-!
# Comparing values

Values of different kinds are compared by a common reading. Two texts are compared as texts; where
an instant takes part both sides are read as instants; everything else is read as numbers, truth
values as one and zero and texts as the number they spell. `null` equals `null` and nothing else
and is not ordered against anything.

A document that is no object stands for its value, unless two documents meet: those are equal only
when they are the same.
-/

namespace Polystore.Value

open Polystore.Calendar (Instant)

/-- The number that a value reads as: an instant as its milliseconds. -/
def asNumber : Value → Option Binary64
  | .bool b => some (Binary64.ofInt (if b then 1 else 0))
  | .int n => some (Binary64.ofInt n.toInt)
  | .float x => some x
  | .text s => Binary64.read? (Text.trim s.toList)
  | .date t => some (Binary64.ofInt t.millis)
  | _ => none

/-- The instant that a value reads as. -/
def asInstant : Value → Option Instant
  | .date t => some t
  | .text s => Instant.ofText? s
  | _ => none

/-- Whether the value is an instant. -/
def isDate : Value → Bool
  | .date _ => true
  | _ => false

/-! ## Equality -/

mutual

/-- How much there is to compare in a value. A document weighs more than its value. -/
def weight : Value → Nat
  | .list items => itemsWeight items + 1
  | .json j => 2 * j.nodes
  | _ => 1

/-- How much there is to compare in the values of a list. -/
def itemsWeight : List Value → Nat
  | [] => 0
  | v :: rest => v.weight + itemsWeight rest + 1

end

mutual

theorem weight_ofJson_le (j : Json) : (ofJson j).weight ≤ 2 * j.nodes := by
  cases j with
  | array items =>
    have := itemsWeight_ofJsonItems_le items
    simp only [ofJson, weight, Json.nodes]
    omega
  | int n =>
    simp only [ofJson]
    split <;> simp [weight, Json.nodes]
  | object fields => simp [ofJson, weight]
  | _ => simp [ofJson, weight, Json.nodes]

theorem itemsWeight_ofJsonItems_le (items : List Json) :
    itemsWeight (ofJsonItems items) ≤ 2 * Json.itemNodes items := by
  cases items with
  | nil => simp [ofJsonItems, itemsWeight]
  | cons j rest =>
    have := weight_ofJson_le j
    have := itemsWeight_ofJsonItems_le rest
    simp only [ofJsonItems, itemsWeight, Json.itemNodes]
    omega

end

/-- Turning a document that is no object into its value makes progress. -/
theorem weight_ofJson_lt {j : Json} (h : j.isObject = false) :
    (ofJson j).weight < 2 * j.nodes := by
  cases j with
  | array items =>
    have := itemsWeight_ofJsonItems_le items
    simp only [ofJson, weight, Json.nodes]
    omega
  | int n =>
    simp only [ofJson]
    split <;> simp [weight, Json.nodes]
  | object fields => simp [Json.isObject] at h
  | _ => simp [ofJson, weight, Json.nodes]

/-- Equality of the instants that two values read as. -/
def sameInstant (a b : Value) : Bool :=
  match a.asInstant, b.asInstant with
  | some s, some t => s == t
  | _, _ => false

/-- Equality of the numbers that two values read as. -/
def sameNumber (a b : Value) : Bool :=
  match a.asNumber, b.asNumber with
  | some x, some y => x.same y
  | _, _ => false

mutual

/-- Equality by a common reading. -/
def looseEq : Value → Value → Bool
  | .null, .null => true
  | .null, _ => false
  | _, .null => false
  | .text s, .text t => s == t
  | .date s, b => sameInstant (.date s) b
  | a, .date t => sameInstant a (.date t)
  | .list xs, .list ys => looseEqItems xs ys
  | .json i, .json j => i.same j
  | .json i, b => if _ : i.isObject = false then looseEq (ofJson i) b else false
  | a, .json j => if _ : j.isObject = false then looseEq (ofJson j) a else false
  | a, b => sameNumber a b
termination_by a b => a.weight + b.weight
decreasing_by
  · simp only [weight]; omega
  · have := weight_ofJson_lt ‹_›; simp only [weight]; omega
  · have := weight_ofJson_lt ‹_›; simp only [weight]; omega

/-- Equality of two lists by a common reading of their items, one by one. -/
def looseEqItems : List Value → List Value → Bool
  | [], [] => true
  | a :: as, b :: bs => looseEq a b && looseEqItems as bs
  | _, _ => false
termination_by as bs => itemsWeight as + itemsWeight bs
decreasing_by all_goals simp only [itemsWeight]; omega

end

/-! ## Order -/

/-- The order of the instants that two values read as. -/
def instantOrder (a b : Value) : Option Ordering :=
  match a.asInstant, b.asInstant with
  | some s, some t => some (s.compare t)
  | _, _ => none

/-- The order of the numbers that two values read as. -/
def numberOrder (a b : Value) : Option Ordering :=
  match a.asNumber, b.asNumber with
  | some x, some y => x.compare y
  | _, _ => none

/-- The order of two values as instants when one of them is an instant, and as numbers otherwise. -/
def readingOrder (a b : Value) : Option Ordering :=
  if a.isDate || b.isDate then instantOrder a b else numberOrder a b

/-- The order of two values by a common reading; `none` when they have none or one is `null`. -/
def compare (a b : Value) : Option Ordering :=
  match a, b with
  | .null, _ => none
  | _, .null => none
  | .text s, .text t => some (Ord.compare s t)
  | _, _ => readingOrder a b

/-- The order in which values are sorted: `null` first, and values without an order tie. -/
def sortCompare (a b : Value) : Ordering :=
  match a.isNull, b.isNull with
  | true, true => .eq
  | true, false => .lt
  | false, true => .gt
  | false, false => (a.compare b).getD .eq

/-! ## Sameness -/

mutual

/-- Whether two values are of one kind and the same. -/
def same : Value → Value → Bool
  | .null, .null => true
  | .bool a, .bool b => a == b
  | .int a, .int b => a == b
  | .float a, .float b => a.same b
  | .text a, .text b => a == b
  | .date a, .date b => a == b
  | .list as, .list bs => sameItems as bs
  | .json a, .json b => a.same b
  | _, _ => false

/-- Whether two lists hold the same values. -/
def sameItems : List Value → List Value → Bool
  | [], [] => true
  | a :: as, b :: bs => a.same b && sameItems as bs
  | _, _ => false

end

end Polystore.Value
