import Polystore.Value.Compare

/-!
# Turning a comparison of values round

Two values compared the other way round have the opposite order, whatever kinds they are of. A
descending sort may therefore take its two rows the other way round or turn its answer round; the
stores do not agree on which of the two they do.
-/

namespace Polystore

theorem Binary64.compare_swap (x y : Binary64) :
    (x.compare y).map Ordering.swap = y.compare x := by
  unfold Binary64.compare
  cases x.place with
  | none => cases y.place <;> rfl
  | some a =>
    cases y.place with
    | none => rfl
    | some b => exact congrArg some Std.OrientedOrd.eq_swap.symm

theorem Calendar.Instant.compare_swap (s t : Calendar.Instant) :
    (s.compare t).swap = t.compare s := by
  have seconds : Ord.compare t.seconds s.seconds = (Ord.compare s.seconds t.seconds).swap :=
    Std.OrientedOrd.eq_swap
  have nanos : Ord.compare t.nanos s.nanos = (Ord.compare s.nanos t.nanos).swap :=
    Std.OrientedOrd.eq_swap
  rw [Instant.compare, Instant.compare, seconds, nanos]
  cases Ord.compare s.seconds t.seconds <;> rfl

namespace Value

theorem instantOrder_swap (a b : Value) :
    (a.instantOrder b).map Ordering.swap = b.instantOrder a := by
  unfold instantOrder
  cases a.asInstant with
  | none => cases b.asInstant <;> rfl
  | some s =>
    cases b.asInstant with
    | none => rfl
    | some t => exact congrArg some (s.compare_swap t)

theorem numberOrder_swap (a b : Value) :
    (a.numberOrder b).map Ordering.swap = b.numberOrder a := by
  unfold numberOrder
  cases a.asNumber with
  | none => cases b.asNumber <;> rfl
  | some x =>
    cases b.asNumber with
    | none => rfl
    | some y => exact x.compare_swap y

theorem readingOrder_swap (a b : Value) :
    (a.readingOrder b).map Ordering.swap = b.readingOrder a := by
  rw [readingOrder, readingOrder, Bool.or_comm]
  split
  · exact instantOrder_swap a b
  · exact numberOrder_swap a b

theorem compare_swap (a b : Value) : (a.compare b).map Ordering.swap = b.compare a := by
  cases a with
  | null => cases b <;> rfl
  | text s =>
    cases b with
    | null => rfl
    | text t =>
      have texts : Ord.compare t s = (Ord.compare s t).swap := Std.OrientedOrd.eq_swap
      exact congrArg some texts.symm
    | _ => exact readingOrder_swap _ _
  | _ =>
    cases b with
    | null => rfl
    | _ => exact readingOrder_swap _ _

/-- Sorting two values the other way round gives the opposite order. -/
theorem sortCompare_swap (a b : Value) : (a.sortCompare b).swap = b.sortCompare a := by
  unfold sortCompare
  cases a.isNull <;> cases b.isNull
  · show ((a.compare b).getD .eq).swap = (b.compare a).getD .eq
    rw [← compare_swap a b]
    cases a.compare b <;> rfl
  · rfl
  · rfl
  · rfl

end Value

end Polystore
