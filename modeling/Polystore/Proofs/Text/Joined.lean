import Mathlib.Logic.Function.Basic
import Polystore.Text.Basic

/-!
# Joined texts as lists of characters

A separator of one character cuts a joined text into what it cuts the joined texts into, one after
the other. Where the separator occurs in the texts themselves, this is all that is left of how they
were divided.
-/

namespace Polystore.Text

theorem toList_joined_cons (separator s t : String) (ss : List String) :
    (joined separator (s :: t :: ss)).toList =
      s.toList ++ (separator.toList ++ (joined separator (t :: ss)).toList) := by
  rw [joined, String.toList_append, String.toList_append, List.append_assoc]
  exact fun e => nomatch e

/-- The pieces of joined texts are those of the texts. -/
theorem splitOn_joined (c : Char) (s : String) (ss : List String) :
    (joined (String.singleton c) (s :: ss)).toList.splitOn c =
      (s :: ss).flatMap fun t => t.toList.splitOn c := by
  induction ss generalizing s with
  | nil => rw [joined, List.flatMap_cons, List.flatMap_nil, List.append_nil]
  | cons t rest ih =>
    rw [toList_joined_cons, String.toList_singleton, List.singleton_append,
      List.splitOn_append_cons_self, ih t]
    rfl

/-- A text is made of its pieces. -/
theorem splitOn_injective (c : Char) :
    Function.Injective fun s : String => s.toList.splitOn c := by
  intro s t same
  have joined := congrArg [c].intercalate same
  rw [List.intercalate_splitOn, List.intercalate_splitOn] at joined
  exact String.toList_injective joined

/-- Joined texts, as many on either side, are the same just when they have the same pieces. -/
theorem joined_eq_iff {c : Char} {ss ts : List String} (length : ss.length = ts.length) :
    joined (String.singleton c) ss = joined (String.singleton c) ts ↔
      (ss.flatMap fun s => s.toList.splitOn c) = ts.flatMap fun t => t.toList.splitOn c := by
  cases ss with
  | nil =>
    obtain rfl := List.length_eq_zero_iff.mp length.symm
    exact iff_of_true rfl rfl
  | cons s ss =>
    obtain ⟨t, ts, rfl⟩ := List.exists_cons_of_length_eq_add_one length.symm
    rw [← (splitOn_injective c).eq_iff, splitOn_joined, splitOn_joined]

end Polystore.Text
