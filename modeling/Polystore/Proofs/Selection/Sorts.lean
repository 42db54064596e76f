import Mathlib
import Polystore.Proofs.Selection.Arranged

/-!
# Stable sorts

A stable sort rearranges the rows, and where the comparison puts them in order, they come out in
that order, those that tie in their old one. This determines what becomes of such rows, so that one
stable sort is as good as another. About other rows it says nothing, and there two sorts differ:
one that places the rows one after the other, and one that merges sorted halves.
-/

namespace Polystore.Rows

variable {compare : Row → Row → Ordering} {rows : List Row}

theorem ranks_iff : Ranks compare rows ↔
    (∀ a ∈ rows, ∀ b ∈ rows, compare a b = (compare b a).swap) ∧
      ∀ a ∈ rows, ∀ b ∈ rows, ∀ c ∈ rows,
        (compare a b).isLE → (compare b c).isLE → (compare a c).isLE := by
  constructor
  · intro ranks
    exact ⟨fun a ha b hb => ranks.eq_swap (a := ⟨a, ha⟩) (b := ⟨b, hb⟩),
      fun a ha b hb c hc => ranks.isLE_trans (a := ⟨a, ha⟩) (b := ⟨b, hb⟩) (c := ⟨c, hc⟩)⟩
  · rintro ⟨turned, carried⟩
    exact { eq_swap := turned _ (Subtype.property _) _ (Subtype.property _)
            isLE_trans := carried _ (Subtype.property _) _ (Subtype.property _) _
              (Subtype.property _) }

instance : Decidable (Ranks compare rows) := decidable_of_iff' _ ranks_iff

instance {order : KeyOrder} {keys : List SortKey} : Decidable (Orders order keys rows) :=
  inferInstanceAs (Decidable (Ranks (compareBy order keys) rows))

namespace Ranks

variable {a b c : Row}

theorem self (ranks : Ranks compare rows) (ha : a ∈ rows) : compare a a = .eq := by
  have turned := (ranks_iff.mp ranks).1 a ha a ha
  cases h : compare a a with
  | eq => rfl
  | lt => rw [h] at turned; cases turned
  | gt => rw [h] at turned; cases turned

/-- Two rows that may stand in front of each other tie. -/
theorem eq_of_ne_gt (ranks : Ranks compare rows) (ha : a ∈ rows) (hb : b ∈ rows)
    (first : compare a b ≠ .gt) (second : compare b a ≠ .gt) : compare a b = .eq := by
  have turned := (ranks_iff.mp ranks).1 a ha b hb
  cases h : compare b a with
  | lt => exact absurd (by rw [turned, h]; rfl) first
  | eq => rw [turned, h]; rfl
  | gt => exact absurd h second

theorem carries (ranks : Ranks compare rows) (a b c : { row // row ∈ rows }) :
    (compare a.1 b.1).isLE → (compare b.1 c.1).isLE → (compare a.1 c.1).isLE :=
  (ranks_iff.mp ranks).2 a.1 a.2 b.1 b.2 c.1 c.2

theorem total (ranks : Ranks compare rows) (a b : { row // row ∈ rows }) :
    ((compare a.1 b.1).isLE || (compare b.1 a.1).isLE) = true := by
  rw [(ranks_iff.mp ranks).1 a.1 a.2 b.1 b.2]
  cases compare b.1 a.1 <;> rfl

/-- Two rows that tie with one row tie. -/
theorem ties (ranks : Ranks compare rows) (ha : a ∈ rows) (hb : b ∈ rows) (hc : c ∈ rows)
    (first : compare a b = .eq) (second : compare a c = .eq) : compare b c = .eq := by
  have turned : compare b a = .eq := by
    rw [(ranks_iff.mp ranks).1 b hb a ha, first]
    rfl
  exact ranks.eq_trans (a := ⟨b, hb⟩) (b := ⟨a, ha⟩) (c := ⟨c, hc⟩) turned second

end Ranks

/-! ## What a stable sort promises -/

/-- What a stable sort promises. Of rows that the comparison does not put in order it promises no
more than that they are the same rows. -/
structure Sorting.IsStable (sort : Sorting) : Prop where
  rearranges : ∀ compare rows, (sort compare rows).Perm rows
  ascends : ∀ {compare rows}, Ranks compare rows →
    (sort compare rows).Pairwise fun a b => compare a b ≠ .gt
  keepsTies : ∀ {compare rows}, Ranks compare rows → ∀ a ∈ rows,
    (sort compare rows).filter (compare a · == .eq) = rows.filter (compare a · == .eq)

/-- Rows in order are determined by which they are and by the order of those that tie. -/
theorem eq_of_ascending (ranks : Ranks compare rows) {xs ys : List Row} (known : xs ⊆ rows)
    (perm : xs.Perm ys) (ascends : xs.Pairwise fun a b => compare a b ≠ .gt)
    (ascends' : ys.Pairwise fun a b => compare a b ≠ .gt)
    (ties : ∀ a ∈ xs, xs.filter (compare a · == .eq) = ys.filter (compare a · == .eq)) :
    xs = ys := by
  induction xs generalizing ys with
  | nil => exact perm.nil_eq
  | cons x xs ih =>
    cases ys with
    | nil => exact absurd perm.length_eq (by simp)
    | cons y ys =>
      obtain ⟨inFront, ascends⟩ := List.pairwise_cons.mp ascends
      obtain ⟨inFront', ascending⟩ := List.pairwise_cons.mp ascends'
      obtain ⟨knownX, known⟩ := List.cons_subset.mp known
      have hy : y ∈ x :: xs := perm.mem_iff.mpr List.mem_cons_self
      have hx : x ∈ y :: ys := perm.mem_iff.mp List.mem_cons_self
      have knownY : y ∈ rows := List.cons_subset.mpr ⟨knownX, known⟩ hy
      -- the first rows tie, so that they are the first of the rows that tie with them
      have tie : compare x y = .eq := by
        rcases List.mem_cons.mp hy with rfl | later
        · exact ranks.self knownX
        rcases List.mem_cons.mp hx with rfl | later'
        · exact ranks.self knownX
        · exact ranks.eq_of_ne_gt knownX knownY (inFront y later) (inFront' x later')
      have firsts := ties x List.mem_cons_self
      rw [List.filter_cons_of_pos (by rw [ranks.self knownX]; rfl),
        List.filter_cons_of_pos (by rw [tie]; rfl)] at firsts
      obtain rfl : x = y := (List.cons.inj firsts).1
      refine congrArg (x :: ·) (ih known perm.cons_inv ascends ascending fun a ha => ?_)
      have others := ties a (List.mem_cons_of_mem x ha)
      rw [List.filter_cons, List.filter_cons] at others
      split at others
      · exact (List.cons.inj others).2
      · exact others

/-- **All stable sorts make the same of rows that are put in order.** -/
theorem Sorting.IsStable.eq {sort sort' : Sorting} (stable : sort.IsStable)
    (stable' : sort'.IsStable) (ranks : Ranks compare rows) :
    sort compare rows = sort' compare rows := by
  have rearranged := stable.rearranges compare rows
  refine eq_of_ascending ranks rearranged.subset
    (rearranged.trans (stable'.rearranges compare rows).symm) (stable.ascends ranks)
    (stable'.ascends ranks) fun a ha => ?_
  have known := rearranged.subset ha
  rw [stable.keepsTies ranks a known, stable'.keepsTies ranks a known]

/-! ## Placing -/

/-- The order by one key alone is the order of this key. -/
theorem compareBy_singleton (order : KeyOrder) (k : SortKey) : compareBy order [k] = order k := by
  funext a b
  rw [compareBy, compareBy]
  cases order k a b <;> rfl

theorem exists_inserted (ranks : Ranks compare rows) :
    ∃ ys : List (Row × Nat), ys.map (·.1) = inserted compare rows ∧ ys.Perm rows.zipIdx ∧
      ys.Pairwise fun a b => compare a.1 b.1 ≠ .gt ∧ (compare a.1 b.1 = .eq → a.2 < b.2) := by
  -- any one key sorts by the comparison when it orders by it
  have key : compareBy (fun _ => compare) [⟨"", .ascending⟩] = compare := compareBy_singleton _ _
  have ordered : Orders (fun _ => compare) [⟨"", .ascending⟩] rows := by
    rw [Orders, key]
    exact ranks
  have sorted := exists_sorted ordered (pairwise_zipIdx 0 rows) fun x hx =>
    List.fst_mem_of_mem_zipIdx hx
  unfold InFront Rows.sorted at sorted
  rwa [key, List.zipIdx_map_fst] at sorted

theorem isStable_inserted : Sorting.IsStable inserted where
  rearranges := inserted_perm
  ascends := by
    intro compare rows ranks
    obtain ⟨ys, shown, _, inFront⟩ := exists_inserted ranks
    rw [← shown]
    exact List.pairwise_map.mpr (inFront.imp And.left)
  keepsTies := by
    intro compare rows ranks a ha
    obtain ⟨ys, shown, perm, inFront⟩ := exists_inserted ranks
    have known : ∀ y ∈ ys, y.1 ∈ rows := fun y hy =>
      List.fst_mem_of_mem_zipIdx (perm.mem_iff.mp hy)
    -- among rows that tie with one another the places ascend before and after
    have ascends : (ys.filter fun y => compare a y.1 == .eq).Pairwise (·.2 < ·.2) := by
      refine List.pairwise_filter.mpr (inFront.imp_of_mem fun hy hz inFront tieY tieZ => ?_)
      exact inFront.2 (ranks.ties ha (known _ hy) (known _ hz) (eq_of_beq tieY) (eq_of_beq tieZ))
    have same : (ys.filter fun y => compare a y.1 == .eq) =
        rows.zipIdx.filter fun y => compare a y.1 == .eq :=
      (perm.filter _).eq_of_pairwise
        (fun y z _ _ before behind => absurd before (Nat.lt_asymm behind)) ascends
        ((pairwise_zipIdx 0 rows).filter _)
    calc (inserted compare rows).filter (compare a · == .eq)
        = (ys.filter fun y => compare a y.1 == .eq).map (·.1) := by
          rw [← shown]
          exact List.filter_map
      _ = (withPlaces (compare a · == .eq) 0 rows).map (·.1) := by rw [same, withPlaces]
      _ = rows.filter (compare a · == .eq) := map_withPlaces _ 0 rows

/-! ## Merging -/

/-- The rows sorted by merging sorted halves. -/
def merged (compare : Row → Row → Ordering) (rows : List Row) : List Row :=
  rows.mergeSort fun a b => (compare a b).isLE

/-- It makes no difference for merging that the rows are known to be among the rows. -/
theorem map_mergeSort_attach (compare : Row → Row → Ordering) (rows : List Row) :
    (rows.attach.mergeSort fun a b => (compare a.1 b.1).isLE).map (·.1) = merged compare rows := by
  have same : (rows.attach.mergeSort fun a b => (compare a.1 b.1).isLE).map (·.1) =
      (rows.attach.map (·.1)).mergeSort fun a b => (compare a b).isLE :=
    List.map_mergeSort fun a _ b _ => rfl
  rw [same, List.attach_map_subtype_val]
  rfl

theorem isStable_merged : Sorting.IsStable merged where
  rearranges compare rows := List.mergeSort_perm rows _
  ascends := by
    intro compare rows ranks
    rw [← map_mergeSort_attach, List.pairwise_map]
    exact (List.pairwise_mergeSort ranks.carries ranks.total _).imp Ordering.isLE_iff_ne_gt.mp
  keepsTies := by
    intro compare rows ranks a ha
    -- rows that tie are in order as they stand, and merging leaves them so
    have ordered : (rows.attach.filter fun b => compare a b.1 == .eq).Pairwise
        fun b c => (compare b.1 c.1).isLE = true := by
      refine List.pairwise_filter.mpr (List.pairwise_of_forall fun b c tieB tieC => ?_)
      rw [ranks.ties ha b.2 c.2 (eq_of_beq tieB) (eq_of_beq tieC)]
      rfl
    have kept := List.sublist_mergeSort ranks.carries ranks.total ordered List.filter_sublist
    have there : (rows.attach.filter fun b => compare a b.1 == .eq).map (·.1) =
        rows.filter (compare a · == .eq) := by
      have within : _ = (rows.attach.map (·.1)).filter (compare a · == .eq) := List.filter_map.symm
      rwa [List.attach_map_subtype_val] at within
    have kept := (kept.map (·.1)).filter (compare a · == .eq)
    rw [map_mergeSort_attach, there, List.filter_filter] at kept
    simp only [Bool.and_self] at kept
    exact (kept.eq_of_length ((List.mergeSort_perm rows _).filter _).length_eq.symm).symm

end Polystore.Rows
