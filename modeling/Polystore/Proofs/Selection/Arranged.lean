import Mathlib
import Polystore.Proofs.Selection.Presented

/-!
# Where presented rows come from

Rows are told apart by their places: two rows of one table may be the same, and ties are settled by
which of them came first. Every row therefore carries its place along, through grouping, which keeps
the first of each group, and through sorting, which puts a row behind every row in front of it that
it does not come before. Sorting comes out in order only where the sort keys order the rows at all.
-/

namespace Polystore.Rows

variable {order : KeyOrder} {keys : List SortKey} {rows : List Row}

/-! ## The first of each group -/

/-- The rows that are kept are those whose key was not seen before and is that of no row in front. -/
theorem exists_firstOfEach (keyOfRow : Row → String) (seen : List String) {xs : List (Row × Nat)}
    (ascending : xs.Pairwise (·.2 < ·.2)) :
    ∃ ys : List (Row × Nat), ys.map (·.1) = firstOfEach keyOfRow seen (xs.map (·.1)) ∧
      ys.Sublist xs ∧
      ∀ x ∈ xs, x ∈ ys ↔
        keyOfRow x.1 ∉ seen ∧ ∀ y ∈ xs, y.2 < x.2 → keyOfRow y.1 ≠ keyOfRow x.1 := by
  induction xs generalizing seen with
  | nil => exact ⟨[], rfl, List.Sublist.refl _, by simp⟩
  | cons first rest ih =>
    obtain ⟨behind, ascending⟩ := List.pairwise_cons.mp ascending
    rw [List.map_cons, firstOfEach]
    split
    · rename_i known
      have known := List.contains_iff_mem.mp known
      obtain ⟨ys, shown, part, kept⟩ := ih seen ascending
      refine ⟨ys, shown, part.cons first, fun x hx => ?_⟩
      rcases List.mem_cons.mp hx with rfl | later
      · refine iff_of_false (fun there => ?_) fun h => h.1 known
        exact Nat.lt_irrefl _ (behind x (part.subset there))
      · rw [kept x later, List.forall_mem_cons]
        exact ⟨fun h => ⟨h.1, fun _ same => h.1 (same ▸ known), h.2⟩, fun h => ⟨h.1, h.2.2⟩⟩
    · rename_i fresh
      have fresh : keyOfRow first.1 ∉ seen := fun h => fresh (List.contains_iff_mem.mpr h)
      obtain ⟨ys, shown, part, kept⟩ := ih (keyOfRow first.1 :: seen) ascending
      refine ⟨first :: ys, by rw [List.map_cons, shown], part.cons_cons first, fun x hx => ?_⟩
      rcases List.mem_cons.mp hx with rfl | later
      · refine iff_of_true List.mem_cons_self ⟨fresh, fun y hy before => ?_⟩
        rcases List.mem_cons.mp hy with rfl | hy
        · exact absurd before (Nat.lt_irrefl _)
        · exact absurd before (Nat.lt_asymm (behind y hy))
      · have ne : x ≠ first := by
          rintro rfl
          exact Nat.lt_irrefl _ (behind x later)
        rw [List.mem_cons, or_iff_right ne, kept x later, List.forall_mem_cons, List.mem_cons,
          not_or]
        constructor
        · rintro ⟨⟨apart, unseen⟩, leads⟩
          exact ⟨unseen, fun _ same => apart same.symm, leads⟩
        · rintro ⟨unseen, apart, leads⟩
          exact ⟨⟨fun same => apart (behind x later) same.symm, unseen⟩, leads⟩

theorem exists_grouped (read : Reader) (groupBy : List String) {xs : List (Row × Nat)}
    (ascending : xs.Pairwise (·.2 < ·.2)) :
    ∃ ys : List (Row × Nat), ys.map (·.1) = grouped read groupBy (xs.map (·.1)) ∧ ys.Sublist xs ∧
      ∀ x ∈ xs, x ∈ ys ↔ (groupBy ≠ [] →
        ∀ y ∈ xs, y.2 < x.2 → key read groupBy y.1 ≠ key read groupBy x.1) := by
  cases groupBy with
  | nil => exact ⟨xs, rfl, List.Sublist.refl xs, fun x hx => iff_of_true hx fun ne => absurd rfl ne⟩
  | cons field rest =>
    obtain ⟨ys, shown, part, kept⟩ :=
      exists_firstOfEach (key read (field :: rest)) [] ascending
    refine ⟨ys, shown, part, fun x hx => (kept x hx).trans ?_⟩
    exact ⟨fun h _ => h.2, fun h => ⟨List.not_mem_nil, h (List.cons_ne_nil _ _)⟩⟩

/-! ## Sorting -/

/-- A comparison puts some rows in order: what it says of two rows is turned round with the two, and
carries over from pair to pair. -/
def Ranks (compare : Row → Row → Ordering) (rows : List Row) : Prop :=
  Std.TransCmp fun a b : { row // row ∈ rows } => compare a.1 b.1

/-- Sort keys put some rows in order. -/
def Orders (order : KeyOrder) (keys : List SortKey) (rows : List Row) : Prop :=
  Ranks (compareBy order keys) rows

/-- A row may stand in front of another one: it does not come behind it, and if the two tie it has
the earlier place. -/
def InFront (order : KeyOrder) (keys : List SortKey) (a b : Row × Nat) : Prop :=
  compareBy order keys a.1 b.1 ≠ .gt ∧ (compareBy order keys a.1 b.1 = .eq → a.2 < b.2)

theorem InFront.of_lt {a b : Row × Nat} (before : compareBy order keys a.1 b.1 = .lt) :
    InFront order keys a b := by
  rw [InFront, before]
  simp

theorem InFront.of_not_lt {a b : Row × Nat} (ordered : Orders order keys rows) (ha : a.1 ∈ rows)
    (hb : b.1 ∈ rows) (earlier : b.2 < a.2) (not : compareBy order keys a.1 b.1 ≠ .lt) :
    InFront order keys b a := by
  refine ⟨fun gt => not ?_, fun _ => earlier⟩
  have swapped := ordered.eq_swap (a := ⟨a.1, ha⟩) (b := ⟨b.1, hb⟩)
  dsimp only at swapped
  rw [swapped, gt]
  rfl

theorem InFront.trans {a b c : Row × Nat} (ordered : Orders order keys rows) (ha : a.1 ∈ rows)
    (hb : b.1 ∈ rows) (hc : c.1 ∈ rows) (first : InFront order keys a b)
    (second : InFront order keys b c) (earlier : a.2 < c.2) : InFront order keys a c := by
  have carries := ordered.isLE_trans (a := ⟨a.1, ha⟩) (b := ⟨b.1, hb⟩) (c := ⟨c.1, hc⟩)
    (Ordering.isLE_iff_ne_gt.mpr first.1) (Ordering.isLE_iff_ne_gt.mpr second.1)
  exact ⟨Ordering.isLE_iff_ne_gt.mp carries, fun _ => earlier⟩

/-- Placing keeps the order. Rows that are sorted already stand with the last one first. -/
theorem exists_placed (ordered : Orders order keys rows) {x : Row × Nat} (hx : x.1 ∈ rows)
    {done : List (Row × Nat)} (known : ∀ y ∈ done, y.1 ∈ rows) (later : ∀ y ∈ done, y.2 < x.2)
    (sorted : done.Pairwise fun a b => InFront order keys b a) :
    ∃ next : List (Row × Nat),
      next.map (·.1) =
        placed (fun a b => compareBy order keys a b == .lt) x.1 (done.map (·.1)) ∧
      next.Perm (x :: done) ∧ next.Pairwise fun a b => InFront order keys b a := by
  induction done with
  | nil => exact ⟨[x], rfl, List.Perm.refl _, List.pairwise_singleton _ _⟩
  | cons last rest ih =>
    obtain ⟨inFront, sorted'⟩ := List.pairwise_cons.mp sorted
    rw [List.forall_mem_cons] at known later
    rw [List.map_cons, placed]
    split
    · rename_i before
      obtain ⟨next, shown, perm, sorted'⟩ := ih known.2 later.2 sorted'
      refine ⟨last :: next, by rw [List.map_cons, shown],
        (perm.cons last).trans (List.Perm.swap x last rest),
        List.pairwise_cons.mpr ⟨fun y hy => ?_, sorted'⟩⟩
      rcases List.mem_cons.mp (perm.mem_iff.mp hy) with rfl | hy
      · exact InFront.of_lt (eq_of_beq before)
      · exact inFront y hy
    · rename_i notBefore
      have first : InFront order keys last x :=
        InFront.of_not_lt ordered hx known.1 later.1 fun lt => notBefore (by rw [lt]; rfl)
      refine ⟨x :: last :: rest, rfl, List.Perm.refl _,
        List.pairwise_cons.mpr ⟨List.forall_mem_cons.mpr ⟨first, fun y hy => ?_⟩, sorted⟩⟩
      exact (inFront y hy).trans ordered (known.2 y hy) known.1 hx first (later.2 y hy)

/-- Placing one row after the other sorts them. -/
theorem exists_foldl_placed (ordered : Orders order keys rows) {xs done : List (Row × Nat)}
    (ascending : (xs.Pairwise (·.2 < ·.2))) (known : ∀ x ∈ done ++ xs, x.1 ∈ rows)
    (later : ∀ x ∈ xs, ∀ y ∈ done, y.2 < x.2)
    (sorted : done.Pairwise fun a b => InFront order keys b a) :
    ∃ next : List (Row × Nat),
      next.map (·.1) = (xs.map (·.1)).foldl
        (fun done row => placed (fun a b => compareBy order keys a b == .lt) row done)
        (done.map (·.1)) ∧
      next.Perm (xs ++ done) ∧ next.Pairwise fun a b => InFront order keys b a := by
  induction xs generalizing done with
  | nil => exact ⟨done, rfl, List.Perm.refl _, sorted⟩
  | cons x rest ih =>
    obtain ⟨behind, ascending⟩ := List.pairwise_cons.mp ascending
    rw [List.forall_mem_append, List.forall_mem_cons] at known
    rw [List.forall_mem_cons] at later
    obtain ⟨mid, shown, perm, sorted⟩ :=
      exists_placed ordered known.2.1 known.1 later.1 sorted
    have knownMid : ∀ y ∈ mid ++ rest, y.1 ∈ rows := by
      rw [List.forall_mem_append]
      refine ⟨fun y hy => ?_, known.2.2⟩
      rcases List.mem_cons.mp (perm.mem_iff.mp hy) with rfl | hy
      · exact known.2.1
      · exact known.1 y hy
    have laterMid : ∀ z ∈ rest, ∀ y ∈ mid, y.2 < z.2 := by
      intro z hz y hy
      rcases List.mem_cons.mp (perm.mem_iff.mp hy) with rfl | hy
      · exact behind z hz
      · exact later.2 z hz y hy
    obtain ⟨next, shownNext, permNext, sortedNext⟩ := ih ascending knownMid laterMid sorted
    refine ⟨next, ?_, ?_, sortedNext⟩
    · rw [shownNext, List.map_cons, List.foldl_cons, shown]
    · exact permNext.trans ((perm.append_left rest).trans List.perm_middle)

/-- **Sorting rearranges the rows so that each may stand in front of all behind it.** -/
theorem exists_sorted (ordered : Orders order keys rows) {xs : List (Row × Nat)}
    (ascending : xs.Pairwise (·.2 < ·.2)) (known : ∀ x ∈ xs, x.1 ∈ rows) :
    ∃ ys : List (Row × Nat), ys.map (·.1) = sorted order keys (xs.map (·.1)) ∧ ys.Perm xs ∧
      ys.Pairwise (InFront order keys) := by
  have none : ∀ x ∈ xs, ∀ y ∈ ([] : List (Row × Nat)), y.2 < x.2 := by simp
  obtain ⟨next, shown, perm, sorted⟩ :=
    exists_foldl_placed ordered ascending known none List.Pairwise.nil
  refine ⟨next.reverse, ?_, ?_, List.pairwise_reverse.mpr sorted⟩
  · rw [List.map_reverse, shown]
    rfl
  · rw [List.append_nil] at perm
    exact (List.reverse_perm next).trans perm

/-! ## Grouping and sorting -/

/-- The places of the rows that are presented, when only those that meet a filter are: each once,
the first row of each group, and in order. -/
structure Arranged (read : Reader) (order : KeyOrder) (hit : Row → Bool) (groupBy : List String)
    (keys : List SortKey) (rows : List Row) (places : List Nat) : Prop where
  nodup : places.Nodup
  leads : ∀ p, p ∈ places ↔ ∃ row, rows[p]? = some row ∧ hit row = true ∧
    (groupBy ≠ [] → ∀ q < p, ∀ other, rows[q]? = some other → hit other = true →
      key read groupBy other ≠ key read groupBy row)
  inOrder : places.Pairwise fun p q => ∀ a b, rows[p]? = some a → rows[q]? = some b →
    InFront order keys (a, p) (b, q)

/-- **Rows are presented from arranged places.** -/
theorem exists_arranged (ordered : Orders order keys rows) (read : Reader) (hit : Row → Bool)
    (groupBy : List String) :
    ∃ places : List Nat,
      places.filterMap (fun p => rows[p]?) =
        sorted order keys (grouped read groupBy (rows.filter hit)) ∧
      Arranged read order hit groupBy keys rows places := by
  obtain ⟨ys, grouped, part, kept⟩ :=
    exists_grouped read groupBy (pairwise_withPlaces hit 0 rows)
  have ascending := (pairwise_withPlaces hit 0 rows).sublist part
  have known : ∀ y ∈ ys, y.1 ∈ rows := fun y hy =>
    List.mem_of_getElem? (mem_withPlaces.mp (part.subset hy)).1
  obtain ⟨zs, sorted, perm, inFront⟩ := exists_sorted ordered ascending known
  have there : ∀ z ∈ zs, z ∈ withPlaces hit 0 rows := fun z hz =>
    part.subset (perm.mem_iff.mp hz)
  have atPlace : ∀ z ∈ zs, rows[z.2]? = some z.1 := fun z hz => (mem_withPlaces.mp (there z hz)).1
  refine ⟨zs.map (·.2), ?_, ?_, fun p => ⟨fun hp => ?_, ?_⟩, ?_⟩
  · rw [filterMap_places there, sorted, grouped, map_withPlaces]
  · have apart : (ys.map (·.2)).Nodup := List.pairwise_map.mpr (ascending.imp Nat.ne_of_lt)
    exact (perm.map _).nodup_iff.mpr apart
  · obtain ⟨z, hz, rfl⟩ := List.mem_map.mp hp
    refine ⟨z.1, atPlace z hz, (mem_withPlaces.mp (there z hz)).2,
      fun some q before other atQ meets => ?_⟩
    have leads := (kept z (there z hz)).mp (perm.mem_iff.mp hz) some
    exact leads (other, q) (mem_withPlaces.mpr ⟨atQ, meets⟩) before
  · rintro ⟨row, found, met, leads⟩
    have inside : (row, p) ∈ withPlaces hit 0 rows := mem_withPlaces.mpr ⟨found, met⟩
    refine List.mem_map.mpr ⟨(row, p), perm.mem_iff.mpr ((kept _ inside).mpr ?_), rfl⟩
    intro some y hy before
    obtain ⟨atY, meets⟩ := mem_withPlaces.mp hy
    exact leads some y.2 before y.1 atY meets
  · refine List.pairwise_map.mpr (inFront.imp_of_mem fun {z w} hz hw ordered a b atZ atW => ?_)
    obtain rfl : z.1 = a := Option.some.inj ((atPlace z hz).symm.trans atZ)
    obtain rfl : w.1 = b := Option.some.inj ((atPlace w hw).symm.trans atW)
    exact ordered

/-- No presented row comes behind one that is presented later. -/
theorem pairwise_presented (ordered : Orders order keys rows) (read : Reader) (hit : Row → Bool)
    (groupBy : List String) (offset limit : Option UInt64) :
    (presented inserted read order groupBy keys offset limit (rows.filter hit)).Pairwise fun a b =>
      compareBy order keys a b ≠ .gt := by
  obtain ⟨places, shown, arranged⟩ := exists_arranged ordered read hit groupBy
  rw [sorted] at shown
  rw [presented, ← shown]
  refine List.Pairwise.sublist (page_sublist offset limit _) (List.pairwise_filterMap.mpr ?_)
  exact arranged.inOrder.imp fun inFront a ha b hb => (inFront a b ha hb).1

/-- The first sort key is obeyed whatever the others are. -/
theorem order_ne_gt {k : SortKey} {a b : Row} (h : compareBy order (k :: keys) a b ≠ .gt) :
    order k a b ≠ .gt := by
  intro behind
  refine h ?_
  rw [compareBy, behind]
  rfl

/-! ## Pages -/

theorem page_eq (offset limit : Option UInt64) (rows : List Row) :
    page offset limit rows =
      (rows.drop (offset.elim 0 UInt64.toNat)).take (limit.elim rows.length UInt64.toNat) := by
  have behind : page offset none rows = rows.drop (offset.elim 0 UInt64.toNat) := by
    cases offset <;> rfl
  cases limit with
  | none =>
    rw [behind, Option.elim_none]
    exact (List.take_of_length_le (by rw [List.length_drop]; omega)).symm
  | some n => exact congrArg (List.take n.toNat) behind

/-- Pages of one size, each behind the last, make up the rows once there are enough of them. -/
theorem flatMap_pages {n count : Nat} {rows : List Row} (covers : rows.length ≤ count * n) :
    ((List.range count).flatMap fun i => (rows.drop (i * n)).take n) = rows := by
  have first (m : Nat) :
      ((List.range m).flatMap fun i => (rows.drop (i * n)).take n) = rows.take (m * n) := by
    induction m with
    | zero => simp
    | succ m ih =>
      rw [List.range_succ, List.flatMap_append, ih, List.flatMap_singleton, Nat.succ_mul,
        List.take_add]
  rw [first, List.take_of_length_le covers]

end Polystore.Rows
