import Polystore.Proofs.Relational.Distinct
import Polystore.Proofs.Relational.Indexed
import Polystore.Proofs.Relational.Selected
import Polystore.Proofs.Value.Tuples

/-!
# Rows told apart by keys

Groups, unique sets and look-ups compare rows by their keys, and mean the values that the keys are
made of. For texts and `null` the two come to the same where no key is ambiguous: a group is then
what one tuple of values has, a row is refused for a row with the values that it has itself, and a
look-up brings the rows with the values that it asks for.
-/

namespace Polystore

/-! ## Rows -/

/-- The values of two rows in columns are texts and `null` that keys tell apart. -/
def Row.TextsApartIn (columns : List String) (a b : Row) : Prop :=
  TextsApart (a.valuesIn columns) (b.valuesIn columns)

theorem Row.TextsApartIn.key_eq_iff {columns : List String} {a b : Row}
    (h : a.TextsApartIn columns b) :
    a.key columns = b.key columns ↔ a.valuesIn columns = b.valuesIn columns :=
  h.keyOf_eq_iff (by simp)

theorem Row.isBlankIn_eq (columns : List String) (row : Row) :
    row.isBlankIn columns = (row.valuesIn columns).all Value.isNull := by
  rw [isBlankIn, valuesIn, List.all_map]
  rfl

/-- The search for a repeated key finds none just when no two rows have the same values, not all of
them `null`. -/
theorem firstRepeated_eq_none_iff_values {columns : List String} {rows : List Row}
    (apart : rows.Pairwise (Row.TextsApartIn columns)) :
    firstRepeated columns [] rows = none ↔
      rows.Pairwise fun a b =>
        a.isBlankIn columns = false → a.valuesIn columns ≠ b.valuesIn columns := by
  rw [firstRepeated_nil_eq_none]
  constructor <;> intro distinct <;> refine distinct.imp₂ (fun a b differ apart filled => ?_) apart
  · intro same
    refine differ filled ?_ (apart.key_eq_iff.mpr same)
    rw [Row.isBlankIn_eq, ← same, ← Row.isBlankIn_eq]
    exact filled
  · exact fun _ same => differ filled (apart.key_eq_iff.mp same)

/-! ## Groups -/

namespace Rows

/-- The places of the first rows of their kind, in ascending order: those that meet a filter and
behind none that does and has the same values in columns. -/
structure Leading (columns : List String) (hit : Row → Bool) (rows : List Row)
    (places : List Nat) : Prop where
  ascending : places.Pairwise (· < ·)
  leads : ∀ p, p ∈ places ↔ ∃ row, rows[p]? = some row ∧ hit row = true ∧
    ∀ q < p, ∀ other, rows[q]? = some other → hit other = true →
      other.valuesIn columns ≠ row.valuesIn columns

variable {columns : List String} {hit : Row → Bool} {rows : List Row} {places : List Nat}

theorem Leading.not_lt (h : Leading columns hit rows places) {p q : Nat} {a b : Row}
    (hp : p ∈ places) (hq : q ∈ places) (atP : rows[p]? = some a) (atQ : rows[q]? = some b)
    (same : a.valuesIn columns = b.valuesIn columns) : ¬p < q := by
  intro before
  obtain ⟨a', atP', met, _⟩ := (h.leads p).mp hp
  obtain ⟨b', atQ', _, leads⟩ := (h.leads q).mp hq
  obtain rfl : a' = a := Option.some.inj (atP'.symm.trans atP)
  obtain rfl : b' = b := Option.some.inj (atQ'.symm.trans atQ)
  exact leads p before a' atP met same

/-- A row that meets the filter stands at one of the places or behind one with the same values. -/
theorem Leading.exists_le (h : Leading columns hit rows places) {n : Nat} {row : Row}
    (there : rows[n]? = some row) (met : hit row = true) :
    ∃ p, p ∈ places ∧ p ≤ n ∧
      ∃ first, rows[p]? = some first ∧ first.valuesIn columns = row.valuesIn columns := by
  induction n using Nat.strongRecOn generalizing row with
  | _ n ih =>
    by_cases leads : n ∈ places
    · exact ⟨n, leads, Nat.le_refl n, row, there, rfl⟩
    · have earlier : ∃ q < n, ∃ other, rows[q]? = some other ∧ hit other = true ∧
          other.valuesIn columns = row.valuesIn columns := by
        by_contra none
        refine leads ((h.leads n).mpr ⟨row, there, met, fun q before other atQ meets same => ?_⟩)
        exact none ⟨q, before, other, atQ, meets, same⟩
      obtain ⟨q, before, other, atQ, meets, same⟩ := earlier
      obtain ⟨p, hp, le, first, atP, values⟩ := ih q before atQ meets
      exact ⟨p, hp, le.trans before.le, first, atP, values.trans same⟩

/-- **One row stands for each tuple of values**: for every row that meets the filter just one of the
places holds a row with the same values, and it is no later. -/
theorem Leading.existsUnique (h : Leading columns hit rows places) {n : Nat} {row : Row}
    (there : rows[n]? = some row) (met : hit row = true) :
    ∃! p, p ∈ places ∧ p ≤ n ∧
      ∃ first, rows[p]? = some first ∧ first.valuesIn columns = row.valuesIn columns := by
  obtain ⟨p, hp, le, a, atP, left⟩ := h.exists_le there met
  refine ⟨p, ⟨hp, le, a, atP, left⟩, ?_⟩
  rintro q ⟨hq, -, b, atQ, right⟩
  have same := left.trans right.symm
  exact Nat.le_antisymm (Nat.not_lt.mp (h.not_lt hp hq atP atQ same))
    (Nat.not_lt.mp (h.not_lt hq hp atQ atP same.symm))

/-- What holds of every two rows of a list, the one in front first, holds of those with two places,
the lower first. -/
theorem apart_of_places {R : Row → Row → Prop} {xs : List (Row × Nat)}
    (ascending : xs.Pairwise (·.2 < ·.2)) (apart : (xs.map (·.1)).Pairwise R) :
    ∀ y ∈ xs, ∀ x ∈ xs, y.2 < x.2 → R y.1 x.1 := by
  rintro y hy x hx before
  obtain ⟨i, hi, rfl⟩ := List.mem_iff_getElem.mp hy
  obtain ⟨j, hj, rfl⟩ := List.mem_iff_getElem.mp hx
  rcases Nat.lt_trichotomy i j with front | rfl | behind
  · exact List.pairwise_iff_getElem.mp (List.pairwise_map.mp apart) i j hi hj front
  · exact absurd before (Nat.lt_irrefl _)
  · exact absurd before
      (Nat.lt_asymm (List.pairwise_iff_getElem.mp ascending j i hj hi behind))

/-- **Groups are the rows of one tuple.** -/
theorem exists_leading (some : columns ≠ [])
    (apart : (rows.filter hit).Pairwise (Row.TextsApartIn columns)) :
    ∃ places, Leading columns hit rows places ∧
      places.filterMap (fun p => rows[p]?) = grouped Row.at columns (rows.filter hit) := by
  have ascending := pairwise_withPlaces hit 0 rows
  obtain ⟨ys, firsts, part, kept⟩ := exists_grouped Row.at columns ascending
  have told := apart_of_places ascending ((map_withPlaces hit 0 rows).symm ▸ apart)
  refine ⟨ys.map (·.2), ⟨?_, fun p => ⟨fun hp => ?_, ?_⟩⟩, ?_⟩
  · exact List.pairwise_map.mpr (ascending.sublist part)
  · obtain ⟨y, hy, rfl⟩ := List.mem_map.mp hp
    have inside := part.subset hy
    obtain ⟨atY, met⟩ := mem_withPlaces.mp inside
    refine ⟨y.1, atY, met, fun q before other atQ meets same => ?_⟩
    have there : (other, q) ∈ withPlaces hit 0 rows := mem_withPlaces.mpr ⟨atQ, meets⟩
    exact (kept y inside).mp hy some (other, q) there before
      ((told (other, q) there y inside before).key_eq_iff.mpr same)
  · rintro ⟨row, atP, met, leads⟩
    have inside : (row, p) ∈ withPlaces hit 0 rows := mem_withPlaces.mpr ⟨atP, met⟩
    refine List.mem_map.mpr ⟨(row, p), (kept _ inside).mpr ?_, rfl⟩
    intro _ y hy before same
    obtain ⟨atY, meets⟩ := mem_withPlaces.mp hy
    exact leads y.2 before y.1 atY meets ((told y hy _ inside before).key_eq_iff.mp same)
  · rw [filterMap_places fun y hy => part.subset hy, firsts, map_withPlaces]

end Rows

namespace Relational

open Outcome

variable {s : Store} {t : Table} {config : Config} {params : List Value}

/-- A read of a table brings what it presents of the rows that meet its filter. -/
theorem Table.selectBy_presented {q : SelectStatement} {hit : Row → Bool}
    (named : t.checkNames q = .ok ()) (filtered : t.checkFilter q.filter = .ok ())
    (decides : ∀ row ∈ t.rows, meets params config.caseSensitiveLike q.filter row = .ok (hit row))
    (sort : Rows.Sorting) :
    t.selectBy sort config params q =
      .ok ((Rows.presented sort Row.at keyOrder q.groupBy q.orderBy q.offset q.limit
        (t.rows.filter hit)).map (shownOf q.fields)) := by
  have marked : t.marked config params q.filter =
      .ok (t.rows.map fun row => (row, hit row)) := by
    rw [Table.marked, filtered]
    refine mapM_eq_ok fun row hr => ?_
    rw [decides row hr]
    rfl
  rw [Table.selectBy_eq, named, ok_bind, marked, ok_bind, Selection.hits_eq]

/-- A row with the values of a row that is there is refused, blank ones excepted. -/
theorem Table.exists_refusal {row other : Row} {set : String × List String}
    (hset : set ∈ t.uniqueSets) (filled : row.isBlankIn set.2 = false) (ho : other ∈ t.rows)
    (same : other.valuesIn set.2 = row.valuesIn set.2) : ∃ e, t.checkUniqueRow row = .error e := by
  cases checked : t.checkUniqueRow row with
  | error e => exact ⟨e, rfl⟩
  | ok _ =>
    have repeats : t.Repeats set.2 row := ⟨filled, other, ho, congrArg Rows.keyOf same⟩
    exact absurd repeats (Table.checkRowAgainst_eq_ok.mp checked set hset)

/-- **Keys tell texts apart, except for two things.** Two keys are the same just when their pieces
are. Rows of texts and `null` have one key only if they agree column by column, unless one holds
`null` where the other holds the text of it, or both hold the separator in texts and there is more
than one column; texts without either have keys of their own. Where keys tell the rows apart, a read
with groups presents the first row of each tuple, whichever sort it uses, a row is refused just for
the values of a row that is there, and a look-up brings the rows with the values that it asks
for. -/
theorem texts_told_by_keys {table : String} (h : Reachable Command.Any s)
    (found : s.tables.get? table = some t) :
    (∀ (columns : List String) (a b : Row),
      (a.key columns = b.key columns ↔
        (a.valuesIn columns).flatMap Value.pieces = (b.valuesIn columns).flatMap Value.pieces) ∧
      (a.TextsApartIn columns b →
        (a.key columns = b.key columns ↔ ∀ c ∈ columns, a.at c = b.at c)) ∧
      ((∀ c ∈ columns, (a.at c).isTextual = true) →
        (Rows.HasOwnKey (a.valuesIn columns) ↔
          (∀ c ∈ columns, a.at c ≠ .null ∧ a.at c ≠ .text "null") ∧
            (columns.length ≤ 1 ∨ ∀ c ∈ columns, (a.at c).isWhole = true)))) ∧
    (∀ (config : Config) (params : List Value) (q : SelectStatement) (hit : Row → Bool),
      q.table = table → q.groupBy ≠ [] → t.checkNames q = .ok () →
      t.checkFilter q.filter = .ok () →
      (∀ row ∈ t.rows, meets params config.caseSensitiveLike q.filter row = .ok (hit row)) →
      (t.rows.filter hit).Pairwise (Row.TextsApartIn q.groupBy) →
      ∃ places, Rows.Leading q.groupBy hit t.rows places ∧
        (∀ n row, t.rows[n]? = some row → hit row = true → ∃! p, p ∈ places ∧ p ≤ n ∧
          ∃ first, t.rows[p]? = some first ∧
            first.valuesIn q.groupBy = row.valuesIn q.groupBy) ∧
        (∀ sort : Rows.Sorting, t.selectBy sort config params q =
          .ok ((Rows.page q.offset q.limit (sort (Rows.compareBy keyOrder q.orderBy)
            (places.filterMap fun p => t.rows[p]?))).map (shownOf q.fields))) ∧
        ((∀ k ∈ q.orderBy, t.SortableBy k.field) → s.run config (.select q) params =
          (.ok (Result.ofRows ((Rows.page q.offset q.limit (Rows.sorted keyOrder q.orderBy
            (places.filterMap fun p => t.rows[p]?))).map (shownOf q.fields))), s))) ∧
    (∀ row : Row,
      (∀ set ∈ t.uniqueSets, row.isBlankIn set.2 = false → ∀ other ∈ t.rows,
        other.valuesIn set.2 = row.valuesIn set.2 → ∃ e, t.checkUniqueRow row = .error e) ∧
      ∀ e, t.checkUniqueRow row = .error e → ∃ set ∈ t.uniqueSets,
        e = t.duplicate set.1 (row.key set.2) ∧
          ((∀ other ∈ t.rows, other.TextsApartIn set.2 row) →
            ∃ other ∈ t.rows, other.valuesIn set.2 = row.valuesIn set.2)) ∧
    (∀ (columns : List String) (rows : List Row), rows.Pairwise (Row.TextsApartIn columns) →
      (firstRepeated columns [] rows = none ↔ rows.Pairwise fun a b =>
        a.isBlankIn columns = false → a.valuesIn columns ≠ b.valuesIn columns)) ∧
    ∀ (index : String) (i : Index) (key : List Value), t.indexes.get? index = some i →
      (∀ row ∈ t.rows, TextsApart (row.valuesIn i.columns) (sought i key)) →
      ∃ hit : Row → Bool,
        (∀ row ∈ t.rows, hit row = true ↔ row.valuesIn i.columns = sought i key) ∧
        s.indexLookup table index key = .ok (t.rows.filter hit) := by
  refine ⟨fun columns a b => ⟨?_, fun apart => ?_, fun textual => ?_⟩, ?_, fun row => ⟨?_, ?_⟩,
    fun _ _ => firstRepeated_eq_none_iff_values, ?_⟩
  · exact Rows.keyOf_eq_iff (by simp)
  · rw [apart.key_eq_iff]
    exact List.map_inj_left
  · have textual : ∀ v ∈ a.valuesIn columns, v.isTextual = true := List.forall_mem_map.mpr textual
    rw [Rows.hasOwnKey_iff textual, Row.length_valuesIn]
    simp only [Row.valuesIn, List.forall_mem_map]
  · rintro config params q hit rfl some named filtered decides apart
    obtain ⟨places, leading, groups⟩ := Rows.exists_leading some apart
    have brings (sort : Rows.Sorting) : t.selectBy sort config params q =
        .ok ((Rows.page q.offset q.limit (sort (Rows.compareBy keyOrder q.orderBy)
          (places.filterMap fun p => t.rows[p]?))).map (shownOf q.fields)) := by
      rw [groups]
      exact Table.selectBy_presented named filtered decides sort
    exact ⟨places, leading, fun n row => leading.existsUnique, brings,
      fun _ => run_select found (brings Rows.inserted)⟩
  · exact fun set hset filled other ho => Table.exists_refusal hset filled ho
  · intro e refused
    obtain ⟨set, hset, ⟨_, other, ho, same⟩, rfl⟩ := Table.checkRowAgainst_eq_error refused
    exact ⟨set, hset, rfl, fun apart => ⟨other, ho, (apart other ho).key_eq_iff.mp same⟩⟩
  · intro index i key indexed apart
    have kept := h.allTables (P := Table.Indexed) fun _ c _ => Table.indexed_kept c.config
    have anew : Index.build i.columns i.unique t.rows = i :=
      kept table t found _ (TextMap.mem_of_get? indexed)
    refine ⟨fun row => row.key i.columns = Rows.keyOf (sought i key), fun row hr => ?_, ?_⟩
    · rw [decide_eq_true_iff]
      exact (apart row hr).keyOf_eq_iff (by simp [sought])
    · rw [indexLookup_eq found indexed, ← anew, Index.lookup_build, Index.filterMap_positions,
        Index.columns_build, anew]

/-- The shelves, each with the first thing on it. -/
def firstOnShelves : SelectStatement :=
  { table := "items"
    fields := ["label", "shelf"]
    filter := none
    groupBy := ["shelf"]
    orderBy := [⟨"shelf", .descending⟩]
    limit := none
    offset := none }

theorem texts_told_by_keys_stock :
    Reachable Command.Any (Store.empty.afterAll stockTaking) ∧
      (Store.empty.afterAll stockTaking).tables.get? "items" = some stock ∧
      (∃ places, Rows.Leading ["shelf"] (fun _ => true) stock.rows places ∧
        ((Store.empty.afterAll stockTaking).run .standard (.select firstOnShelves) []).1 =
          .ok (Result.ofRows ((Rows.sorted keyOrder firstOnShelves.orderBy
            (places.filterMap fun p => stock.rows[p]?)).map (shownOf ["label", "shelf"])))) ∧
      ∃ hit : Row → Bool,
        (∀ row ∈ stock.rows, hit row = true ↔
          row.valuesIn ["shelf", "label"] = [.text "A", .null]) ∧
        (Store.empty.afterAll stockTaking).indexLookup "items" "places" [.text "A"] =
          .ok (stock.rows.filter hit) := by
  obtain ⟨_, groups, _, _, lookups⟩ :=
    texts_told_by_keys reachable_stockTaking.any stockTaking_leaves
  have clear : ∀ row ∈ stock.rows, ∀ v ∈ row.valuesIn ["shelf", "label"], v.isClear = true := by
    have all : (stock.rows.all fun row =>
        (row.valuesIn ["shelf", "label"]).all Value.isClear) = true := by cbv
    simpa only [List.all_eq_true] using all
  have shelves : ∀ row ∈ stock.rows, ∀ v ∈ row.valuesIn ["shelf"], v.isClear = true := by
    rintro row hr v hv
    obtain rfl := List.mem_singleton.mp hv
    exact clear row hr _ List.mem_cons_self
  have sortable : ∀ k ∈ firstOnShelves.orderBy, stock.SortableBy k.field := by
    intro k hk
    obtain rfl := List.mem_singleton.mp hk
    refine ⟨.text, by decide, ?_⟩
    simp only [stock, List.forall_mem_cons, List.not_mem_nil, false_imp_iff, implies_true, and_true]
    exact ⟨.inr rfl, .inr rfl, .inr rfl⟩
  refine ⟨reachable_stockTaking.any, stockTaking_leaves, ?_, ?_⟩
  · obtain ⟨places, leading, _, _, brings⟩ := groups .standard [] firstOnShelves (fun _ => true) rfl
      (by simp [firstOnShelves]) (by cbv) rfl (fun _ _ => rfl)
      (List.pairwise_of_forall_mem_list fun a ha b hb => textsApart_of_isClear
        (shelves a (List.mem_filter.mp ha).1) (shelves b (List.mem_filter.mp hb).1))
    exact ⟨places, leading, congrArg Prod.fst (brings sortable)⟩
  · exact lookups "places" (Index.build ["shelf", "label"] true stock.rows) [.text "A"] rfl
      fun row hr => textsApart_of_isClear (clear row hr) (by decide)

/-- Somebody is called by the text of `null`, and somebody by nothing. -/
def called : Table :=
  { name := "people"
    columns := [⟨"nick", Column.ofType .text⟩]
    rows := [TextMap.ofList [("nick", .text "null")], TextMap.ofList [("nick", .null)]]
    indexes := TextMap.empty }

/-- The people, one for each nickname. -/
def byNick : SelectStatement :=
  { table := "people"
    fields := []
    filter := none
    groupBy := ["nick"]
    orderBy := []
    limit := none
    offset := none }

/-- A place whose city holds the separator. -/
def place : Row := TextMap.ofList [("city", .text "a\u001fb"), ("street", .text "c")]

/-- Another place, where the street does. -/
def otherPlace : Row := TextMap.ofList [("city", .text "a"), ("street", .text "b\u001fc")]

/-- The first place in a table in which no two places may be the same. -/
def placed : Table :=
  { name := "places"
    columns := [⟨"city", Column.ofType .text⟩, ⟨"street", Column.ofType .text⟩]
    rows := [place]
    indexes := TextMap.ofList [("by_place", Index.build ["city", "street"] true [place])] }

/-- **Keys confuse `null` with its text, and one division of texts with another.** Of two people who
are called by the text of `null` and by nothing a read with groups brings one. A place is refused
for another one, and a look-up of it brings the other. -/
theorem different_texts_one_key :
    (called.rows.map (·.at "nick") = [.text "null", .null] ∧
      (called.rows.map (Row.key ["nick"])) = ["null", "null"] ∧
      ((Store.empty.withTable "people" called).run .standard (.select byNick) []).1 =
        .ok (Result.ofRows [TextMap.ofList [("nick", .text "null")]])) ∧
    (place.key ["city", "street"] = otherPlace.key ["city", "street"] ∧
      place.at "city" ≠ otherPlace.at "city" ∧
      placed.checkUniqueRow otherPlace =
        .error (ExecutionError.constraintViolation "places"
          "duplicate value 'a, b, c' for unique key by_place") ∧
      (Store.empty.withTable "places" placed).indexLookup "places" "by_place"
        [.text "a", .text "b\u001fc"] = .ok [place]) := by
  refine ⟨⟨by cbv, by cbv, by cbv⟩, by cbv, ?_, by cbv, by cbv⟩
  have city : place.at "city" = .text "a\u001fb" := by cbv
  have other : otherPlace.at "city" = .text "a" := by cbv
  rw [city, other]
  exact fun same => absurd (Value.text.inj same) (by decide)

end Relational

end Polystore
