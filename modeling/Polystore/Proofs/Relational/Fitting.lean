import Polystore.Proofs.Relational.Counting
import Polystore.Proofs.Value.Tuples

/-!
# Rows that fit in

A row that is added is compared with the rows that are there; all other changes compare all rows of
the table that they make. The two checks exempt blank rows in different ways. Comparing all rows
leaves every blank row out. A row to be added is left out if it is blank itself, but it is compared
with blank rows, and has their key if each of its values has the text of `null`. But for such a row
the checks agree, and rows fit into a table in every order or in none.
-/

namespace Polystore

/-! ## Rows with the key of blank ones -/

/-- The row is not blank in columns, but its values have the text of `null` there. -/
def Row.PosesAsBlank (columns : List String) (row : Row) : Prop :=
  row.isBlankIn columns = false ∧ ∀ c ∈ columns, (row.at c).keyText = "null"

/-- The row does not pose as the other one, which would have to be blank. -/
def Row.Discerned (columns : List String) (other row : Row) : Prop :=
  row.PosesAsBlank columns → other.isBlankIn columns = false

instance (columns : List String) (row : Row) : Decidable (row.PosesAsBlank columns) :=
  inferInstanceAs (Decidable (_ ∧ _))

instance (columns : List String) (other row : Row) : Decidable (other.Discerned columns row) :=
  inferInstanceAs (Decidable (_ → _))

/-- The rows with the key of a blank row are those whose values have the text of `null`. -/
theorem Row.key_eq_blank_iff {columns : List String} {row blank : Row}
    (h : blank.isBlankIn columns = true) :
    row.key columns = blank.key columns ↔ ∀ c ∈ columns, (row.at c).keyText = "null" := by
  have nulls : ∀ c ∈ columns, blank.at c = .null := by
    intro c hc
    have null := List.all_eq_true.mp h c hc
    cases value : blank.at c <;> rw [value] at null <;> first | rfl | cases null
  have whole : ∀ v ∈ blank.valuesIn columns, v.isWhole = true := by
    refine List.forall_mem_map.mpr fun c hc => ?_
    rw [nulls c hc]
    rfl
  have length : (row.valuesIn columns).length = (blank.valuesIn columns).length := by simp
  refine (Rows.keyOf_eq_iff_texts length (.inr (.inr whole))).trans ?_
  rw [valuesIn, valuesIn, List.map_map, List.map_map, List.map_inj_left]
  refine forall₂_congr fun c hc => ?_
  rw [Function.comp_apply, Function.comp_apply, nulls c hc]
  rfl

/-- Only a row that poses as blank has the key of a blank one without being blank. -/
theorem Row.Discerned.isBlankIn_of_key_eq {columns : List String} {other row : Row}
    (h : other.Discerned columns row) (filled : row.isBlankIn columns = false)
    (same : other.key columns = row.key columns) : other.isBlankIn columns = false := by
  by_contra blank
  have texts := (key_eq_blank_iff (Bool.eq_true_of_not_eq_false blank)).mp same.symm
  exact blank (h ⟨filled, texts⟩)

theorem DistinctOver.perm {columns : List String} {rows order : List Row}
    (h : DistinctOver columns rows) (perm : order.Perm rows) : DistinctOver columns order :=
  perm.symm.pairwise h fun apart filled other => (apart other filled).symm

/-- Behind distinct rows, a row is repeated that has the key of one of them, neither being blank. -/
theorem firstRepeated_append {columns seen : List String} {rows : List Row} {row : Row}
    (distinct : firstRepeated columns seen rows = none) :
    firstRepeated columns seen (rows ++ [row]) =
      if row.isBlankIn columns = false ∧ (row.key columns ∈ seen ∨
          (rows.any fun other => !other.isBlankIn columns && other.key columns == row.key columns))
        then some (row.key columns) else none := by
  induction rows generalizing seen with
  | nil =>
    rw [List.nil_append, firstRepeated]
    cases row.isBlankIn columns <;> simp [firstRepeated]
  | cons first rest ih =>
    rw [firstRepeated] at distinct
    rw [List.cons_append, firstRepeated, List.any_cons]
    cases blank : first.isBlankIn columns with
    | true =>
      rw [blank, if_pos rfl] at distinct
      rw [if_pos rfl, ih distinct]
      simp
    | false =>
      rw [blank, if_neg Bool.false_ne_true] at distinct
      rw [if_neg Bool.false_ne_true]
      dsimp only at distinct ⊢
      split at distinct
      · cases distinct
      · rename_i fresh
        rw [if_neg fresh, ih distinct]
        simp only [List.mem_cons, Bool.not_false, Bool.true_and, Bool.or_eq_true, beq_iff_eq,
          eq_comm (a := row.key columns), or_assoc, or_left_comm]

namespace Relational

namespace Table

variable {t : Table} {row : Row} {rows : List Row}

/-! ## One row -/

/-- Unless a row poses as a blank one, comparing it with the rows that are there comes to what
comparing all rows comes to. -/
theorem checkRowAgainst_eq_checkSets {sets : List (String × List String)}
    (distinct : ∀ set ∈ sets, DistinctOver set.2 t.rows)
    (discerned : ∀ set ∈ sets, ∀ other ∈ t.rows, other.Discerned set.2 row) :
    t.checkRowAgainst row sets = (t.push row).checkSets sets := by
  induction sets with
  | nil => rfl
  | cons set rest ih =>
    obtain ⟨label, columns⟩ := set
    rw [List.forall_mem_cons] at distinct discerned
    have later := ih distinct.2 discerned.2
    have found : firstRepeated columns [] (t.rows ++ [row]) = _ :=
      firstRepeated_append (firstRepeated_nil_eq_none.mpr distinct.1)
    rw [checkRowAgainst, checkSets, rows_push, found]
    cases filled : row.isBlankIn columns with
    | true =>
      rw [if_pos rfl, if_neg (by simp)]
      exact later
    | false =>
      -- the blank rows have another key, so that it does not matter whether they are compared
      have compared : (t.rows.any fun other => !other.isBlankIn columns &&
          other.key columns == row.key columns) =
          t.rows.any fun other => other.key columns == row.key columns := by
        rw [Bool.eq_iff_iff, List.any_eq_true, List.any_eq_true]
        refine exists_congr fun other => and_congr_right fun ho => ?_
        rw [Bool.and_eq_true, beq_iff_eq, Bool.not_eq_true', and_iff_right_iff_imp]
        exact (discerned.1 other ho).isBlankIn_of_key_eq filled
      rw [if_neg Bool.false_ne_true, compared]
      dsimp only
      cases t.rows.any fun other => other.key columns == row.key columns with
      | true =>
        rw [if_pos rfl, if_pos ⟨rfl, .inr rfl⟩]
        rfl
      | false =>
        rw [if_neg Bool.false_ne_true, if_neg (by simp)]
        exact later

theorem checkUniqueRow_eq_checkUniqueAll (h : t.Distinct)
    (discerned : ∀ set ∈ t.uniqueSets, ∀ other ∈ t.rows, other.Discerned set.2 row) :
    t.checkUniqueRow row = (t.push row).checkUniqueAll := by
  rw [checkUniqueAll, uniqueSets_push]
  exact checkRowAgainst_eq_checkSets h discerned

/-- A row passes just when all rows do with it, and it does not pose as a blank one. -/
theorem checkUniqueRow_eq_ok_iff (h : t.Distinct) :
    t.checkUniqueRow row = .ok () ↔ (t.push row).checkUniqueAll = .ok () ∧
      ∀ set ∈ t.uniqueSets, ∀ other ∈ t.rows, other.Discerned set.2 row := by
  constructor
  · refine fun passes => ⟨distinct_iff.mp (h.push passes), fun set hset other ho poses => ?_⟩
    by_contra blank
    have same := (Row.key_eq_blank_iff (Bool.eq_true_of_not_eq_false blank)).mpr poses.2
    exact checkRowAgainst_eq_ok.mp passes set hset ⟨poses.1, other, ho, same.symm⟩
  · rintro ⟨all, discerned⟩
    rw [checkUniqueRow_eq_checkUniqueAll h discerned]
    exact all

/-! ## Rows, one after the other -/

/-- Rows pass, each compared with the rows that are there when it is added. -/
def Fits (t : Table) : List Row → Prop
  | [] => True
  | row :: rest => t.checkUniqueRow row = .ok () ∧ (t.push row).Fits rest

/-- The table with more rows behind its own, its indexes left as they are. -/
def followed (t : Table) (rows : List Row) : Table := { t with rows := t.rows ++ rows }

theorem checkUniqueAll_followed_iff :
    (t.followed rows).checkUniqueAll = .ok () ↔
      ∀ set ∈ t.uniqueSets, DistinctOver set.2 (t.rows ++ rows) :=
  checkSets_eq_ok

/-- Rows fit in one after the other just when all are distinct and none poses as a blank one that is
there or comes before it. -/
theorem fits_iff (h : t.Distinct) :
    t.Fits rows ↔ (t.followed rows).checkUniqueAll = .ok () ∧
      ∀ set ∈ t.uniqueSets, (∀ other ∈ t.rows, ∀ row ∈ rows, other.Discerned set.2 row) ∧
        rows.Pairwise (Row.Discerned set.2) := by
  rw [checkUniqueAll_followed_iff]
  induction rows generalizing t with
  | nil =>
    refine iff_of_true trivial ⟨fun set hset => ?_, fun set hset => ⟨by simp, List.Pairwise.nil⟩⟩
    rw [List.append_nil]
    exact h set hset
  | cons row rest ih =>
    rw [Fits, checkUniqueRow_eq_ok_iff h, ← distinct_iff]
    have step (next : (t.push row).Distinct) := ih next
    simp only [uniqueSets_push, rows_push, List.append_assoc, List.singleton_append] at step
    constructor
    · rintro ⟨⟨next, discerned⟩, fits⟩
      obtain ⟨distinct, apart⟩ := (step next).mp fits
      refine ⟨distinct, fun set hset => ⟨fun other ho => ?_, ?_⟩⟩
      · exact List.forall_mem_cons.mpr ⟨discerned set hset other ho,
          (apart set hset).1 other (List.mem_append_left _ ho)⟩
      · exact List.pairwise_cons.mpr
          ⟨(apart set hset).1 row (List.mem_append_right _ (List.mem_singleton_self row)),
            (apart set hset).2⟩
    · rintro ⟨distinct, apart⟩
      have next : (t.push row).Distinct := by
        intro set hset
        rw [uniqueSets_push] at hset
        refine (distinct set hset).sublist (List.Sublist.append_left ?_ t.rows)
        exact (List.nil_sublist rest).cons_cons row
      refine ⟨⟨next, fun set hset other ho => (apart set hset).1 other ho row List.mem_cons_self⟩,
        (step next).mpr ⟨distinct, fun set hset => ⟨?_, ?_⟩⟩⟩
      · intro other ho later hl
        rcases List.mem_append.mp ho with ho | ho
        · exact (apart set hset).1 other ho later (List.mem_cons_of_mem row hl)
        · obtain rfl := List.mem_singleton.mp ho
          exact (List.pairwise_cons.mp (apart set hset).2).1 later hl
      · exact (List.pairwise_cons.mp (apart set hset).2).2

theorem checkUniqueAll_followed_perm {order : List Row} (perm : order.Perm rows)
    (passes : (t.followed rows).checkUniqueAll = .ok ()) :
    (t.followed order).checkUniqueAll = .ok () := by
  rw [checkUniqueAll_followed_iff] at passes ⊢
  exact fun set hset => (passes set hset).perm (perm.append_left t.rows)

/-- None of the rows poses in a unique set as a blank one, be it of the table or one of the rows. -/
def DiscernsAll (t : Table) (rows : List Row) : Prop :=
  ∀ set ∈ t.uniqueSets, ∀ other ∈ t.rows ++ rows, ∀ row ∈ rows, other.Discerned set.2 row

instance (t : Table) (rows : List Row) : Decidable (t.DiscernsAll rows) :=
  inferInstanceAs (Decidable (∀ _ ∈ _, _))

/-- If none of the rows poses as a blank one, they fit in just when all rows are distinct. -/
theorem DiscernsAll.fits_iff {order : List Row} (discerns : t.DiscernsAll rows) (h : t.Distinct)
    (perm : order.Perm rows) :
    t.Fits order ↔ (t.followed rows).checkUniqueAll = .ok () := by
  rw [Table.fits_iff h]
  constructor
  · exact fun fits => checkUniqueAll_followed_perm perm.symm fits.1
  · refine fun passes => ⟨checkUniqueAll_followed_perm perm passes, fun set hset => ⟨?_, ?_⟩⟩
    · exact fun other ho row hr =>
        discerns set hset other (List.mem_append_left _ ho) row (perm.subset hr)
    · refine List.pairwise_of_forall_mem_list fun other ho row hr => ?_
      exact discerns set hset other (List.mem_append_right _ (perm.subset ho)) row (perm.subset hr)

/-- **Rows fit in in every order just when all rows are distinct and none poses as a blank one.** -/
theorem fits_in_every_order_iff (h : t.Distinct) :
    (∀ order : List Row, order.Perm rows → t.Fits order) ↔
      (t.followed rows).checkUniqueAll = .ok () ∧ t.DiscernsAll rows := by
  constructor
  · intro fits
    have given := (Table.fits_iff h).mp (fits rows (List.Perm.refl rows))
    refine ⟨given.1, fun set hset other ho row hr poses => ?_⟩
    rcases List.mem_append.mp ho with ho | ho
    · exact (given.2 set hset).1 other ho row hr poses
    · -- the other row is put in front of all
      by_contra blank
      obtain ⟨front, behind, rfl⟩ := List.append_of_mem ho
      have first := (Table.fits_iff h).mp (fits (other :: (front ++ behind)) List.perm_middle.symm)
      have there : row ∈ front ++ behind := by
        simp only [List.mem_append, List.mem_cons] at hr ⊢
        rcases hr with hr | rfl | hr
        · exact .inl hr
        · exact absurd poses.1 blank
        · exact .inr hr
      exact blank ((List.pairwise_cons.mp (first.2 set hset).2).1 row there poses)
  · rintro ⟨passes, discerns⟩ order perm
    exact (discerns.fits_iff h perm).mpr passes

end Table

/-! ## Insertions, one after the other -/

open Outcome

/-- The command adds one row to a table whatever number was given last, and duplicates are refused
meanwhile. -/
structure Command.Brings (c : Command) (table : String) (t : Table) (row : Row) : Prop where
  enforced : c.config.enforceUnique = true
  adds : ∃ columns values, c.statement = .insert table columns values ∧
    columns.length = values.length ∧
    ∀ last, ∃ counter, t.candidate table last c.params (columns.zip values) = .ok (row, counter)

namespace Command.Brings

variable {c : Command} {table : String} {t : Table} {row : Row} {s : Store}

/-- What a command brings has nothing to do with the rows that are there. -/
theorem push (h : c.Brings table t row) (other : Row) : c.Brings table (t.push other) row := by
  obtain ⟨columns, values, inserts, fits, made⟩ := h.adds
  refine ⟨h.enforced, columns, values, inserts, fits, fun last => ?_⟩
  have same : (t.push other).candidate table last c.params (columns.zip values) =
      t.candidate table last c.params (columns.zip values) := by
    rw [Table.push, Table.candidate, Table.candidate, Table.givenRow_withRows]
    rfl
  rw [same]
  exact made last

/-- The insertion succeeds just when its row passes, and then the row is there. -/
theorem answer_and_after (h : c.Brings table t row) (found : s.tables.get? table = some t) :
    ((∃ r, s.answer c = .ok r) ↔ t.checkUniqueRow row = .ok ()) ∧
      (t.checkUniqueRow row = .ok () → (s.after c).tables.get? table = some (t.push row)) := by
  obtain ⟨columns, values, inserts, fits, made⟩ := h.adds
  obtain ⟨counter, made⟩ := made (s.lastIdentity table t)
  have added : t.newRow c.config table (s.lastIdentity table t) c.params (columns.zip values) =
      (t.checkUniqueRow row).map fun _ => (row, counter) := by
    rw [Table.newRow_eq, made, ok_bind, h.enforced]
    dsimp only
    rw [if_pos rfl]
    cases t.checkUniqueRow row <;> rfl
  have answered : (s.run c.config (.insert table columns values) c.params).1 = _ :=
    run_insert fits found
  rw [added] at answered
  rw [Store.answer, Store.after, inserts]
  generalize ran : s.run c.config (.insert table columns values) c.params = run at answered ⊢
  obtain ⟨outcome, next⟩ := run
  dsimp only at answered ⊢
  cases passes : t.checkUniqueRow row with
  | error e =>
    rw [passes] at answered
    have refused : outcome = .error e := answered
    subst refused
    simp
  | ok _ =>
    rw [passes] at answered added
    obtain ⟨r, rfl⟩ : ∃ r, outcome = .ok r := ⟨_, answered⟩
    refine ⟨iff_of_true ⟨r, rfl⟩ rfl, fun _ => ?_⟩
    cases run_effect ran with
    | inserted _ found' made' =>
      obtain rfl := Option.some.inj (found'.symm.trans found)
      obtain ⟨rfl, rfl⟩ := Prod.mk.inj (Except.ok.inj (made'.symm.trans added))
      exact TextMap.get?_insert_self ..

end Command.Brings

/-- Insertions succeed, all of them, just when their rows fit in one after the other. -/
theorem insertions_succeed_iff {entries : List (Command × Row)} {table : String} {t : Table}
    {s : Store} (found : s.tables.get? table = some t)
    (bring : ∀ b ∈ entries, b.1.Brings table t b.2) :
    (∀ o ∈ s.answers (entries.map (·.1)), ∃ r, o = .ok r) ↔ t.Fits (entries.map (·.2)) := by
  induction entries generalizing s t with
  | nil => exact iff_of_true (List.forall_mem_nil _) trivial
  | cons entry rest ih =>
    rw [List.forall_mem_cons] at bring
    obtain ⟨answer, after⟩ := bring.1.answer_and_after found
    rw [List.map_cons, List.map_cons, Store.answers, List.forall_mem_cons, Table.Fits, answer]
    exact and_congr_right fun passes =>
      ih (after passes) fun b hb => (bring.2 b hb).push entry.2

/-- Rows in another order come from what brings them in that order. -/
theorem exists_order {entries : List (Command × Row)} {order : List Row}
    (perm : order.Perm (entries.map (·.2))) :
    ∃ other : List (Command × Row), other.Perm entries ∧ other.map (·.2) = order := by
  have brought : List.Forall₂ (fun row (b : Command × Row) => row = b.2) (entries.map (·.2))
      entries := by
    rw [List.forall₂_map_left_iff]
    exact List.forall₂_same.mpr fun _ _ => rfl
  obtain ⟨other, along, perm⟩ := List.perm_comp_forall₂ perm brought
  have same : List.Forall₂ Eq order (other.map (·.2)) := List.forall₂_map_right_iff.mpr along
  rw [List.forall₂_eq_eq_eq] at same
  exact ⟨other, perm, same.symm⟩

/-- **A row is checked as all rows are, unless it poses as a blank one.** It passes just when all
rows pass with it and it does not pose as a blank row of the table, and if it does not, the two
checks come to the same, errors included. So insertions whose rows pose neither as blank rows of the
table nor as one another succeed, all of them and in whatever order, just when all rows are
distinct; and insertions succeed in every order only then. -/
theorem row_check_agrees_with_full_check {t : Table} (passes : t.checkUniqueAll = .ok ()) :
    (∀ row : Row,
      (t.checkUniqueRow row = .ok () ↔ (t.push row).checkUniqueAll = .ok () ∧
        ∀ set ∈ t.uniqueSets, ∀ other ∈ t.rows, other.Discerned set.2 row) ∧
      ((∀ set ∈ t.uniqueSets, ∀ other ∈ t.rows, other.Discerned set.2 row) →
        t.checkUniqueRow row = (t.push row).checkUniqueAll)) ∧
    ∀ (s : Store) (table : String) (entries : List (Command × Row)),
      s.tables.get? table = some t → (∀ b ∈ entries, b.1.Brings table t b.2) →
      (t.DiscernsAll (entries.map (·.2)) → ∀ order : List (Command × Row), order.Perm entries →
        ((∀ o ∈ s.answers (order.map (·.1)), ∃ r, o = .ok r) ↔
          (t.followed (entries.map (·.2))).checkUniqueAll = .ok ())) ∧
      ((∀ order : List (Command × Row), order.Perm entries →
          ∀ o ∈ s.answers (order.map (·.1)), ∃ r, o = .ok r) ↔
        (t.followed (entries.map (·.2))).checkUniqueAll = .ok () ∧
          t.DiscernsAll (entries.map (·.2))) := by
  have distinct := Table.distinct_iff.mpr passes
  refine ⟨fun row => ⟨Table.checkUniqueRow_eq_ok_iff distinct,
    Table.checkUniqueRow_eq_checkUniqueAll distinct⟩, fun s table entries found bring => ?_⟩
  have succeed (order : List (Command × Row)) (perm : order.Perm entries) :
      (∀ o ∈ s.answers (order.map (·.1)), ∃ r, o = .ok r) ↔ t.Fits (order.map (·.2)) :=
    insertions_succeed_iff found fun b hb => bring b (perm.subset hb)
  constructor
  · intro discerns order perm
    rw [succeed order perm]
    exact discerns.fits_iff distinct (perm.map _)
  · rw [← Table.fits_in_every_order_iff distinct]
    constructor
    · intro all order perm
      obtain ⟨other, along, rfl⟩ := exists_order perm
      exact (succeed other along).mp (all other along)
    · exact fun fits order perm => (succeed order perm).mpr (fits _ (perm.map _))

/-- Somebody by nickname. -/
def nicked (nick : Value) : Row := TextMap.ofList [("nick", nick)]

/-- Guests with different nicknames, so far somebody who has none. -/
def guestList : Table :=
  { name := "guests"
    columns := [⟨"nick", (Column.ofType .text).asUnique⟩]
    rows := [nicked .null]
    indexes := TextMap.empty }

/-- The insertion of a guest, and the row that it brings. -/
def arrival (nick : Value) : Command × Row :=
  (⟨.standard, .insert "guests" ["nick"] [.literal nick], []⟩, nicked nick)

theorem brings_arrival {nick : Value} (textual : nick.isTextual = true) :
    (arrival nick).1.Brings "guests" guestList (nicked nick) := by
  refine ⟨rfl, ["nick"], [.literal nick], rfl, rfl, fun last => ⟨none, ?_⟩⟩
  cases nick <;> first | rfl | cases textual

/-- Two guests and another one without a nickname. -/
def arrivals : List (Command × Row) :=
  [arrival (.text "ada"), arrival .null, arrival (.text "bo")]

theorem row_check_agrees_with_full_check_arrivals :
    guestList.checkUniqueAll = .ok () ∧
      guestList.checkUniqueRow (nicked (.text "ada")) =
        (guestList.push (nicked (.text "ada"))).checkUniqueAll ∧
      ∀ order : List (Command × Row), order.Perm arrivals →
        ∀ o ∈ (Store.empty.withTable "guests" guestList).answers (order.map (·.1)),
          ∃ r, o = .ok r := by
  have passes : guestList.checkUniqueAll = .ok () := by cbv
  obtain ⟨one, several⟩ := row_check_agrees_with_full_check passes
  have bring : ∀ b ∈ arrivals, b.1.Brings "guests" guestList b.2 := by
    simp only [arrivals, List.forall_mem_cons, List.not_mem_nil, false_imp_iff, implies_true,
      and_true]
    exact ⟨brings_arrival rfl, brings_arrival rfl, brings_arrival rfl⟩
  have discerned : guestList.DiscernsAll (arrivals.map (·.2)) := by
    decide +kernel
  have found : (Store.empty.withTable "guests" guestList).tables.get? "guests" = some guestList :=
    TextMap.get?_insert_self ..
  refine ⟨passes, (one (nicked (.text "ada"))).2 (by decide +kernel), ?_⟩
  exact (several _ "guests" arrivals found bring).2.mpr ⟨by cbv, discerned⟩

/-- **Somebody without a nickname keeps out whoever is called by the text of `null`**, although the
two are distinct, and in the other order both come in. -/
theorem text_of_null_kept_out :
    (guestList.checkUniqueAll = .ok () ∧
      (guestList.push (nicked (.text "null"))).checkUniqueAll = .ok () ∧
      guestList.checkUniqueRow (nicked (.text "null")) =
        .error (ExecutionError.constraintViolation "guests"
          "duplicate value 'null' for unique key nick")) ∧
    let s := Store.empty.withTable "guests" { guestList with rows := [] }
    let added : Result := { rows := [], affected := 1, insertId := none }
    s.answers [(arrival (.text "null")).1, (arrival .null).1] = [.ok added, .ok added] ∧
      s.answers [(arrival .null).1, (arrival (.text "null")).1] =
        [.ok added, .error (ExecutionError.constraintViolation "guests"
          "duplicate value 'null' for unique key nick")] := by
  refine ⟨⟨by cbv, by cbv, by cbv⟩, ?_, ?_⟩ <;> cbv

end Relational

end Polystore
