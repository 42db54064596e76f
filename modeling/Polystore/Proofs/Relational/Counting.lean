import Polystore.Proofs.Relational.Numbers

/-!
# The counter keeps up with the rows

As long as every command keeps count, every number in an integer identity is at most its counter, so
that the next number is new and no insertion that leaves the identity out fails on it.

Not every command keeps count. An update that assigns twice to the identity stores the later number
and counts the earlier one. A change of columns carries the counter of the identity that it was
given or added last: a column that becomes the identity by another definition brings numbers that
were never counted, and so does an identity that is left when one added later is gone again.
-/

namespace Polystore.Relational

open Outcome

/-! ## Commands that keep count -/

/-- A command counts every number that it brings into an integer identity: an update assigns to the
identity at most once, and a change of columns leaves, where there are rows, the identity that the
counter follows. There are no more rows than numbers to give to them. -/
def Command.CountsOnce (s : Store) (c : Command) : Prop :=
  match c.statement with
  | .update table assignments _ => ∀ t d, s.tables.get? table = some t → t.identity? = some d →
      d.column.type = .integer → (assignments.map (·.1)).count d.name ≤ 1
  | .alterTable table alterations => ∀ t a, s.tables.get? table = some t →
      t.altered c.config table (s.lastIdentity table t) alterations = .ok a →
      t.rows = [] ∨ t.rows.length < 2 ^ 63 ∧ ∀ name, a.table.integerIdentity? = some name →
        alterations.foldl followed t.integerIdentity? = some name
  | _ => True

/-- A command keeps count, or changes nothing. -/
def Command.KeepsCount (s : Store) (c : Command) : Prop := s.after c = s ∨ c.CountsOnce s

namespace Store

variable {s s' : Store} {table : String} {t : Table}

/-! ## Counted stores -/

/-- The numbers in every integer identity are counted. -/
def Counted (s : Store) : Prop :=
  ∀ table t, s.tables.get? table = some t → ∀ name, t.integerIdentity? = some name →
    ∀ row ∈ t.rows, row.CountedBy name (s.counter table name)

/-- A table is put into a counted store, with its own numbers counted. -/
theorem Counted.withTable (h : s.Counted) (tables : s'.tables = s.tables)
    (others : ∀ other name, table ≠ other → s'.counter other name = s.counter other name)
    (counted : ∀ name, t.integerIdentity? = some name →
      ∀ row ∈ t.rows, row.CountedBy name (s'.counter table name)) :
    (s'.withTable table t).Counted := by
  intro other u found name identity row hr
  rw [counter_withTable]
  rw [Store.withTable, tables, TextMap.get?_insert] at found
  split at found
  · rename_i same
    cases found
    subst same
    exact counted name identity row hr
  · rename_i ne
    rw [others other name ne]
    exact h other u found name identity row hr

/-- A table is put in the place of another one, and no counter is touched. -/
theorem Counted.replace (h : s.Counted) (found : s.tables.get? table = some t) {u : Table}
    (columns : u.columns = t.columns) (rows : ∀ row ∈ u.rows, row ∈ t.rows) :
    (s.withTable table u).Counted := by
  refine h.withTable rfl (fun _ _ _ => rfl) fun name identity row hr => ?_
  rw [Table.integerIdentity?, Table.identity?, columns] at identity
  exact h table t found name identity row (rows row hr)

theorem Counted.dropTable (h : s.Counted) :
    (withoutCounters { s with tables := s.tables.erase table } table).Counted := by
  intro other u found name identity row hr
  rw [tables_withoutCounters, TextMap.get?_erase] at found
  split at found
  · cases found
  · rename_i ne
    rw [counter_withoutCounters_of_ne ne]
    exact h other u found name identity row hr

end Store

/-! ## What commands count -/

variable {config : Config} {params : List Value} {s s' : Store} {table : String} {t : Table}

/-- An insertion counts the number that it adds. -/
theorem counted_inserted {values : List (String × Operand)} {row : Row}
    {counter : Option (String × Int64)} (h : s.Counted) (distinct : t.names.Nodup)
    (found : s.tables.get? table = some t)
    (made : t.newRow config table (s.lastIdentity table t) params values = .ok (row, counter)) :
    ((s.withCounter? table counter).withTable table (t.push row)).Counted := by
  refine h.withTable (by simp) (fun _ _ => Store.counter_withCounter?_of_ne) ?_
  intro name known other ho
  have known : t.integerIdentity? = some name := known
  have before := h table t found name known
  obtain ⟨d, identity, integer, rfl⟩ := Table.integerIdentity?_eq_some.mp known
  have made := (Table.newRow_eq_ok made).1
  rw [Store.lastIdentity_eq identity] at made
  obtain ⟨counted, more, named⟩ := Table.countedBy_of_candidate distinct identity integer made
  rw [Store.counter_withCounter?_self named]
  rcases List.mem_append.mp ho with ho | ho
  · exact (before other ho).mono more
  · obtain rfl := List.mem_singleton.mp ho
    exact counted

/-- An update that assigns to the identity at most once counts the number that it assigns. -/
theorem counted_updated {assignments : List (String × Operand)} {filter : Option Predicate}
    {changes : List (String × Value)} {rows : List (Row × Bool)} {next : Table} (h : s.Counted)
    (distinct : t.names.Nodup) (found : s.tables.get? table = some t)
    (once : Command.CountsOnce s ⟨config, .update table assignments filter, params⟩)
    (assigned : t.changes table params assignments = .ok changes)
    (stored : rows.map (·.1) = t.rows) (made : t.withChanges config rows changes = .ok next) :
    ((s.withCounter? table (next.counterAfter (s.lastIdentity table next) changes)).withTable
      table next).Counted := by
  obtain ⟨_, rfl⟩ := Table.withChanges_eq_ok made
  -- the identity and its counter are those of the table in front of the update
  show ((s.withCounter? table (t.counterAfter (s.lastIdentity table t) changes)).withTable table
    (t.changed rows changes).reindexed).Counted
  refine h.withTable (by simp) (fun _ _ => Store.counter_withCounter?_of_ne) ?_
  intro name known row hr
  have known : t.integerIdentity? = some name := known
  have before := h table t found name known
  obtain ⟨d, identity, integer, rfl⟩ := Table.integerIdentity?_eq_some.mp known
  have beyond : ∀ last b, t.counterAfter last changes = some b → b.1 = d.name ∧ last < b.2 :=
    fun last b => Table.counterAfter_eq_some identity
  rw [Store.counter_withCounter?_self fun b hb => (beyond _ b hb).1, Store.lastIdentity_eq identity]
  rcases Table.mem_changed stored hr with hr | ⟨old, ho, rfl⟩
  · exact (before row hr).mono (le_moved fun b hb => (beyond _ b hb).2)
  · exact Table.countedBy_changedRow distinct identity integer
      (once t d found identity integer) assigned (before old ho)

/-- A change of columns counts the numbers of the identity that it follows. -/
theorem counted_altered {alterations : List Alteration} {a : Altered} (h : s.Counted)
    (found : s.tables.get? table = some t)
    (once : Command.CountsOnce s ⟨config, .alterTable table alterations, params⟩)
    (made : t.altered config table (s.lastIdentity table t) alterations = .ok a) :
    (((s.withoutCounters table).withCounter? table a.counter).withTable table a.table).Counted := by
  refine h.withTable (by simp) ?_ ?_
  · intro other name ne
    rw [Store.counter_withCounter?_of_ne ne, Store.counter_withoutCounters_of_ne ne]
  · intro name identity row hr
    rcases once t a found made with empty | ⟨small, follows⟩
    · have none := Table.length_altered made
      rw [empty] at none
      rw [List.eq_nil_of_length_eq_zero none] at hr
      cases hr
    · have before : ∀ name, t.integerIdentity? = some name →
          ∀ row ∈ t.rows, row.CountedBy name (s.lastIdentity table t) := by
        intro name known
        obtain ⟨d, identity, _, rfl⟩ := Table.integerIdentity?_eq_some.mp known
        rw [Store.lastIdentity_eq identity]
        exact h table t found d.name known
      obtain ⟨last, counter, counted⟩ :=
        (Table.counts_altered small before made (follows name identity)).counted
      rw [counter, Store.counter_withCounter?_self (by rintro b ⟨⟩; rfl)]
      exact counted row hr

/-- **A command that keeps count leaves a counted store counted.** -/
theorem Effect.counted {statement : Statement} {r : Result} (h : s.Counted)
    (wellFormed : s.AllTables Table.WellFormed)
    (once : Command.CountsOnce s ⟨config, statement, params⟩)
    (effect : Effect config params s statement r s') : s'.Counted := by
  cases effect with
  | selected => exact h
  | @tableMade name columns _ t _ made =>
    obtain ⟨_, _, _, rfl⟩ := Table.newTable_eq_ok made
    have others : (s.withoutCounters name).tables = s.tables := rfl
    exact h.withTable others (fun _ _ => Store.counter_withoutCounters_of_ne) fun _ _ _ => nofun
  | tableThere => exact h
  | indexMade found _ made =>
    obtain ⟨_, _, _, rfl⟩ := Table.withIndex_eq_ok made
    exact h.replace found rfl fun _ => id
  | indexThere => exact h
  | inserted _ found made => exact counted_inserted h (wellFormed _ _ found).distinct found made
  | updatedNothing => exact h
  | updated found assigned marked _ made =>
    exact counted_updated h (wellFormed _ _ found).distinct found once assigned
      (Table.map_fst_marked marked) made
  | deletedNothing => exact h
  | deleted found marked =>
    exact h.replace found rfl fun _ => Table.mem_without (Table.map_fst_marked marked)
  | altered found made => exact counted_altered h found once made
  | tableDropped => exact h.dropTable
  | noTable => exact h
  | indexDropped found => exact h.replace found rfl fun _ => id
  | noIndex => exact h
  | noIndexedTable => exact h

theorem Reachable.counted (h : Reachable Command.KeepsCount s) : s.Counted := by
  induction h with
  | empty =>
    intro table t found
    cases found
  | @after s c before keeps ih =>
    have wellFormed : s.AllTables Table.WellFormed :=
      before.any.allTables fun _ c _ => Table.wellFormed_kept c.config
    rcases keeps with unchanged | once
    · rw [unchanged]
      exact ih
    · rcases run_store_cases s c.config c.statement c.params with unchanged | ⟨r, effect⟩
      · rw [Store.after, unchanged]
        exact ih
      · exact effect.counted ih wellFormed once

/-! ## Insertions -/

/-- What an insertion comes to. -/
theorem run_insert {columns : List String} {values : List Operand}
    (fits : columns.length = values.length) (found : s.tables.get? table = some t) :
    (s.run config (.insert table columns values) params).1 =
      (t.newRow config table (s.lastIdentity table t) params (columns.zip values)).map fun added =>
        { rows := [], affected := 1
          insertId := t.reportedColumn.bind fun d => added.1.get? d.name } := by
  show ((insert config params table columns values).run.run s).1 = _
  unfold insert
  rw [if_neg (not_not_intro fits), Step.run_table_bind, found]
  dsimp only
  rw [Steps.run_get_bind, Step.run_lift_bind]
  cases t.newRow config table (s.lastIdentity table t) params (columns.zip values) with
  | error e => rfl
  | ok added => rfl

/-- An insertion is refused for its shape, for what it brings, or for what it repeats. -/
theorem run_insert_eq_error {columns : List String} {values : List Operand} {e : Error}
    (found : s.tables.get? table = some t)
    (h : (s.run config (.insert table columns values) params).1 = .error e) :
    columns.length ≠ values.length ∨
      t.candidate table (s.lastIdentity table t) params (columns.zip values) = .error e ∨
      ∃ row counter, t.candidate table (s.lastIdentity table t) params (columns.zip values) =
          .ok (row, counter) ∧
        ∃ set ∈ t.uniqueSets, t.Repeats set.2 row ∧ e = t.duplicate set.1 (row.key set.2) := by
  by_cases fits : columns.length = values.length
  · rw [run_insert fits found] at h
    refine .inr ?_
    cases made : t.newRow config table (s.lastIdentity table t) params (columns.zip values) with
    | ok added =>
      rw [made] at h
      cases h
    | error e' =>
      rw [made] at h
      cases h
      rcases Table.newRow_eq_error made with refused | ⟨row, counter, made, refused⟩
      · exact .inl refused
      · exact .inr ⟨row, counter, made, Table.checkRowAgainst_eq_error refused⟩
  · exact .inl fits

/-! ## Identities -/

/-- **As long as every command keeps count, the counter of an integer identity is at least every
number in it, and an insertion that leaves the identity out is never refused on it**: such an
insertion fails only when it is of a wrong shape, when it brings what cannot be stored, or when it
repeats something else that must be distinct. -/
theorem identity_numbers_counted {d : ColumnDef} (h : Reachable Command.KeepsCount s)
    (found : s.tables.get? table = some t) (identity : t.identity? = some d)
    (integer : d.column.type = .integer) :
    (∀ row ∈ t.rows, ∃ n, row.at d.name = .int n ∧ n ≤ s.counter table d.name) ∧
      ∀ config params columns values e, d.name ∉ columns →
        (s.run config (.insert table columns values) params).1 = .error e →
        columns.length ≠ values.length ∨
          t.candidate table (s.counter table d.name) params (columns.zip values) = .error e ∨
          ∃ row counter, t.candidate table (s.counter table d.name) params (columns.zip values) =
              .ok (row, counter) ∧
            ¬t.Repeats [d.name] row ∧
            ∃ set ∈ t.uniqueSets, set.2 ≠ [d.name] ∧ t.Repeats set.2 row ∧
              e = t.duplicate set.1 (row.key set.2) := by
  have known := Table.integerIdentity?_eq_some.mpr ⟨d, identity, integer, rfl⟩
  have counted := h.counted table t found d.name known
  refine ⟨counted, fun config params columns values e out failed => ?_⟩
  have refused := run_insert_eq_error found failed
  rw [Store.lastIdentity_eq identity] at refused
  rcases refused with shape | refused | ⟨row, counter, made, set, hset, repeats, named⟩
  · exact .inl shape
  · exact .inr (.inl refused)
  · have out : d.name ∉ (columns.zip values).map (·.1) := by
      intro named
      obtain ⟨given, hg, same⟩ := List.mem_map.mp named
      exact out (same ▸ (List.of_mem_zip hg).1)
    have fresh := Table.not_repeats_of_candidate identity counted out made
    exact .inr (.inr ⟨row, counter, made, fresh, set, hset, fun same => fresh (same ▸ repeats),
      repeats, named⟩)

/-- Commands that keep a list without numbers. -/
def listing : List Command :=
  ([.createTable "items" [⟨"label", Column.ofType .text⟩] false,
    .insert "items" ["label"] [.literal (.text "bolt")],
    .insert "items" ["label"] [.literal .null]] : List Statement).map fun statement =>
      ⟨.standard, statement, []⟩

/-- The identity that numbers the list. -/
def number : Column := (Column.ofType .integer).asPrimary.counting

/-- The rows of the list are numbered. -/
def numbering : Command := ⟨.standard, .alterTable "items" [.add "id" number], []⟩

/-- One row of the list receives another number. -/
def renumbering : Command :=
  ⟨.standard, .update "items" [("id", .literal (.int 7))] (some (.isNull "label" false)), []⟩

/-- The list that is left, its rows numbered. -/
def numberedList : Table :=
  { name := "items"
    columns := [⟨"label", Column.ofType .text⟩, ⟨"id", number⟩]
    rows :=
      [TextMap.ofList [("id", .int 1), ("label", .text "bolt")],
        TextMap.ofList [("id", .int 7), ("label", .null)]]
    indexes := TextMap.empty }

def numberedStore : Store :=
  ((Store.empty.afterAll listing).after numbering).after renumbering

theorem numberedStore_items : numberedStore.tables.get? "items" = some numberedList := by
  cbv

theorem listing_items :
    (Store.empty.afterAll listing).tables.get? "items" =
      some
        { name := "items"
          columns := [⟨"label", Column.ofType .text⟩]
          rows := [TextMap.ofList [("label", .text "bolt")], TextMap.ofList [("label", .null)]]
          indexes := TextMap.empty } := by
  cbv

theorem reachable_numberedStore : Reachable Command.KeepsCount numberedStore := by
  have start : Reachable Command.KeepsCount (Store.empty.afterAll listing) := by
    refine Reachable.empty.afterAll fun c hc s => .inr ?_
    simp only [listing, List.map_cons, List.map_nil, List.mem_cons, List.not_mem_nil, or_false] at hc
    rcases hc with rfl | rfl | rfl <;> trivial
  refine (start.after (.inr ?_)).after (.inr ?_)
  · intro t a found made
    obtain rfl := Option.some.inj (listing_items.symm.trans found)
    cases made
    exact .inr ⟨by decide, fun name known => known⟩
  · intro t d _ _ _
    exact List.count_le_length

theorem identity_numbers_counted_list :
    Reachable Command.KeepsCount numberedStore ∧
      numberedStore.tables.get? "items" = some numberedList ∧
      numberedList.identity? = some ⟨"id", number⟩ ∧ number.type = .integer ∧
      (∀ row ∈ numberedList.rows, ∃ n, row.at "id" = .int n ∧
        n ≤ numberedStore.counter "items" "id") ∧
      ∀ config params columns values e, "id" ∉ columns →
        (numberedStore.run config (.insert "items" columns values) params).1 = .error e →
        columns.length ≠ values.length ∨
          numberedList.candidate "items" (numberedStore.counter "items" "id") params
            (columns.zip values) = .error e ∨
          ∃ row counter, numberedList.candidate "items" (numberedStore.counter "items" "id") params
              (columns.zip values) = .ok (row, counter) ∧
            ¬numberedList.Repeats ["id"] row ∧
            ∃ set ∈ numberedList.uniqueSets, set.2 ≠ ["id"] ∧ numberedList.Repeats set.2 row ∧
              e = numberedList.duplicate set.1 (row.key set.2) :=
  ⟨reachable_numberedStore, numberedStore_items, rfl, rfl,
    identity_numbers_counted reachable_numberedStore numberedStore_items rfl rfl⟩

/-! ### Commands that lose count -/

/-- A statement on a list of items that have numbers already, or come by them. -/
def itemsAfter (id : Column) (change : Statement) : Store :=
  Store.empty.afterAll <|
    ([.createTable "items" [⟨"id", id⟩, ⟨"label", Column.ofType .text⟩] false,
      .insert "items" ["id", "label"] [.literal (.int 1), .literal (.text "bolt")],
      change] : List Statement).map fun statement => ⟨.standard, statement, []⟩

/-- One item with a number. -/
def oneItem (n : Int64) : Table :=
  { name := "items"
    columns := [⟨"id", number⟩, ⟨"label", Column.ofType .text⟩]
    rows := [TextMap.ofList [("id", .int n), ("label", .text "bolt")]]
    indexes := TextMap.empty }

/-- The identity is assigned twice. -/
def assignedTwice : Store :=
  itemsAfter number (.update "items" [("id", .literal (.int 1)), ("id", .literal (.int 2))] none)

/-- A column of numbers becomes the identity. -/
def madeIdentity : Store :=
  itemsAfter (Column.ofType .integer) (.alterTable "items" [.modify "id" number])

/-- Another identity comes and goes. -/
def addedAndDropped : Store :=
  itemsAfter number (.alterTable "items" [.add "other" number, .drop "other"])

/-- An item without a number. -/
def unnumbered : Statement := .insert "items" ["label"] [.literal (.text "nut")]

/-- **Not every command keeps count**: in each of three reachable stores the one item has a number
beyond the counter, and the insertion of an item without a number is refused for that number. -/
theorem numbers_ahead_of_counter :
    (Reachable Command.Any assignedTwice ∧
      assignedTwice.tables.get? "items" = some (oneItem 2) ∧
      assignedTwice.counter "items" "id" = 1 ∧
      (assignedTwice.run .standard unnumbered []).1 = .error ((oneItem 2).duplicate "id" "2")) ∧
    (Reachable Command.Any madeIdentity ∧
      madeIdentity.tables.get? "items" = some (oneItem 1) ∧
      madeIdentity.counter "items" "id" = 0 ∧
      (madeIdentity.run .standard unnumbered []).1 = .error ((oneItem 1).duplicate "id" "1")) ∧
    Reachable Command.Any addedAndDropped ∧
      addedAndDropped.tables.get? "items" = some (oneItem 1) ∧
      addedAndDropped.counter "items" "id" = 0 ∧
      (addedAndDropped.run .standard unnumbered []).1 =
        .error ((oneItem 1).duplicate "id" "1") := by
  have reached : ∀ id change, Reachable Command.Any (itemsAfter id change) :=
    fun _ _ => Reachable.empty.afterAll fun _ _ _ => trivial
  refine ⟨⟨reached .., ?_, ?_, ?_⟩, ⟨reached .., ?_, ?_, ?_⟩, reached .., ?_, ?_, ?_⟩ <;> cbv

end Polystore.Relational
