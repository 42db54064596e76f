import Polystore.Proofs.Relational.Locality
import Polystore.Proofs.Relational.Unindexed

/-!
# Indexes that are not unique are not observed

Take an index that is not unique away from a store. As long as no statement names it, every
statement comes to what it came to with the index, and the stores behind it again differ in nothing
but the index. This goes on over any number of statements: the table may lose the columns of the
index and with them the index itself, or be dropped and made anew. So a run never shows whether the
index is there.
-/

namespace Polystore

/-- Whether a statement makes or drops an index of a name on a table. -/
def Statement.namesIndex (table index : String) : Statement → Bool
  | .createIndex t i _ _ _ => t == table && i == index
  | .dropIndex t i _ => t == table && i == index
  | _ => false

namespace Relational

open Outcome

/-! ## Shares without an index -/

namespace Share

variable {x : Share} {index : String}

/-- The share with its table without an index. -/
def withoutIndex (x : Share) (index : String) : Share :=
  { x with table := x.table.map (·.withoutIndex index) }

/-- The table, if it is there, has no unique index of a name. -/
def Plain (index : String) (x : Share) : Prop := ∀ t, x.table = some t → t.Plain index

theorem isSome_table_withoutIndex (x : Share) (index : String) :
    (x.withoutIndex index).table.isSome = x.table.isSome := Option.isSome_map

theorem withoutIndex_withTable (x : Share) (index : String) (t : Table) :
    (x.withoutIndex index).withTable (t.withoutIndex index) =
      (x.withTable t).withoutIndex index := rfl

theorem withoutIndex_withCounter? (x : Share) (index : String)
    (counter : Option (String × Int64)) :
    (x.withoutIndex index).withCounter? counter = (x.withCounter? counter).withoutIndex index := by
  cases counter <;> rfl

theorem withoutIndex_withoutCounters (x : Share) (index : String) :
    { x.withoutIndex index with counters := none } =
      Share.withoutIndex { x with counters := none } index := rfl

theorem lastIdentity_withoutIndex (x : Share) (index : String) (t : Table) :
    (x.withoutIndex index).lastIdentity (t.withoutIndex index) = x.lastIdentity t := rfl

theorem plain_withTable {t : Table} (plain : t.Plain index) (x : Share) :
    (x.withTable t).Plain index := by
  rintro u ⟨⟩
  exact plain

end Share

/-- What a statement comes to on a share, and what it comes to on the share without the index: the
results are the same, the next shares differ in the index, and it is still not unique. -/
structure Mirrors (index : String) (o o' : Outcome (Result × Share)) : Prop where
  same : o' = o.map fun made => (made.1, made.2.withoutIndex index)
  plain : ∀ r x, o = .ok (r, x) → x.Plain index

namespace Mirrors

variable {index : String} {α : Type}

theorem error (e : Error) : Mirrors index (.error e) (.error e) := ⟨rfl, by simp⟩

theorem ok {x : Share} (r : Result) (plain : x.Plain index) :
    Mirrors index (.ok (r, x)) (.ok (r, x.withoutIndex index)) := by
  refine ⟨rfl, ?_⟩
  rintro _ _ ⟨⟩
  exact plain

/-- A part that comes to the same with the index and without it. -/
theorem bind {o : Outcome α} {f f' : α → Outcome (Result × Share)}
    (next : ∀ a, o = .ok a → Mirrors index (f a) (f' a)) :
    Mirrors index (o >>= f) (o >>= f') := by
  cases o with
  | error e => exact error e
  | ok a => exact next a rfl

/-- A part that makes a table, and makes it without the index if the index is not there. -/
theorem map_bind {o : Outcome α} {without : α → α} {f f' : α → Outcome (Result × Share)}
    (next : ∀ a, o = .ok a → Mirrors index (f a) (f' (without a))) :
    Mirrors index (o >>= f) (o.map without >>= f') := by
  cases o with
  | error e => exact error e
  | ok a => exact next a rfl

/-- The table is there with the index and without it, or is in neither share. -/
theorem require {x : Share} (plain : x.Plain index) (name : String)
    {f f' : Table → Outcome (Result × Share)}
    (next : ∀ t, t.Plain index → Mirrors index (f t) (f' (t.withoutIndex index))) :
    Mirrors index (x.require name >>= f) ((x.withoutIndex index).require name >>= f') := by
  obtain ⟨table, counters⟩ := x
  cases table with
  | none => exact error _
  | some t => exact next t (plain t rfl)

end Mirrors

/-! ## Statements without an index -/

section

variable {x : Share} {index : String} (config : Config) (params : List Value)

theorem mirrors_select (plain : x.Plain index) (q : SelectStatement) :
    Mirrors index (onShare config params x (.select q))
      (onShare config params (x.withoutIndex index) (.select q)) := by
  refine .require plain q.table fun t _ => ?_
  rw [Table.select_withoutIndex]
  exact .bind fun rows _ => .ok _ plain

theorem mirrors_createTable (plain : x.Plain index) (name : String) (columns : List ColumnDef)
    (ifNotExists : Bool) :
    Mirrors index (onShare config params x (.createTable name columns ifNotExists))
      (onShare config params (x.withoutIndex index) (.createTable name columns ifNotExists)) := by
  unfold onShare
  dsimp only
  rw [Share.isSome_table_withoutIndex]
  split
  · split
    · exact .ok _ plain
    · exact .error _
  · refine .bind fun t made => ?_
    obtain ⟨_, _, _, rfl⟩ := Table.newTable_eq_ok made
    -- a new table has no index at all
    refine .ok (x := ⟨some _, none⟩) Result.done ?_
    rintro _ ⟨⟩
    simp [Table.Plain, TextMap.empty]

theorem mirrors_createIndex (plain : x.Plain index) {table other : String}
    (ne : other ≠ index) (columns : List String) (unique ifNotExists : Bool) :
    Mirrors index (onShare config params x (.createIndex table other columns unique ifNotExists))
      (onShare config params (x.withoutIndex index)
        (.createIndex table other columns unique ifNotExists)) := by
  refine .require plain table fun t clear => ?_
  rw [Table.contains_withoutIndex ne, Table.withIndex_withoutIndex ne]
  split
  · split
    · exact .ok _ plain
    · exact .error _
  · exact .map_bind fun next made => .ok _ (Share.plain_withTable (clear.withIndex ne made) x)

theorem mirrors_insert (plain : x.Plain index) (table : String) (columns : List String)
    (values : List Operand) :
    Mirrors index (onShare config params x (.insert table columns values))
      (onShare config params (x.withoutIndex index) (.insert table columns values)) := by
  unfold onShare
  dsimp only
  split
  · exact .error _
  · refine .require plain table fun t clear => ?_
    rw [Share.lastIdentity_withoutIndex, Table.newRow_withoutIndex clear]
    refine .bind fun added _ => ?_
    rw [Table.push_withoutIndex, Share.withoutIndex_withCounter?, Share.withoutIndex_withTable]
    exact .ok _ (Share.plain_withTable (clear.push added.1) _)

theorem mirrors_update (plain : x.Plain index) (table : String)
    (assignments : List (String × Operand)) (filter : Option Predicate) :
    Mirrors index (onShare config params x (.update table assignments filter))
      (onShare config params (x.withoutIndex index) (.update table assignments filter)) := by
  refine .require plain table fun t clear => ?_
  rw [Table.changes_withoutIndex, Table.marked_withoutIndex]
  refine .bind fun changes _ => .bind fun rows _ => ?_
  rw [Table.withChanges_withoutIndex clear]
  split
  · exact .ok _ plain
  · refine .map_bind fun next made => ?_
    dsimp only
    rw [Share.withoutIndex_withCounter?, Share.withoutIndex_withTable]
    exact .ok _ (Share.plain_withTable (clear.withChanges made) _)

theorem mirrors_delete (plain : x.Plain index) (table : String) (filter : Option Predicate) :
    Mirrors index (onShare config params x (.delete table filter))
      (onShare config params (x.withoutIndex index) (.delete table filter)) := by
  refine .require plain table fun t clear => ?_
  rw [Table.marked_withoutIndex]
  refine .bind fun rows _ => ?_
  rw [Table.without_withoutIndex]
  split
  · exact .ok _ plain
  · exact .ok _ (Share.plain_withTable (clear.without rows) _)

theorem mirrors_alterTable (plain : x.Plain index) (table : String)
    (alterations : List Alteration) :
    Mirrors index (onShare config params x (.alterTable table alterations))
      (onShare config params (x.withoutIndex index) (.alterTable table alterations)) := by
  refine .require plain table fun t clear => ?_
  rw [Share.lastIdentity_withoutIndex, Table.altered_withoutIndex clear]
  refine .map_bind fun a made => ?_
  rw [Share.withoutIndex_withoutCounters, Share.withoutIndex_withCounter?]
  exact .ok _ (Share.plain_withTable (clear.altered made) _)

theorem mirrors_dropTable (plain : x.Plain index) (name : String) (ifExists : Bool) :
    Mirrors index (onShare config params x (.dropTable name ifExists))
      (onShare config params (x.withoutIndex index) (.dropTable name ifExists)) := by
  unfold onShare
  dsimp only
  rw [Share.isSome_table_withoutIndex]
  split
  · exact .ok (x := ⟨none, none⟩) _ (by simp [Share.Plain])
  · split
    · exact .ok _ plain
    · exact .error _

theorem mirrors_dropIndex (plain : x.Plain index) {table other : String} (ne : other ≠ index)
    (ifExists : Bool) :
    Mirrors index (onShare config params x (.dropIndex table other ifExists))
      (onShare config params (x.withoutIndex index) (.dropIndex table other ifExists)) := by
  have own : (x.withoutIndex index).table = x.table.map (·.withoutIndex index) := rfl
  unfold onShare
  dsimp only
  rw [own]
  cases found : x.table with
  | none =>
    dsimp only [Option.map_none]
    split
    · exact .ok _ plain
    · exact .error _
  | some t =>
    have clear : t.Plain index := plain t found
    dsimp only [Option.map_some]
    rw [Table.contains_withoutIndex ne, Table.dropIndex_withoutIndex, Share.withoutIndex_withTable]
    split
    · exact .ok _ (Share.plain_withTable (clear.dropIndex other) x)
    · split
      · exact .ok _ plain
      · exact .error _

/-- **A statement that does not name the index comes to the same without it.** -/
theorem mirrors_onShare (plain : x.Plain index) {statement : Statement}
    (unnamed : statement.namesIndex statement.table index = false) :
    Mirrors index (onShare config params x statement)
      (onShare config params (x.withoutIndex index) statement) := by
  cases statement with
  | createTable table columns ifNotExists =>
    exact mirrors_createTable config params plain table columns ifNotExists
  | createIndex table other columns unique ifNotExists =>
    have ne : other ≠ index := by simpa [Statement.namesIndex, Statement.table] using unnamed
    exact mirrors_createIndex config params plain ne columns unique ifNotExists
  | insert table columns values => exact mirrors_insert config params plain table columns values
  | select q => exact mirrors_select config params plain q
  | update table assignments filter =>
    exact mirrors_update config params plain table assignments filter
  | delete table filter => exact mirrors_delete config params plain table filter
  | alterTable table alterations => exact mirrors_alterTable config params plain table alterations
  | dropTable table ifExists => exact mirrors_dropTable config params plain table ifExists
  | dropIndex table other ifExists =>
    have ne : other ≠ index := by simpa [Statement.namesIndex, Statement.table] using unnamed
    exact mirrors_dropIndex config params plain ne ifExists

end

/-! ## Runs without an index -/

namespace Store

variable {s : Store} {table index : String}

/-- The store with a table without an index, if the table is there. -/
def withoutIndex (s : Store) (table index : String) : Store :=
  s.withShare table ((s.share table).withoutIndex index)

/-- **A command that does not name the index comes to the same without it**, and leaves a store that
is the same but for the index. -/
theorem command_withoutIndex {c : Command} (plain : (s.share table).Plain index)
    (unnamed : c.statement.namesIndex table index = false) :
    (s.withoutIndex table index).answer c = s.answer c ∧
      (s.withoutIndex table index).after c = (s.after c).withoutIndex table index ∧
      ((s.after c).share table).Plain index := by
  by_cases own : c.statement.table = table
  · subst own
    -- on its own share the statement mirrors itself, and the rest of the store stays
    obtain ⟨same, kept⟩ := mirrors_onShare c.config c.params plain unnamed
    rw [answer_eq, after_eq, withoutIndex, share_withShare_self, withShare_withShare, answer_eq s,
      after_eq s, withoutIndex, share_withShare_self, withShare_withShare, Share.answer,
      Share.answer, Share.after, Share.after, same]
    cases made : onShare c.config c.params (s.share c.statement.table) c.statement with
    | error e => exact ⟨rfl, rfl, plain⟩
    | ok next => exact ⟨rfl, rfl, kept next.1 next.2 made⟩
  · -- the index is on another table, and the command does not see it
    have apart : (s.withoutIndex table index).share c.statement.table = s.share c.statement.table :=
      share_withShare_of_ne (Ne.symm own) s _
    rw [answer_eq, after_eq, apart, ← answer_eq, share_after_of_ne own, withoutIndex, withoutIndex,
      share_after_of_ne own, after_eq s]
    exact ⟨rfl, withShare_comm (Ne.symm own) s _ _, plain⟩

/-- What one command after the other comes to without the index. -/
theorem commands_withoutIndex {commands : List Command} (plain : (s.share table).Plain index)
    (unnamed : ∀ c ∈ commands, c.statement.namesIndex table index = false) :
    (s.withoutIndex table index).answers commands = s.answers commands ∧
      (s.withoutIndex table index).afterAll commands =
        (s.afterAll commands).withoutIndex table index := by
  induction commands generalizing s with
  | nil => exact ⟨rfl, rfl⟩
  | cons c rest ih =>
    obtain ⟨answer, after, plain⟩ := command_withoutIndex plain (unnamed c List.mem_cons_self)
    obtain ⟨answers, afterAll⟩ := ih plain fun d hd => unnamed d (List.mem_cons_of_mem c hd)
    constructor
    · rw [Store.answers, Store.answers, answer, after, answers]
    · show ((s.withoutIndex table index).after c).afterAll rest = _
      rw [after, afterAll]
      rfl

/-- The store with an index on a table. -/
def withIndex (s : Store) (table : String) (t : Table) (index : String) (i : Index) : Store :=
  s.withTable table { t with indexes := t.indexes.insert index i }

variable {t : Table} {i : Index}

theorem share_withIndex (s : Store) (table : String) (t : Table) (index : String) (i : Index) :
    (s.withIndex table t index i).share table =
      (s.share table).withTable { t with indexes := t.indexes.insert index i } := by
  rw [withIndex, withTable_eq, share_withShare_self]

/-- An index that was put in under a free name is taken out again. -/
theorem withoutIndex_withIndex (found : s.tables.get? table = some t)
    (free : t.indexes.contains index = false) :
    (s.withIndex table t index i).withoutIndex table index = s := by
  have own : Share.withoutIndex
      ((s.share table).withTable { t with indexes := t.indexes.insert index i }) index =
        s.share table := by
    show (⟨some { t with indexes := (t.indexes.insert index i).erase index },
      (s.share table).counters⟩ : Share) = ⟨s.tables.get? table, (s.share table).counters⟩
    rw [TextMap.erase_insert_self free, found]
  rw [withoutIndex, share_withIndex, own, withIndex, withTable_eq, withShare_withShare,
    withShare_share]

end Store

/-- **An index that is not unique is not observed.** Put such an index under a free name on a table
of a store: commands that neither make nor drop an index of that name on that table come to the same
results and the same errors, one by one, and the two stores at the end are the same but for the
index. -/
theorem plain_index_unobserved {s : Store} {table index : String} {t : Table} {i : Index}
    {commands : List Command} (found : s.tables.get? table = some t)
    (free : t.indexes.contains index = false) (plain : i.unique = false)
    (unnamed : ∀ c ∈ commands, c.statement.namesIndex table index = false) :
    (s.withIndex table t index i).answers commands = s.answers commands ∧
      ((s.withIndex table t index i).afterAll commands).withoutIndex table index =
        s.afterAll commands := by
  have clear : ((s.withIndex table t index i).share table).Plain index := by
    rw [Store.share_withIndex]
    exact Share.plain_withTable (Table.plain_insert free plain) _
  obtain ⟨answers, afterAll⟩ := Store.commands_withoutIndex clear unnamed
  rw [Store.withoutIndex_withIndex found free] at answers afterAll
  exact ⟨answers.symm, afterAll.symm⟩

/-- Commands that clear out the stock and start it anew. The first repeats a label and the third a
place, so both are refused; the column that is dropped takes the indexes over it along. -/
def clearingOut : List Command :=
  ([.insert "items" ["label", "shelf"] [.literal (.text "nut"), .literal (.text "A")],
    .createIndex "items" "by_label" ["label"] true false,
    .update "items" [("shelf", .literal (.text "D"))] none,
    .alterTable "items" [.drop "shelf"],
    .dropIndex "items" "by_shelf" true,
    .delete "items" (some (.isNull "label" true)),
    .dropTable "items" false,
    .createTable "items" [⟨"shelf", Column.ofType .text⟩] false,
    .insert "items" ["shelf"] [.literal (.text "A")]] : List Statement).map fun statement =>
      ⟨.standard, statement, []⟩

theorem plain_index_unobserved_stock :
    (Store.empty.afterAll stockTaking).tables.get? "items" = some stock ∧
      stock.indexes.contains "shelves" = false ∧
      (Index.build ["shelf"] false stock.rows).unique = false ∧
      (∀ c ∈ clearingOut, c.statement.namesIndex "items" "shelves" = false) ∧
      ((Store.empty.afterAll stockTaking).withIndex "items" stock "shelves"
          (Index.build ["shelf"] false stock.rows)).answers clearingOut =
        (Store.empty.afterAll stockTaking).answers clearingOut ∧
      (((Store.empty.afterAll stockTaking).withIndex "items" stock "shelves"
          (Index.build ["shelf"] false stock.rows)).afterAll clearingOut).withoutIndex
            "items" "shelves" =
        (Store.empty.afterAll stockTaking).afterAll clearingOut := by
  have unnamed : ∀ c ∈ clearingOut, c.statement.namesIndex "items" "shelves" = false := by decide
  exact ⟨stockTaking_leaves, by decide, rfl, unnamed,
    plain_index_unobserved stockTaking_leaves (by decide) rfl unnamed⟩

end Relational

end Polystore
