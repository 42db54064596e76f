import Mathlib
import Polystore.Proofs.Outcome
import Polystore.Proofs.Relational.Effect

/-!
# Stores over time

Commands, some of which may fail, lead from the store without tables to the reachable stores. What
holds of every table of a reachable store is what `Kept` asks for: a new table has it, and every way
to make another table of one that has it makes one that has it. Each property of tables is shown to
be kept once, one case for each way, and holds of all tables from then on.
-/

namespace Polystore.Relational

/-! ## Commands -/

/-- A statement, the values that it binds, and how tables are kept while it runs. -/
structure Command where
  config : Config
  statement : Statement
  params : List Value

namespace Command

/-- Every command may run on every store. -/
def Any : Store → Command → Prop := fun _ _ => True

/-- Only commands under which duplicates are refused may run. -/
def Enforcing : Store → Command → Prop := fun _ c => c.config.enforceUnique = true

end Command

namespace Store

/-- What a command comes to. -/
def answer (s : Store) (c : Command) : Outcome Result := (s.run c.config c.statement c.params).1

/-- The store behind a command, whether it succeeds or fails. -/
def after (s : Store) (c : Command) : Store := (s.run c.config c.statement c.params).2

/-- What commands come to, one after the other. -/
def answers (s : Store) : List Command → List (Outcome Result)
  | [] => []
  | c :: rest => s.answer c :: (s.after c).answers rest

/-- The store behind commands, one after the other. -/
def afterAll (s : Store) (commands : List Command) : Store := commands.foldl after s

end Store

/-- The stores to which commands lead from the store without tables. Which commands may run is
decided in view of the store. -/
inductive Reachable (may : Store → Command → Prop) : Store → Prop
  | empty : Reachable may Store.empty
  | after {s : Store} {c : Command} (before : Reachable may s) (runs : may s c) :
      Reachable may (s.after c)

namespace Reachable

variable {may may' : Store → Command → Prop} {s : Store}

/-- With more commands, more stores are reached. -/
theorem mono (h : Reachable may s) (more : ∀ s c, may s c → may' s c) : Reachable may' s := by
  induction h with
  | empty => exact .empty
  | after _ runs ih => exact ih.after (more _ _ runs)

theorem any (h : Reachable may s) : Reachable Command.Any s :=
  h.mono fun _ _ _ => trivial

theorem afterAll {commands : List Command} (h : Reachable may s)
    (run : ∀ c ∈ commands, ∀ s, may s c) : Reachable may (s.afterAll commands) := by
  induction commands generalizing s with
  | nil => exact h
  | cons c rest ih =>
    exact ih (h.after (run c List.mem_cons_self s)) fun c' hc =>
      run c' (List.mem_cons_of_mem c hc)

end Reachable

/-! ## Parts of the store -/

namespace Store

@[simp] theorem tables_withCounter? (s : Store) (table : String)
    (counter : Option (String × Int64)) : (s.withCounter? table counter).tables = s.tables := by
  cases counter <;> rfl

@[simp] theorem tables_withoutCounters (s : Store) (table : String) :
    (s.withoutCounters table).tables = s.tables := rfl

/-- All tables of a store have a property. -/
def AllTables (P : Table → Prop) (s : Store) : Prop :=
  ∀ name t, s.tables.get? name = some t → P t

variable {P : Table → Prop} {s s' : Store}

theorem AllTables.withTable {name : String} {t : Table} (h : AllTables P s) (ht : P t)
    (others : s'.tables = s.tables) : AllTables P (s'.withTable name t) := by
  intro other u hu
  rw [Store.withTable, others, TextMap.get?_insert] at hu
  split at hu
  · cases hu
    exact ht
  · exact h other u hu

theorem AllTables.erase {name : String} (h : AllTables P s)
    (gone : s'.tables = s.tables.erase name) : AllTables P s' := by
  intro other u hu
  rw [gone, TextMap.get?_erase] at hu
  split at hu
  · cases hu
  · exact h other u hu

end Store

/-! ## What tables keep -/

/-- A property that new tables have and that no statement takes from a table. -/
structure Kept (config : Config) (P : Table → Prop) : Prop where
  made : ∀ {name columns t}, newTable name columns = .ok t → P t
  indexMade : ∀ {t table index columns unique next}, P t →
    t.withIndex config table index columns unique = .ok next → P next
  indexDropped : ∀ {t : Table} {index}, P t → P { t with indexes := t.indexes.erase index }
  inserted : ∀ {t table last params values row counter}, P t →
    t.newRow config table last params values = .ok (row, counter) → P (t.push row)
  updated : ∀ {t : Table} {table params assignments changes rows next}, P t →
    t.changes table params assignments = .ok changes → rows.map (·.1) = t.rows →
    t.withChanges config rows changes = .ok next → P next
  deleted : ∀ {t : Table} {rows}, P t → rows.map (·.1) = t.rows → P (t.without rows)
  altered : ∀ {t table last alterations a}, P t →
    t.altered config table last alterations = .ok a → P a.table

/-- Marking leaves the rows as they are. -/
theorem Table.map_fst_marked {t : Table} {config : Config} {params : List Value}
    {filter : Option Predicate} {rows : List (Row × Bool)}
    (h : t.marked config params filter = .ok rows) : rows.map (·.1) = t.rows := by
  obtain ⟨_, _, h⟩ := Outcome.bind_eq_ok.mp h
  rw [← List.map_id t.rows]
  refine Outcome.map_of_mapM (fun row marked hm => ?_) h
  obtain ⟨_, _, rfl⟩ := Outcome.map_eq_ok.mp hm
  rfl

theorem Effect.allTables {P : Table → Prop} {config : Config} {params : List Value}
    {s s' : Store} {statement : Statement} {r : Result} (kept : Kept config P)
    (effect : Effect config params s statement r s') (h : s.AllTables P) : s'.AllTables P := by
  cases effect with
  | selected => exact h
  | tableMade _ made => exact h.withTable (kept.made made) rfl
  | tableThere => exact h
  | indexMade found _ made => exact h.withTable (kept.indexMade (h _ _ found) made) rfl
  | indexThere => exact h
  | inserted _ found made => exact h.withTable (kept.inserted (h _ _ found) made) (by simp)
  | updatedNothing => exact h
  | updated found assigned marked _ made =>
    exact h.withTable (kept.updated (h _ _ found) assigned (Table.map_fst_marked marked) made)
      (by simp)
  | deletedNothing => exact h
  | deleted found marked =>
    exact h.withTable (kept.deleted (h _ _ found) (Table.map_fst_marked marked)) rfl
  | altered found made => exact h.withTable (kept.altered (h _ _ found) made) (by simp)
  | tableDropped => exact h.erase rfl
  | noTable => exact h
  | indexDropped found => exact h.withTable (kept.indexDropped (h _ _ found)) rfl
  | noIndex => exact h
  | noIndexedTable => exact h

/-- **What is kept holds of every table of a reachable store.** -/
theorem Reachable.allTables {P : Table → Prop} {may : Store → Command → Prop} {s : Store}
    (h : Reachable may s) (kept : ∀ s c, may s c → Kept c.config P) : s.AllTables P := by
  induction h with
  | empty =>
    intro name t found
    cases found
  | @after s c _ runs ih =>
    rcases run_store_cases s c.config c.statement c.params with unchanged | ⟨r, effect⟩
    · rw [Store.after, unchanged]
      exact ih
    · exact effect.allTables (kept s c runs) ih

/-! ## A run -/

/-- Commands that keep a small stock. One of them fails on a label that is there already, one removes
the first row, and a column comes late. -/
def stockTaking : List Command :=
  let put (label shelf : Value) : Statement :=
    .insert "items" ["label", "shelf"] [.literal label, .literal shelf]
  ([.createTable "items"
      [⟨"id", (Column.ofType .integer).asPrimary.counting⟩,
        ⟨"label", (Column.ofType .text).asUnique⟩,
        ⟨"shelf", (Column.ofType .text).notNull⟩] false,
    .createIndex "items" "by_shelf" ["shelf"] false false,
    put (.text "bolt") (.text "A"),
    put .null (.text "A"),
    put (.text "bolt") (.text "B"),
    put .null (.text "B"),
    .update "items" [("shelf", .literal (.text "C"))] (some (.isNull "label" true)),
    .createIndex "items" "places" ["shelf", "label"] true false,
    .delete "items" (some (.isNull "label" true)),
    .alterTable "items" [.add "count" ((Column.ofType .integer).notNull.withDefault (.int 0))],
    put (.text "nut") (.text "A")] : List Statement).map fun statement =>
      ⟨.standard, statement, []⟩

/-- The stock that is left. -/
def stock : Table :=
  let rows : List Row :=
    [TextMap.ofList
        [("count", .int 0), ("id", .int 2), ("label", .null), ("shelf", .text "A")],
      TextMap.ofList
        [("count", .int 0), ("id", .int 3), ("label", .null), ("shelf", .text "B")],
      TextMap.ofList
        [("count", .int 0), ("id", .int 4), ("label", .text "nut"), ("shelf", .text "A")]]
  { name := "items"
    columns :=
      [⟨"id", (Column.ofType .integer).asPrimary.counting⟩,
        ⟨"label", (Column.ofType .text).asUnique⟩,
        ⟨"shelf", (Column.ofType .text).notNull⟩,
        ⟨"count", (Column.ofType .integer).notNull.withDefault (.int 0)⟩]
    rows
    indexes := TextMap.ofList
      [("by_shelf", Index.build ["shelf"] false rows),
        ("places", Index.build ["shelf", "label"] true rows)] }

theorem stockTaking_leaves :
    (Store.empty.afterAll stockTaking).tables.get? "items" = some stock := by
  cbv

theorem reachable_stockTaking :
    Reachable Command.Enforcing (Store.empty.afterAll stockTaking) := by
  refine Reachable.empty.afterAll fun c hc s => ?_
  obtain ⟨statement, _, rfl⟩ := List.mem_map.mp hc
  rfl

end Polystore.Relational
