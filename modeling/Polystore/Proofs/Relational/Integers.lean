import Mathlib
import Polystore.Proofs.Relational.Distinct
import Polystore.Proofs.Relational.Selected
import Polystore.Proofs.Relational.Typed
import Polystore.Proofs.Value.Integers

/-!
# Columns of integers

What a column of integers holds is compared as numbers by conditions and by sort keys, and as texts
where duplicates are refused. Short integers are told apart by both, so that a condition on a
primary column finds one row at most and sorting is sorting by the integers. Of longer ones a
primary column may hold two that a condition does not tell apart; it then finds both rows, and
sorting leaves them as they were added.
-/

namespace Polystore

open Binary64 (IsNarrow)

namespace Value

/-- Of two values of a column of integers, the first may be sorted in front of the second: it is
`null`, or not greater, or long and read as the same number. -/
def Leads (v w : Value) : Prop :=
  v = .null ∨ ∃ m n : Int64, v = .int m ∧ w = .int n ∧
    (m ≤ n ∨ (Ties m n ∧ ¬IsNarrow m.toInt ∧ ¬IsNarrow n.toInt))

/-- Two values of a column of integers stand in the direction of a sort key. -/
def InTurn (direction : Direction) (v w : Value) : Prop :=
  match direction with
  | .ascending => Leads v w
  | .descending => Leads w v

variable {v w : Value}

/-- What does not sort behind may stand in front. -/
theorem leads_of_sortCompare (hv : v = .null ∨ ∃ m, v = .int m) (hw : w = .null ∨ ∃ n, w = .int n)
    (inFront : v.sortCompare w ≠ .gt) : Leads v w := by
  rcases hv with rfl | ⟨m, rfl⟩
  · exact .inl rfl
  rcases hw with rfl | ⟨n, rfl⟩
  · exact absurd rfl inFront
  refine .inr ⟨m, n, rfl, rfl, ?_⟩
  have order : (Value.int m).sortCompare (.int n) =
      if Ties m n then .eq else Ord.compare m.toInt n.toInt := by
    show ((Value.int m).compare (.int n)).getD .eq = _
    rw [compare_int, Option.getD_some]
  by_cases tie : Ties m n
  · by_cases same : m = n
    · exact .inl (Int64.le_of_eq same)
    · exact .inr ⟨tie, fun narrow => same (tie.eq_of_narrow (.inl narrow)),
        fun narrow => same (tie.eq_of_narrow (.inr narrow))⟩
  · rw [order, if_neg tie] at inFront
    have least : m.toInt ≤ n.toInt := compare_le_iff_le.mp inFront
    exact .inl (Int64.le_iff_toInt_le.mpr least)

end Value

namespace Relational

open Outcome Value

/-! ## What a column of integers holds -/

section

variable {t : Table} {d : ColumnDef} {row : Row}

theorem Table.Typed.null_or_int (typed : t.Typed) (there : d ∈ t.columns)
    (integer : d.column.type = .integer) (stored : row ∈ t.rows) :
    row.at d.name = .null ∨ ∃ n, row.at d.name = .int n := by
  rcases typed.stored row stored d there with ⟨name, given, coerced⟩ | ⟨_, number⟩
  · rcases ColumnType.represents_of_coerce coerced with null | represents
    · exact .inl null
    · rw [integer] at represents
      cases value : row.at d.name with
      | int n => exact .inr ⟨n, rfl⟩
      | _ => rw [value] at represents; cases represents
  · exact .inr number

/-- Such a column can be sorted by. -/
theorem Table.Typed.sortableBy (typed : t.Typed) (there : d ∈ t.columns)
    (integer : d.column.type = .integer) : t.SortableBy d.name := by
  refine ⟨.integer, by decide, fun row stored => ?_⟩
  rcases typed.null_or_int there integer stored with null | ⟨n, number⟩
  · exact .inl null
  · exact .inr (by rw [number]; rfl)

/-- The value of such a column is equal to an integer just when it is an integer read as the same
number. -/
theorem Table.Typed.looseEq_iff (typed : t.Typed) (there : d ∈ t.columns)
    (integer : d.column.type = .integer) (stored : row ∈ t.rows) (n : Int64) :
    (row.at d.name).looseEq (.int n) = true ↔ ∃ m, row.at d.name = .int m ∧ Ties m n := by
  rcases typed.null_or_int there integer stored with null | ⟨m, number⟩
  · rw [null, looseEq_null_int]
    simp
  · rw [number, looseEq_int]
    simp

end

/-! ## Conditions on a primary column -/

/-- Rows that are distinct over one column hold a value there once at most. -/
theorem length_le_one_of_distinct {name : String} {v : Value} {rows : List Row}
    (distinct : DistinctOver [name] rows) (filled : v.isNull = false)
    (same : ∀ row ∈ rows, row.at name = v) : rows.length ≤ 1 := by
  rcases rows with _ | ⟨a, _ | ⟨b, rest⟩⟩
  · exact Nat.zero_le 1
  · exact Nat.le_refl 1
  · -- the first two rows would have one key
    rw [List.forall_mem_cons, List.forall_mem_cons] at same
    obtain ⟨atA, atB, _⟩ := same
    have keys : a.key [name] = b.key [name] := by
      simp [Row.key, Rows.key, atA, atB]
    have notBlank {row : Row} (holds : row.at name = v) : row.isBlankIn [name] = false := by
      simp [Row.isBlankIn, holds, filled]
    have apart := List.rel_of_pairwise_cons distinct List.mem_cons_self
    exact absurd keys (apart (notBlank atA) (notBlank atB))

/-- The rows that a condition on a column of integers finds by an integer: those that hold an
integer read as the same number. These are the rows that hold the integer itself when it is short,
and then one row at most of a primary column. -/
structure Table.FoundBy (t : Table) (d : ColumnDef) (n : Int64) (hit : Row → Bool) : Prop where
  ties : ∀ row ∈ t.rows, hit row = true ↔ ∃ m, row.at d.name = .int m ∧ Ties m n
  holds : IsNarrow n.toInt → ∀ row ∈ t.rows, hit row = true ↔ row.at d.name = .int n
  single : IsNarrow n.toInt → d.column.primary = true → (t.rows.filter hit).length ≤ 1

theorem Table.foundBy {t : Table} {d : ColumnDef} (typed : t.Typed) (distinct : t.Distinct)
    (there : d ∈ t.columns) (integer : d.column.type = .integer) (n : Int64) :
    t.FoundBy d n fun row => (row.at d.name).looseEq (.int n) := by
  have ties (row : Row) (stored : row ∈ t.rows) := typed.looseEq_iff there integer stored n
  have holds (narrow : IsNarrow n.toInt) (row : Row) (stored : row ∈ t.rows) :
      (row.at d.name).looseEq (.int n) = true ↔ row.at d.name = .int n := by
    rw [ties row stored]
    constructor
    · rintro ⟨m, number, tie⟩
      rw [number, tie.eq_of_narrow (.inr narrow)]
    · intro number
      exact ⟨n, number, Ties.refl n⟩
  refine ⟨ties, holds, fun narrow primary => ?_⟩
  have apart : DistinctOver [d.name] t.rows :=
    distinct _ (mem_uniqueSets_of_column there (.inl primary))
  refine length_le_one_of_distinct (apart.sublist List.filter_sublist) (v := .int n) rfl ?_
  intro row found
  obtain ⟨stored, hit⟩ := List.mem_filter.mp found
  exact (holds narrow row stored).mp hit

/-- A filter that asks for equality tells the rows that hold an equal value. -/
theorem told_equals {s : Store} {table column : String} {t : Table} {c : Column} {config : Config}
    {params : List Value} {operand : Operand} {v : Value} (found : s.tables.get? table = some t)
    (known : t.column? column = some c) (resolved : operand.resolve params = .ok v) :
    Told s config params table (some (.compare column .eq operand)) t fun row =>
      (row.at column).looseEq v where
  found := found
  decides := by
    intro row _
    rw [meets, Predicate.holds, resolved]
    rfl
  read := by
    intro fields all
    have brings := Table.select_of_marked table (Table.marked_equals config known resolved) all
    rw [Selection.hits_eq] at brings
    exact run_select found brings

/-! ## Sorting by a column of integers -/

theorem projected_get? {fields : List String} {name : String} (row : Row) (shown : name ∈ fields) :
    (projected fields row).get? name = some (row.at name) := by
  -- over the fields in front, any of which may be set again further on
  have set (fields : List String) (start : Row) :
      ((fields.map fun f => (f, row.at f)).foldl (fun m b => m.insert b.1 b.2) start).get? name =
        if name ∈ fields then some (row.at name) else start.get? name := by
    induction fields generalizing start with
    | nil => rfl
    | cons first rest ih =>
      rw [List.map_cons, List.foldl_cons, ih, TextMap.get?_insert]
      by_cases later : name ∈ rest
      · rw [if_pos later, if_pos (List.mem_cons_of_mem first later)]
      · by_cases here : first = name
        · subst here
          rw [if_neg later, if_pos rfl, if_pos List.mem_cons_self]
        · have absent : name ∉ first :: rest := by
            rw [List.mem_cons, not_or]
            exact ⟨Ne.symm here, later⟩
          rw [if_neg later, if_neg here, if_neg absent]
  rw [projected, TextMap.ofList, set, if_pos shown]

/-- A shown column holds what it held. -/
theorem at_shownOf {fields : List String} {name : String} (row : Row)
    (shown : showsAll fields = true ∨ name ∈ fields) :
    (shownOf fields row).at name = row.at name := by
  unfold shownOf
  by_cases all : showsAll fields = true
  · rw [if_pos all]
  · rw [if_neg all, Row.at, projected_get? row (shown.resolve_left all)]
    rfl

section

variable {s : Store} {t : Table} {d : ColumnDef} {config : Config} {params : List Value}

/-- Rows that a sort key does not turn round stand in its direction. -/
theorem inTurn_of_keyOrder {k : SortKey} {a b : Row}
    (ha : a.at k.field = .null ∨ ∃ n, a.at k.field = .int n)
    (hb : b.at k.field = .null ∨ ∃ n, b.at k.field = .int n) (inFront : keyOrder k a b ≠ .gt) :
    InTurn k.direction (a.at k.field) (b.at k.field) := by
  unfold keyOrder at inFront
  unfold InTurn
  cases direction : k.direction with
  | ascending =>
    rw [direction] at inFront
    exact leads_of_sortCompare ha hb inFront
  | descending =>
    rw [direction] at inFront
    exact leads_of_sortCompare hb ha inFront

/-- A read that sorts by a column of integers first brings the rows in the direction of its key. -/
theorem rows_in_turn {q : SelectStatement} {k : SortKey} {rest : List SortKey} {r : Result}
    (typed : t.Typed) (found : s.tables.get? q.table = some t) (there : d ∈ t.columns)
    (integer : d.column.type = .integer) (sorted : q.orderBy = k :: rest)
    (named : k.field = d.name) (others : ∀ k' ∈ rest, t.SortableBy k'.field)
    (shows : showsAll q.fields = true ∨ d.name ∈ q.fields)
    (ran : (s.run config (.select q) params).1 = .ok r) :
    r.rows.Pairwise fun a b => InTurn k.direction (a.at d.name) (b.at d.name) := by
  obtain ⟨s', run⟩ : ∃ s', s.run config (.select q) params = (.ok r, s') :=
    ⟨_, Prod.ext ran rfl⟩
  have sortable : ∀ k' ∈ q.orderBy, t.SortableBy k'.field := by
    rw [sorted, List.forall_mem_cons, named]
    exact ⟨typed.sortableBy there integer, others⟩
  cases run_effect run with
  | @selected _ t' _ found' read =>
    obtain rfl : t' = t := Option.some.inj (found'.symm.trans found)
    obtain ⟨hit, _, reads⟩ := Table.select_eq_ok read
    obtain rfl := Except.ok.inj (read.symm.trans (reads q.offset q.limit))
    have inFront := Rows.pairwise_presented (Table.orders_of_sortable sortable) Row.at hit q.groupBy
      q.offset q.limit
    refine List.pairwise_map.mpr (inFront.imp_of_mem fun {a b} ha hb notBehind => ?_)
    have integral {row : Row} (shown : row ∈ Rows.presented Rows.inserted Row.at keyOrder q.groupBy
        q.orderBy q.offset q.limit (t'.rows.filter hit)) :
        row.at k.field = .null ∨ ∃ n, row.at k.field = .int n := by
      have stored := (List.mem_filter.mp (Rows.mem_of_mem_presented (Rows.sorted_perm _ _) shown)).1
      rw [named]
      exact typed.null_or_int there integer stored
    rw [sorted] at notBehind
    rw [at_shownOf a shows, at_shownOf b shows, ← named]
    exact inTurn_of_keyOrder (integral ha) (integral hb) (Rows.order_ne_gt notBehind)

/-- The read of all rows in the order of one column. -/
def readInOrder (table column : String) (direction : Direction) : SelectStatement :=
  { table, fields := [], filter := none, groupBy := [], orderBy := [⟨column, direction⟩]
    limit := none, offset := none }

theorem compile_orderedBy (table column : String) (direction : Direction) :
    compile (.select ((Selection.everything table).orderedBy column direction)) =
      .ok ⟨.select (readInOrder table column direction), []⟩ := rfl

/-- It brings all rows, sorted. -/
theorem run_readInOrder {table : String} (found : s.tables.get? table = some t)
    (there : d ∈ t.columns) (config : Config) (direction : Direction) :
    s.run config (.select (readInOrder table d.name direction)) [] =
      (.ok (Result.ofRows (Rows.sorted keyOrder [⟨d.name, direction⟩] t.rows)), s) := by
  refine run_select found ?_
  have required : t.requireColumns [d.name] = .ok () :=
    Table.requireColumns_eq_ok fun name named => ⟨d, there, (List.mem_singleton.mp named).symm⟩
  have checked : t.checkNames (readInOrder table d.name direction) = .ok () := by
    show (do t.requireColumns []; t.requireColumns [d.name]; _) = _
    rw [required]
    rfl
  have marked : t.marked config [] none = .ok (t.rows.map fun row => (row, true)) := by
    rw [Table.marked, Table.checkFilter]
    exact mapM_eq_ok fun row _ => rfl
  rw [Table.select, Table.selectBy_eq, checked]
  show (do let marks ← t.marked config [] none; _) = _
  rw [marked]
  show Except.ok ((Rows.presented Rows.inserted Row.at keyOrder [] [⟨d.name, direction⟩] none none
    _).map (shownOf [])) = _
  rw [Selection.hits_eq fun _ => true, List.filter_true]
  exact congrArg Except.ok (List.map_id _)

end

/-- **Integers are compared as the numbers that they are read as.** Two of them are equal, and tie,
just when they are read as one number, and else compare as integers; a short one is read as the same
number as itself only. In every reachable store where duplicates are refused, a condition on a
column of integers therefore finds the rows that hold a short integer, one at most in a primary
column, and sorting by such a column brings the rows in the order of the integers, up to long ones
that are read as one number. -/
theorem integers_compared_as_numbers (m n : Int64) :
    (((Value.int m).looseEq (.int n) = true ↔ Ties m n) ∧
      (Value.int m).compare (.int n) =
        some (if Ties m n then .eq else Ord.compare m.toInt n.toInt) ∧
      (IsNarrow m.toInt ∨ IsNarrow n.toInt → (Ties m n ↔ m = n))) ∧
    ∀ {s : Store} {table : String} {t : Table} {d : ColumnDef},
      Reachable Command.Enforcing s → s.tables.get? table = some t → d ∈ t.columns →
      d.column.type = .integer →
      (∃ hit, t.FoundBy d n hit ∧
        (∀ config params operand, operand.resolve params = .ok (.int n) →
          Told s config params table (some (.compare d.name .eq operand)) t hit) ∧
        ∀ config, ∃ bound, compile (havingValue table d.name (.int n)) = .ok bound ∧
          s.run config bound.query bound.params =
            (.ok (Result.ofRows (t.rows.filter hit)), s)) ∧
      (∀ config direction, ∃ bound rows,
        compile (.select ((Selection.everything table).orderedBy d.name direction)) = .ok bound ∧
        s.run config bound.query bound.params = (.ok (Result.ofRows rows), s) ∧
        rows.Perm t.rows ∧
        rows.Pairwise fun a b => InTurn direction (a.at d.name) (b.at d.name)) ∧
      ∀ (config : Config) (params : List Value) (q : SelectStatement) (k : SortKey)
        (rest : List SortKey) (r : Result),
        q.table = table → q.orderBy = k :: rest → k.field = d.name →
        (∀ k' ∈ rest, t.SortableBy k'.field) → (showsAll q.fields = true ∨ d.name ∈ q.fields) →
        (s.run config (.select q) params).1 = .ok r →
        r.rows.Pairwise fun a b => InTurn k.direction (a.at d.name) (b.at d.name) := by
  constructor
  · refine ⟨looseEq_int m n, compare_int m n, fun narrow => ⟨fun tie => ?_, ?_⟩⟩
    · exact tie.eq_of_narrow narrow
    · rintro rfl
      exact Ties.refl m
  intro s table t d reachable found there integer
  have typed : t.Typed := reachable.allTables (fun _ c _ => Table.typed_kept c.config) table t found
  have distinct : t.Distinct :=
    reachable.allTables (fun _ _ enforced => Table.distinct_kept enforced) table t found
  have known : t.column? d.name = some d.column := Schema.column?_of_mem typed.distinct there
  refine ⟨⟨_, Table.foundBy typed distinct there integer n, ?_, fun config => ?_⟩,
    fun config direction => ?_, ?_⟩
  · intro config params operand resolved
    exact told_equals found known resolved
  · exact run_havingValue config found known (by simp)
  · have ran := run_readInOrder found there config direction
    refine ⟨_, _, compile_orderedBy table d.name direction, ran, Rows.sorted_perm _ _ _, ?_⟩
    have only : ∀ k' ∈ ([] : List SortKey), t.SortableBy k'.field := by simp
    have named : (⟨d.name, direction⟩ : SortKey).field = d.name := rfl
    have kept : s.tables.get? (readInOrder table d.name direction).table = some t := found
    exact rows_in_turn typed kept there integer rfl named only (.inl rfl) (congrArg Prod.fst ran)
  · rintro config params q k rest r rfl sorted named others shows ran
    exact rows_in_turn typed found there integer sorted named others shows ran

/-- The identity of the stock. -/
def stockId : ColumnDef := ⟨"id", (Column.ofType .integer).asPrimary.counting⟩

/-- One number finds the one item that has it, and sorting by the numbers sorts the items. -/
theorem integers_compared_as_numbers_stock :
    let s := Store.empty.afterAll stockTaking
    ((Ties 2 3 ↔ (2 : Int64) = 3) ∧ (Value.int 2).looseEq (.int 3) = false) ∧
      Reachable Command.Enforcing s ∧ s.tables.get? "items" = some stock ∧
      stockId ∈ stock.columns ∧
      (∃ hit, stock.FoundBy stockId 3 hit ∧ (stock.rows.filter hit).length ≤ 1 ∧
        s.run .standard
          (.select (reading "items" [] (some (.compare "id" .eq (.literal (.int 3)))))) [] =
            (.ok (Result.ofRows (stock.rows.filter hit)), s)) ∧
      ∃ r, (s.run .standard (.select (readInOrder "items" "id" .descending)) []).1 = .ok r ∧
        r.rows.Perm stock.rows ∧
        r.rows.Pairwise fun a b => InTurn .descending (a.at "id") (b.at "id") := by
  intro s
  have there : stockId ∈ stock.columns := List.mem_cons_self
  obtain ⟨⟨equal, -, narrow⟩, stores⟩ := integers_compared_as_numbers 2 3
  have apart : Ties 2 3 ↔ (2 : Int64) = 3 := narrow (.inl (by decide))
  obtain ⟨⟨hit, foundBy, told, _⟩, orders, inTurn⟩ :=
    stores reachable_stockTaking stockTaking_leaves there rfl
  obtain ⟨bound, rows, compiled, ran, perm, _⟩ := orders .standard .descending
  obtain rfl := Except.ok.inj ((compile_orderedBy "items" "id" .descending).symm.trans compiled)
  have answered := congrArg Prod.fst ran
  refine ⟨⟨apart, ?_⟩, reachable_stockTaking, stockTaking_leaves, there,
    ⟨hit, foundBy, ?_, ?_⟩, _, answered, perm, ?_⟩
  · refine Bool.eq_false_iff.mpr fun same => ?_
    exact absurd (apart.mp (equal.mp same)) (by decide)
  · exact foundBy.single (by decide) rfl
  · exact (told .standard [] (.literal (.int 3)) rfl).read [] rfl
  · exact inTurn .standard [] (readInOrder "items" "id" .descending) ⟨"id", .descending⟩ [] _ rfl
      rfl rfl (by simp) (.inl rfl) answered

/-! ### Long integers -/

/-- The first whole number that is not read as itself. -/
def laterId : Int64 := 9007199254740993

/-- What it is read as. -/
def earlierId : Int64 := 9007199254740992

theorem ties_ids : Ties laterId earlierId := by decide +kernel

/-- An event. -/
def event (n : Int64) : Row := TextMap.ofList [("id", .int n)]

/-- The number of an event. -/
def eventId : ColumnDef := ⟨"id", (Column.ofType .integer).asPrimary⟩

/-- Two events with neighbouring numbers, the later one first. -/
def eventTaking : List Command :=
  ([.createTable "events" [eventId] false, .insert "events" ["id"] [.literal (.int laterId)],
    .insert "events" ["id"] [.literal (.int earlierId)]] : List Statement).map (⟨.standard, ·, []⟩)

/-- The two events. -/
def events : Table :=
  { name := "events", columns := [eventId], rows := [event laterId, event earlierId]
    indexes := TextMap.empty }

theorem eventTaking_leaves :
    (Store.empty.afterAll eventTaking).tables.get? "events" = some events := by
  cbv

theorem reachable_eventTaking : Reachable Command.Enforcing (Store.empty.afterAll eventTaking) := by
  refine Reachable.empty.afterAll fun c hc s => ?_
  obtain ⟨statement, _, rfl⟩ := List.mem_map.mp hc
  rfl

/-- Two events that are read as one number stay as they are. -/
theorem sorted_events {m n : Int64} (tie : Ties n m) :
    Rows.sorted keyOrder [⟨"id", .ascending⟩] [event m, event n] = [event m, event n] := by
  have same : Rows.compareBy keyOrder [⟨"id", .ascending⟩] (event n) (event m) = .eq := by
    show (if ((Value.int n).compare (.int m)).getD .eq == .eq then Ordering.eq
      else ((Value.int n).compare (.int m)).getD .eq) = .eq
    rw [compare_int, if_pos tie]
    rfl
  rw [Rows.sorted, Rows.inserted, List.foldl_cons, List.foldl_cons, List.foldl_nil, Rows.placed, Rows.placed, same]
  rfl

/-- **Neighbours beyond `2 ^ 53` are not told apart**, although a primary column holds both: the
read by one of them brings both rows, and sorting leaves the greater one in front. -/
theorem neighbours_not_told_apart :
    let s := Store.empty.afterAll eventTaking
    earlierId < laterId ∧ (Value.int laterId).looseEq (.int earlierId) = true ∧
      (Value.int laterId).compare (.int earlierId) = some .eq ∧
      Reachable Command.Enforcing s ∧ s.tables.get? "events" = some events ∧
      (∃ bound, compile (havingValue "events" "id" (.int earlierId)) = .ok bound ∧
        s.run .standard bound.query bound.params =
          (.ok (Result.ofRows [event laterId, event earlierId]), s)) ∧
      ∃ bound,
        compile (.select ((Selection.everything "events").orderedBy "id" .ascending)) = .ok bound ∧
        s.run .standard bound.query bound.params =
          (.ok (Result.ofRows [event laterId, event earlierId]), s) := by
  intro s
  have equal : (Value.int laterId).looseEq (.int earlierId) = true := (looseEq_int ..).mpr ties_ids
  have self : (Value.int earlierId).looseEq (.int earlierId) = true :=
    (looseEq_int ..).mpr (Ties.refl earlierId)
  have there : eventId ∈ events.columns := List.mem_cons_self
  refine ⟨by decide, equal, ?_, reachable_eventTaking, eventTaking_leaves, ?_, ?_⟩
  · rw [compare_int, if_pos ties_ids]
  · have known : events.column? "id" = some eventId.column := rfl
    have filled : Value.int earlierId ≠ .null := by simp
    obtain ⟨bound, compiled, ran⟩ := run_havingValue .standard eventTaking_leaves known filled
    have all : events.rows.filter (fun row => (row.at "id").looseEq (.int earlierId)) =
        [event laterId, event earlierId] := by
      refine List.filter_eq_self.mpr ?_
      show ∀ row ∈ [event laterId, event earlierId], _
      rw [List.forall_mem_cons, List.forall_mem_singleton]
      exact ⟨equal, self⟩
    rw [all] at ran
    exact ⟨bound, compiled, ran⟩
  · have ran := run_readInOrder eventTaking_leaves there .standard .ascending
    have stays : Rows.sorted keyOrder [⟨"id", .ascending⟩] events.rows =
        [event laterId, event earlierId] := sorted_events ties_ids.symm
    refine ⟨_, compile_orderedBy "events" "id" .ascending, ran.trans ?_⟩
    exact congrArg (fun rows => (Except.ok (Result.ofRows rows), s)) stays

end Relational

end Polystore
