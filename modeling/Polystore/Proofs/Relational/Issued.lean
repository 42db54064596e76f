import Polystore.Proofs.Relational.Counting
import Polystore.Proofs.Relational.Locality

/-!
# The numbers that insertions report

An insertion reports the number in the identity of the row that it adds. As long as the table is not
made, dropped or altered, its counter never moves back, and no number is reported that the counter
has not come to. So a generated number is beyond every number that was reported before it, whatever
was inserted, changed or removed in between and whatever failed; and when there is no number left,
none is generated.
-/

namespace Polystore

/-- Whether a statement makes, drops or alters a table. -/
def Statement.remakes (table : String) : Statement → Bool
  | .createTable t _ _ => t == table
  | .dropTable t _ => t == table
  | .alterTable t _ => t == table
  | _ => false

namespace Relational

open Outcome

/-! ## Commands and positions -/

namespace Command

/-- The command adds a row to a table. -/
def InsertsInto (c : Command) (table : String) : Prop :=
  ∃ columns values, c.statement = .insert table columns values

/-- The command adds a row to a table and brings no number for a column: of the values that it gives
to the column, if it gives any, the last one is `null`. -/
def InsertsUnnumbered (c : Command) (table name : String) : Prop :=
  ∃ columns values, c.statement = .insert table columns values ∧
    ∀ b, ((columns.zip values).filter (·.1 = name)).getLast? = some b →
      b.2.resolve c.params = .ok .null

end Command

namespace Store

variable {s : Store} {commands : List Command} {c : Command} {k : Nat}

/-- The store in front of a command of a run. -/
def upTo (s : Store) (commands : List Command) (k : Nat) : Store := s.afterAll (commands.take k)

theorem upTo_succ (h : commands[k]? = some c) :
    s.upTo commands (k + 1) = (s.upTo commands k).after c := by
  rw [upTo, upTo, List.take_add_one, h, afterAll, List.foldl_append]
  rfl

theorem upTo_succ_of_none (h : commands[k]? = none) :
    s.upTo commands (k + 1) = s.upTo commands k := by
  rw [upTo, upTo, List.take_add_one, h, Option.toList_none, List.append_nil]

/-- What a command of a run comes to, it comes to on the store in front of it. -/
theorem answers_getElem? (s : Store) (commands : List Command) (k : Nat) :
    (s.answers commands)[k]? = commands[k]?.map (s.upTo commands k).answer := by
  induction commands generalizing s k with
  | nil => rfl
  | cons c rest ih =>
    cases k with
    | zero => rfl
    | succ k => exact ih (s.after c) k

/-- In a run, commands that make, drop or alter a table do so to no effect. -/
def Spares (s : Store) (table : String) (commands : List Command) : Prop :=
  ∀ k c, commands[k]? = some c → c.statement.remakes table = true →
    (s.upTo commands k).after c = s.upTo commands k

end Store

/-! ## Rows without a number -/

namespace Table

variable {t : Table} {table name : String} {params : List Value} {given : Row}
  {values : List (String × Operand)}

/-- Of the values for one column the last one counts: where it is `null`, the row holds `null`, and
where there is none it holds what it held. -/
theorem givenRow_at_null {row : Row}
    (null : ∀ b, (values.filter (·.1 = name)).getLast? = some b →
      b.2.resolve params = .ok .null)
    (start : values.filter (·.1 = name) = [] → row.at name = .null)
    (h : t.givenRow params row values = .ok given) : given.at name = .null := by
  induction values generalizing row with
  | nil =>
    cases h
    exact start rfl
  | cons value rest ih =>
    obtain ⟨other, operand⟩ := value
    obtain ⟨c, _, h⟩ := bind_eq_ok.mp h
    obtain ⟨v, resolved, h⟩ := bind_eq_ok.mp h
    obtain ⟨w, coerced, h⟩ := bind_eq_ok.mp h
    by_cases same : other = name
    · subst same
      rw [List.filter_cons_of_pos (by simp), List.getLast?_cons] at null
      refine ih (fun b hb => null b (by rw [hb]; rfl)) (fun none => ?_) h
      -- no later value is for the column, so this one counts
      rw [none] at null
      have counts : operand.resolve params = .ok .null := null _ rfl
      obtain rfl := Except.ok.inj (resolved.symm.trans counts)
      rw [ColumnType.coerce_null] at coerced
      cases coerced
      exact Row.at_insert_self ..
    · rw [List.filter_cons_of_neg (by simpa using same)] at null start
      refine ih null (fun none => ?_) h
      rw [Row.at_insert_of_ne same]
      exact start none

/-- The error of an identity without a number left. -/
def exhausted (table name : String) : Error :=
  ExecutionError.constraintViolation table ("identity column " ++ name ++ " is exhausted")

/-- A row that brings no number is refused when there is none left. -/
theorem candidate_of_exhausted {d : ColumnDef} (identity : t.identity? = some d)
    (hgiven : t.givenRow params TextMap.empty values = .ok given)
    (null : given.at d.name = .null) :
    t.candidate table Int64.maxValue params values = .error (exhausted table d.name) := by
  rw [candidate, hgiven, ok_bind, withIdentity, identity]
  dsimp only
  rw [null]
  rfl

end Table

/-! ## The counter over time -/

section

variable {config : Config} {params : List Value} {s s' : Store} {table : String} {t : Table}
  {d : ColumnDef} {n : Int64} {c : Command} {r : Result}

/-- A table is what it was but for its rows and indexes, and the counter of a column has come to a
number or is beyond. -/
structure Store.Carries (s : Store) (table : String) (t : Table) (name : String) (n : Int64) :
    Prop where
  there : ∃ rows indexes, s.tables.get? table = some { t with rows, indexes }
  counted : n ≤ s.counter table name

theorem Store.Carries.withTable (h : s.Carries table t d.name n) (rows : List Row)
    (indexes : TextMap Index) :
    (s.withTable table { t with rows, indexes }).Carries table t d.name n :=
  ⟨⟨rows, indexes, TextMap.get?_insert_self ..⟩, h.counted⟩

/-- A counter that moves, moves on. -/
theorem Store.Carries.withCounter? {counter : Option (String × Int64)}
    (h : s.Carries table t d.name n)
    (beyond : ∀ b, counter = some b → b.1 = d.name ∧ s.counter table d.name < b.2) :
    (s.withCounter? table counter).Carries table t d.name n := by
  obtain ⟨there, counted⟩ := h
  refine ⟨by rwa [Store.tables_withCounter?], ?_⟩
  rw [Store.counter_withCounter?_self fun b hb => (beyond b hb).1]
  exact Int64.le_trans counted (le_moved fun b hb => (beyond b hb).2)

/-- What is done to the table of a statement, short of making, dropping or altering it. -/
theorem Effect.carries {statement : Statement} (identity : t.identity? = some d)
    (own : statement.table = table) (stays : statement.remakes table = false)
    (h : s.Carries table t d.name n) (effect : Effect config params s statement r s') :
    s'.Carries table t d.name n := by
  subst own
  obtain ⟨rows, indexes, there⟩ := h.there
  -- the identity is found among the columns, and none of the cases that are left touches these
  cases effect with
  | selected => exact h
  | tableMade => simp [Statement.remakes, Statement.table] at stays
  | tableThere => exact h
  | indexMade found _ made =>
    obtain ⟨_, _, _, rfl⟩ := Table.withIndex_eq_ok made
    obtain rfl := Option.some.inj (there.symm.trans found)
    exact h.withTable _ _
  | indexThere => exact h
  | inserted _ found made =>
    obtain rfl := Option.some.inj (there.symm.trans found)
    have identity : Table.identity? { t with rows, indexes } = some d := identity
    have made := (Table.newRow_eq_ok made).1
    rw [Store.lastIdentity_eq identity] at made
    exact (h.withCounter? (Table.counter_of_candidate identity made)).withTable _ _
  | updatedNothing => exact h
  | @updated _ _ _ _ _ changes _ found _ _ _ made =>
    obtain ⟨_, rfl⟩ := Table.withChanges_eq_ok made
    obtain rfl := Option.some.inj (there.symm.trans found)
    refine (h.withCounter? fun b hb => ?_).withTable _ _
    have identity : Table.identity? { t with rows, indexes } = some d := identity
    rw [← Store.lastIdentity_eq identity]
    exact Table.counterAfter_eq_some identity hb
  | deletedNothing => exact h
  | deleted found =>
    obtain rfl := Option.some.inj (there.symm.trans found)
    exact h.withTable _ _
  | altered => simp [Statement.remakes, Statement.table] at stays
  | tableDropped => simp [Statement.remakes, Statement.table] at stays
  | noTable => exact h
  | indexDropped found =>
    obtain rfl := Option.some.inj (there.symm.trans found)
    exact h.withTable _ _
  | noIndex => exact h
  | noIndexedTable => exact h

/-- **No command moves the counter back**, if it does not make, drop or alter the table. -/
theorem Store.Carries.after (identity : t.identity? = some d)
    (spares : c.statement.remakes table = true → s.after c = s)
    (h : s.Carries table t d.name n) : (s.after c).Carries table t d.name n := by
  by_cases own : c.statement.table = table
  · cases stays : c.statement.remakes table with
    | true =>
      rw [spares stays]
      exact h
    | false =>
      rcases run_store_cases s c.config c.statement c.params with unchanged | ⟨r, effect⟩
      · rw [Store.after, unchanged]
        exact h
      · exact effect.carries identity own stays h
  · -- a command on another table leaves the table and its counters alone
    have kept := Store.share_after_of_ne (s := s) own
    have tables : (s.after c).tables.get? table = s.tables.get? table := congrArg Share.table kept
    have counters : (s.after c).counters.get? table = s.counters.get? table :=
      congrArg Share.counters kept
    obtain ⟨there, counted⟩ := h
    refine ⟨by rwa [tables], ?_⟩
    rw [Store.counter, counters]
    exact counted

/-- What a store of a run carries, every later one carries. -/
theorem Store.Carries.later {commands : List Command} {k l : Nat}
    (identity : t.identity? = some d) (spares : s.Spares table commands) (le : k ≤ l)
    (h : (s.upTo commands k).Carries table t d.name n) :
    (s.upTo commands l).Carries table t d.name n := by
  induction l, le using Nat.le_induction with
  | base => exact h
  | succ l _ ih =>
    cases given : commands[l]? with
    | none =>
      rw [Store.upTo_succ_of_none given]
      exact ih
    | some c =>
      rw [Store.upTo_succ given]
      exact ih.after identity (spares l c given)

/-! ## What insertions report -/

/-- An insertion that succeeds reports an integer that the counter has come to then; if it brings no
number, the counter has come to it only now. -/
theorem reported_of_insert (found : s.tables.get? table = some t) (distinct : t.names.Nodup)
    (identity : t.identity? = some d) (integer : d.column.type = .integer)
    (inserts : c.InsertsInto table) (h : s.answer c = .ok r) :
    ∃ m, r.insertId = some (.int m) ∧ m ≤ (s.after c).counter table d.name ∧
      (c.InsertsUnnumbered table d.name → s.counter table d.name < m) := by
  obtain ⟨columns, values, statement⟩ := inserts
  -- of the effects only one is that of an insertion
  have ran : s.run c.config (.insert table columns values) c.params = (.ok r, s.after c) := by
    rw [← statement]
    exact Prod.ext h rfl
  generalize s.after c = s' at ran
  cases run_effect ran with
  | inserted _ found' made =>
    obtain rfl := Option.some.inj (found.symm.trans found')
    have made := (Table.newRow_eq_ok made).1
    rw [Store.lastIdentity_eq identity] at made
    obtain ⟨⟨m, number, le⟩, _, named⟩ :=
      Table.countedBy_of_candidate distinct identity integer made
    have reported : t.reportedColumn = some d := by
      rw [Table.reportedColumn, identity, Option.some_or]
    refine ⟨m, ?_, ?_, ?_⟩
    · rw [reported]
      exact Row.get?_of_at number (by simp)
    · rw [Store.counter_withTable, Store.counter_withCounter?_self named]
      exact le
    · rintro ⟨columns', values', statement', null⟩
      obtain ⟨_, rfl, rfl⟩ := Statement.insert.inj (statement.symm.trans statement')
      obtain ⟨given, _, hgiven, _, _⟩ := Table.candidate_eq_ok made
      have brings := Table.givenRow_at_null null (fun _ => rfl) hgiven
      obtain ⟨next, more⟩ := Table.at_identity_of_null identity hgiven brings made
      rw [number] at next
      cases next
      exact more

/-- An insertion that brings no number fails when there is none left, and for this reason if it is
of the right shape and what it brings can be stored. -/
theorem refused_of_exhausted {columns : List String} {values : List Operand}
    (found : s.tables.get? table = some t) (identity : t.identity? = some d)
    (last : s.counter table d.name = Int64.maxValue)
    (statement : c.statement = .insert table columns values)
    (null : ∀ b, ((columns.zip values).filter (·.1 = d.name)).getLast? = some b →
      b.2.resolve c.params = .ok .null) :
    ∃ e, s.answer c = .error e ∧ (columns.length = values.length → ∀ given,
      t.givenRow c.params TextMap.empty (columns.zip values) = .ok given →
        e = Table.exhausted table d.name) := by
  -- the shape is checked first and the values after it, so either may be the reason instead
  by_cases fits : columns.length = values.length
  · rw [Store.answer, statement, run_insert fits found, Table.newRow_eq,
      Store.lastIdentity_eq identity, last]
    cases hgiven : t.givenRow c.params TextMap.empty (columns.zip values) with
    | error e =>
      refine ⟨e, ?_, fun _ _ stored => by cases stored⟩
      rw [Table.candidate, hgiven]
      rfl
    | ok given =>
      have brings := Table.givenRow_at_null null (fun _ => rfl) hgiven
      rw [Table.candidate_of_exhausted identity hgiven brings]
      exact ⟨_, rfl, fun _ _ _ => rfl⟩
  · refine ⟨ExecutionError.columnCountMismatch columns.length values.length, ?_,
      fun fits' => absurd fits' fits⟩
    rw [Store.answer_eq, Share.answer, statement, onShare, if_pos fits]
    rfl

end

/-! ## Runs -/

/-- **Generated numbers grow.** Take a run, over any tables and with failures, in which a table with
an integer identity is not made, dropped or altered. An insertion into it that succeeds without
bringing a number reports an integer, and this integer is beyond every one that an insertion into it
has reported earlier in the run, and each of these has reported one. When the counter stands at the
greatest integer, such an insertion fails; if nothing else is wrong with it, because no number is
left. -/
theorem generated_numbers_grow {s : Store} {table : String} {t : Table} {d : ColumnDef}
    {commands : List Command} (h : Reachable Command.Any s)
    (found : s.tables.get? table = some t) (identity : t.identity? = some d)
    (integer : d.column.type = .integer) (spares : s.Spares table commands) :
    (∀ (j : Nat) (c : Command) (r : Result), commands[j]? = some c →
      c.InsertsUnnumbered table d.name →
      (s.answers commands)[j]? = some (.ok r) →
      ∃ n, r.insertId = some (.int n) ∧
        ∀ i < j, ∀ (c' : Command) (r' : Result), commands[i]? = some c' → c'.InsertsInto table →
          (s.answers commands)[i]? = some (.ok r') →
          ∃ m, r'.insertId = some (.int m) ∧ m < n) ∧
    ∀ (j : Nat) (c : Command), commands[j]? = some c → c.InsertsUnnumbered table d.name →
      (s.upTo commands j).counter table d.name = Int64.maxValue →
      ∃ e, (s.answers commands)[j]? = some (.error e) ∧
        ∀ columns values, c.statement = .insert table columns values →
          columns.length = values.length →
          (∃ given, t.givenRow c.params TextMap.empty (columns.zip values) = .ok given) →
          e = Table.exhausted table d.name := by
  have distinct : t.names.Nodup :=
    (h.allTables (fun _ c _ => Table.wellFormed_kept c.config) table t found).distinct
  have start : (s.upTo commands 0).Carries table t d.name (s.counter table d.name) :=
    ⟨⟨t.rows, t.indexes, found⟩, Int64.le_refl _⟩
  -- the table is there in front of every command
  have there : ∀ k, ∃ rows indexes,
      (s.upTo commands k).tables.get? table = some { t with rows, indexes } :=
    fun k => (start.later identity spares (Nat.zero_le k)).there
  have answered : ∀ k c o, commands[k]? = some c → (s.answers commands)[k]? = some o →
      (s.upTo commands k).answer c = o := by
    intro k c o given h
    rw [Store.answers_getElem?, given] at h
    exact Option.some.inj h
  constructor
  · intro j c r given unnumbered succeeds
    obtain ⟨rows, indexes, found⟩ := there j
    have inserts : c.InsertsInto table := by
      obtain ⟨columns, values, statement, _⟩ := unnumbered
      exact ⟨columns, values, statement⟩
    obtain ⟨n, reported, _, more⟩ :=
      reported_of_insert found distinct identity integer inserts (answered j c _ given succeeds)
    refine ⟨n, reported, fun i before c' r' given' inserts' succeeds' => ?_⟩
    obtain ⟨rows', indexes', found'⟩ := there i
    have answer' := answered i c' _ given' succeeds'
    obtain ⟨m, reported', counted, _⟩ :=
      reported_of_insert found' distinct identity integer inserts' answer'
    -- the counter came to `m` behind the earlier insertion, and has not moved back since
    have behind : (s.upTo commands (i + 1)).Carries table t d.name m := by
      refine ⟨there (i + 1), ?_⟩
      rw [Store.upTo_succ given']
      exact counted
    have kept := (behind.later identity spares before).counted
    exact ⟨m, reported', Int64.lt_of_le_of_lt kept (more unnumbered)⟩
  · rintro j c given ⟨columns, values, statement, null⟩ last
    obtain ⟨rows, indexes, found⟩ := there j
    obtain ⟨e, refused, reason⟩ := refused_of_exhausted found identity last statement null
    refine ⟨e, ?_, fun columns' values' statement' fits ⟨given, stored⟩ => ?_⟩
    · rw [Store.answers_getElem?, given]
      exact congrArg some refused
    · obtain ⟨_, rfl, rfl⟩ := Statement.insert.inj (statement.symm.trans statement')
      rw [Table.givenRow_withRows] at reason
      exact reason fits given stored

/-- Commands that lengthen the numbered list. Numbers are brought, one of them negative and one a
second time; all rows with a label are removed and the one that is left receives another number. At
the end, with duplicates no longer refused, the greatest number is brought. -/
def lengthening : List Command :=
  let bring (id : Value) (label : String) : Statement :=
    .insert "items" ["id", "label"] [.literal id, .literal (.text label)]
  ([unnumbered,
    bring (.int 20) "nail",
    bring (.int 20) "tack",
    .delete "items" (some (.isNull "label" true)),
    bring .null "screw",
    bring (.int (-3)) "washer",
    .update "items" [("id", .literal (.int 30))] (some (.isNull "label" false)),
    .createTable "shelves" [⟨"id", number⟩] false,
    unnumbered] : List Statement).map (⟨.standard, ·, []⟩) ++
    ([bring (.int Int64.maxValue) "rivet", unnumbered] : List Statement).map
      (⟨⟨false, false⟩, ·, []⟩)

/-- What an answer reports. -/
def reported : Outcome Result → Option Value
  | .ok r => r.insertId
  | .error _ => none

theorem generated_numbers_grow_list :
    Reachable Command.Any numberedStore ∧
      numberedStore.tables.get? "items" = some numberedList ∧
      numberedList.identity? = some ⟨"id", number⟩ ∧ number.type = .integer ∧
      numberedStore.Spares "items" lengthening ∧
      (numberedStore.answers lengthening).map reported =
        [some (.int 8), some (.int 20), none, none, some (.int 21), some (.int (-3)), none, none,
          some (.int 31), some (.int Int64.maxValue), none] ∧
      (∀ (j : Nat) (c : Command) (r : Result), lengthening[j]? = some c →
        c.InsertsUnnumbered "items" "id" →
        (numberedStore.answers lengthening)[j]? = some (.ok r) →
        ∃ n, r.insertId = some (.int n) ∧
          ∀ i < j, ∀ (c' : Command) (r' : Result), lengthening[i]? = some c' →
            c'.InsertsInto "items" → (numberedStore.answers lengthening)[i]? = some (.ok r') →
            ∃ m, r'.insertId = some (.int m) ∧ m < n) ∧
      ∃ e, (numberedStore.answers lengthening)[10]? = some (.error e) ∧
        e = Table.exhausted "items" "id" := by
  have spared : ∀ c ∈ lengthening, c.statement.remakes "items" = false := by decide
  have spares : numberedStore.Spares "items" lengthening := by
    intro k c given remakes
    rw [spared c (List.mem_of_getElem? given)] at remakes
    cases remakes
  obtain ⟨grow, refused⟩ := generated_numbers_grow reachable_numberedStore.any numberedStore_items
    rfl rfl spares
  refine ⟨reachable_numberedStore.any, numberedStore_items, rfl, rfl, spares, by cbv, grow, ?_⟩
  -- the last insertion finds the counter at the greatest integer
  have brings : Command.InsertsUnnumbered ⟨⟨false, false⟩, unnumbered, []⟩ "items" "id" :=
    ⟨_, _, rfl, by simp⟩
  obtain ⟨e, failed, reason⟩ := refused 10 _ rfl brings (by cbv)
  exact ⟨e, failed, reason _ _ rfl rfl ⟨_, rfl⟩⟩

end Relational

end Polystore
