import Polystore.Proofs.Outcome
import Polystore.Relational.Store

/-!
# The parts of a statement

Statements make tables in a handful of ways: a new one, one with another index, with another row,
with rows changed, with columns changed. For each way, what it means that it has succeeded: what was
checked, and what was made.
-/

namespace Polystore

/-! ## Columns by name -/

namespace Schema

variable {schema : Schema} {name : String} {c : Column}

theorem mem_of_column? (h : schema.column? name = some c) : ⟨name, c⟩ ∈ schema := by
  obtain ⟨d, found, rfl⟩ := Option.map_eq_some_iff.mp h
  have named : d.name = name := by simpa using List.find?_some found
  have stored := List.mem_of_find?_eq_some found
  subst named
  exact stored

theorem isSome_column?_iff :
    (schema.column? name).isSome = true ↔ name ∈ schema.map (·.name) := by
  rw [column?, Option.isSome_map, List.find?_isSome]
  simp

/-- Where names do not repeat, a column is found by its name. -/
theorem column?_of_mem {d : ColumnDef} (distinct : (schema.map (·.name)).Nodup)
    (h : d ∈ schema) : schema.column? d.name = some d.column := by
  induction schema with
  | nil => cases h
  | cons e rest ih =>
    have ⟨fresh, distinct⟩ := List.nodup_cons.mp distinct
    rcases List.mem_cons.mp h with rfl | h
    · simp [column?]
    · have ne : e.name ≠ d.name := by
        intro eq
        exact fresh (List.mem_map.mpr ⟨d, h, eq.symm⟩)
      rw [column?, List.find?_cons_of_neg (by simpa using ne)]
      exact ih distinct h

/-- Columns of one name are one column. -/
theorem eq_of_name {d e : ColumnDef} (distinct : (schema.map (·.name)).Nodup)
    (hd : d ∈ schema) (he : e ∈ schema) (same : d.name = e.name) : d = e := by
  have found := column?_of_mem distinct hd
  rw [same, column?_of_mem distinct he] at found
  cases d
  cases e
  cases same
  cases found
  rfl

theorem names_withColumn (h : name ∈ schema.map (·.name)) :
    (schema.withColumn name c).map (·.name) = schema.map (·.name) := by
  induction schema with
  | nil => cases h
  | cons d rest ih =>
    rw [withColumn]
    split
    · rename_i eq
      rw [List.map_cons, List.map_cons, eq]
    · rename_i ne
      rw [List.map_cons, List.map_cons, ih ((List.mem_cons.mp h).resolve_left fun e => ne e.symm)]

/-- A column of a schema in which another one was set is that one or was there. -/
theorem mem_withColumn {d : ColumnDef} (h : d ∈ schema.withColumn name c) :
    d = ⟨name, c⟩ ∨ d ∈ schema := by
  induction schema with
  | nil => simpa [withColumn] using h
  | cons e rest ih =>
    rw [withColumn] at h
    split at h
    · exact (List.mem_cons.mp h).imp_right (List.mem_cons_of_mem e)
    · rcases List.mem_cons.mp h with rfl | h
      · exact .inr List.mem_cons_self
      · exact (ih h).imp_right (List.mem_cons_of_mem e)

theorem column?_withColumn_self : (schema.withColumn name c).column? name = some c := by
  induction schema with
  | nil => simp [withColumn, column?]
  | cons d rest ih =>
    rw [withColumn]
    split
    · simp [column?]
    · rename_i ne
      rw [column?, List.find?_cons_of_neg (by simpa using ne)]
      exact ih

end Schema

namespace Relational

open Outcome

/-! ## Values -/

theorem storedValue_eq_ok {table name : String} {c : Column} {v w : Value}
    (h : storedValue table name c v = .ok w) :
    c.type.coerce name v = .ok w ∧ (requiresValue c = true → w.isNull = false) := by
  obtain ⟨w', coerced, h⟩ := bind_eq_ok.mp h
  split at h
  · cases h
  · rename_i fits
    cases h
    refine ⟨coerced, fun required => ?_⟩
    rw [required, Bool.true_and] at fits
    exact Bool.eq_false_iff.mpr fits

namespace Table

variable {t : Table} {name table : String} {c : Column}

/-! ## Columns of a table -/

theorem requireColumn_eq_ok : t.requireColumn name = .ok c ↔ t.column? name = some c := by
  rw [requireColumn]
  cases t.column? name <;> simp

/-- The names of the columns of a table. -/
def names (t : Table) : List String := t.columns.map (·.name)

theorem mem_names_of_column? (h : t.column? name = some c) : name ∈ t.names :=
  Schema.isSome_column?_iff.mp (by rw [← column?, h]; rfl)

theorem not_mem_names_of_column? (h : t.column? name = none) : name ∉ t.names := by
  intro known
  have found := Schema.isSome_column?_iff.mpr known
  rw [← column?, h] at found
  cases found

theorem mem_names_of_requireColumn (h : t.requireColumn name = .ok c) : name ∈ t.names :=
  mem_names_of_column? (requireColumn_eq_ok.mp h)

theorem mem_names_of_requireColumns {names : List String} (h : t.requireColumns names = .ok ()) :
    ∀ name ∈ names, name ∈ t.names := by
  induction names with
  | nil => simp
  | cons name rest ih =>
    obtain ⟨c, found, h⟩ := bind_eq_ok.mp h
    intro other ho
    rcases List.mem_cons.mp ho with rfl | ho
    · exact mem_names_of_requireColumn found
    · exact ih h other ho

theorem mem_of_identity? {d : ColumnDef} (h : t.identity? = some d) : d ∈ t.columns :=
  List.mem_of_find?_eq_some h

theorem column?_of_identity? {d : ColumnDef} (distinct : t.names.Nodup)
    (h : t.identity? = some d) : t.column? d.name = some d.column :=
  Schema.column?_of_mem distinct (mem_of_identity? h)

theorem isIdentity_of_identity? {d : ColumnDef} (h : t.identity? = some d) :
    d.column.isIdentity = true := by
  unfold identity? at h
  simpa using List.find?_some h

theorem repeatedColumn_eq_none {seen : List String} {columns : List ColumnDef} :
    repeatedColumn seen columns = none ↔
      (columns.map (·.name)).Nodup ∧ ∀ d ∈ columns, d.name ∉ seen := by
  induction columns generalizing seen with
  | nil => simp [repeatedColumn]
  | cons d rest ih =>
    rw [repeatedColumn]
    split
    · rename_i repeated
      have repeated := List.contains_iff_mem.mp repeated
      simp [repeated]
    · rename_i fresh
      have fresh : d.name ∉ seen := fun h => fresh (List.contains_iff_mem.mpr h)
      rw [ih]
      simp only [List.mem_cons, not_or, List.map_cons, List.nodup_cons, List.mem_map, not_exists,
        not_and, forall_eq_or_imp]
      constructor
      · rintro ⟨distinct, apart⟩
        exact ⟨⟨fun e he => (apart e he).1, distinct⟩, fresh, fun e he => (apart e he).2⟩
      · rintro ⟨⟨apart, distinct⟩, _, unseen⟩
        exact ⟨distinct, fun e he => ⟨apart e he, unseen e he⟩⟩

theorem checkColumns_eq_ok {columns : List ColumnDef} (h : checkColumns table columns = .ok ()) :
    (columns.filter (·.column.autoIncrement)).length ≤ 1 ∧ (columns.map (·.name)).Nodup := by
  rw [checkColumns] at h
  split at h
  · cases h
  · rename_i few
    split at h
    · cases h
    · rename_i distinct
      exact ⟨Nat.le_of_not_lt few, (repeatedColumn_eq_none.mp distinct).1⟩

/-! ## Tables from tables -/

variable {config : Config} {params : List Value}

theorem newTable_eq_ok {columns : List ColumnDef} (h : newTable name columns = .ok t) :
    columns ≠ [] ∧ checkDefaults columns = .ok () ∧ checkColumns name columns = .ok () ∧
      t = { name, columns, rows := [], indexes := TextMap.empty } := by
  unfold newTable at h
  split at h
  · cases h
  · rename_i some
    obtain ⟨_, defaults, h⟩ := bind_eq_ok.mp h
    obtain ⟨_, checked, h⟩ := bind_eq_ok.mp h
    exact ⟨fun e => some (List.isEmpty_iff.mpr e), defaults, checked, (Except.ok.inj h).symm⟩

theorem withIndex_eq_ok {index : String} {columns : List String} {unique : Bool} {next : Table}
    (h : t.withIndex config table index columns unique = .ok next) :
    columns ≠ [] ∧ t.requireColumns columns = .ok () ∧
      (unique = true → config.enforceUnique = true →
        firstRepeated columns [] t.rows = none) ∧
      next = { t with indexes := t.indexes.insert index (Index.build columns unique t.rows) } := by
  unfold withIndex at h
  dsimp only at h
  split at h
  · cases h
  · rename_i some
    have some : columns ≠ [] := fun e => some (List.isEmpty_iff.mpr e)
    obtain ⟨_, known, h⟩ := bind_eq_ok.mp h
    split at h
    · split at h
      · cases h
      · rename_i distinct
        exact ⟨some, known, fun _ _ => distinct, (Except.ok.inj h).symm⟩
    · rename_i lax
      refine ⟨some, known, fun unique enforced => ?_, (Except.ok.inj h).symm⟩
      rw [unique, enforced] at lax
      exact absurd rfl lax

/-- The row that an insertion would add, before it is compared with the rows that are there. -/
def candidate (t : Table) (table : String) (last : Int64) (params : List Value)
    (values : List (String × Operand)) : Outcome (Row × Option (String × Int64)) := do
  let given ← t.givenRow params TextMap.empty values
  let (numbered, counter) ← t.withIdentity table last given
  let row ← completedRow table numbered t.columns
  .ok (row, counter)

theorem newRow_eq {last : Int64} {values : List (String × Operand)} :
    t.newRow config table last params values = (do
      let (row, counter) ← t.candidate table last params values
      if config.enforceUnique then t.checkUniqueRow row
      .ok (row, counter)) := by
  unfold newRow candidate
  cases t.givenRow params TextMap.empty values with
  | error e => rfl
  | ok given =>
    rw [ok_bind, ok_bind]
    cases t.withIdentity table last given with
    | error e => rfl
    | ok pair =>
      obtain ⟨numbered, counter⟩ := pair
      rw [ok_bind, ok_bind]
      dsimp only
      cases completedRow table numbered t.columns <;> rfl

theorem candidate_eq_ok {last : Int64} {values : List (String × Operand)} {row : Row}
    {counter : Option (String × Int64)}
    (h : t.candidate table last params values = .ok (row, counter)) :
    ∃ given numbered, t.givenRow params TextMap.empty values = .ok given ∧
      t.withIdentity table last given = .ok (numbered, counter) ∧
      completedRow table numbered t.columns = .ok row := by
  obtain ⟨given, hgiven, h⟩ := bind_eq_ok.mp h
  obtain ⟨⟨numbered, counter'⟩, hnumbered, h⟩ := bind_eq_ok.mp h
  obtain ⟨row', hrow, h⟩ := bind_eq_ok.mp h
  cases h
  exact ⟨given, numbered, hgiven, hnumbered, hrow⟩

theorem newRow_eq_ok {last : Int64} {values : List (String × Operand)} {row : Row}
    {counter : Option (String × Int64)}
    (h : t.newRow config table last params values = .ok (row, counter)) :
    t.candidate table last params values = .ok (row, counter) ∧
      (config.enforceUnique = true → t.checkUniqueRow row = .ok ()) := by
  rw [newRow_eq] at h
  obtain ⟨⟨row', counter'⟩, made, h⟩ := bind_eq_ok.mp h
  dsimp only at h
  split at h
  · obtain ⟨_, distinct, h⟩ := bind_eq_ok.mp h
    cases h
    exact ⟨made, fun _ => distinct⟩
  · rename_i lax
    cases h
    exact ⟨made, fun enforced => absurd enforced lax⟩

/-- An insertion is refused before it compares the row with the rows that are there, or by that
comparison. -/
theorem newRow_eq_error {last : Int64} {values : List (String × Operand)} {e : Error}
    (h : t.newRow config table last params values = .error e) :
    t.candidate table last params values = .error e ∨
      ∃ row counter, t.candidate table last params values = .ok (row, counter) ∧
        t.checkUniqueRow row = .error e := by
  rw [newRow_eq] at h
  cases made : t.candidate table last params values with
  | error e' =>
    rw [made] at h
    exact .inl h
  | ok pair =>
    obtain ⟨row, counter⟩ := pair
    refine .inr ⟨row, counter, rfl, ?_⟩
    rw [made, ok_bind] at h
    dsimp only at h
    split at h
    · cases compared : t.checkUniqueRow row with
      | error e' =>
        rw [compared] at h
        cases h
        rfl
      | ok _ =>
        rw [compared] at h
        cases h
    · cases h

/-- The table with its marked rows changed, before its rows are compared. -/
def changed (t : Table) (rows : List (Row × Bool)) (changes : List (String × Value)) : Table :=
  { t with rows := rows.map fun r => if r.2 then changedRow changes r.1 else r.1 }

/-- The table with its indexes made anew, once nothing in it repeats what must be distinct. -/
def checked (t : Table) (config : Config) : Outcome Table := do
  if config.enforceUnique then t.checkUniqueAll
  .ok t.reindexed

theorem checked_eq_ok {next : Table} (h : t.checked config = .ok next) :
    (config.enforceUnique = true → t.checkUniqueAll = .ok ()) ∧ next = t.reindexed := by
  unfold checked at h
  split at h
  · obtain ⟨_, distinct, h⟩ := bind_eq_ok.mp h
    exact ⟨fun _ => distinct, (Except.ok.inj h).symm⟩
  · rename_i lax
    exact ⟨fun enforced => absurd enforced lax, (Except.ok.inj h).symm⟩

/-- A table that repeats nothing that must be distinct passes. -/
theorem checked_eq (distinct : config.enforceUnique = true → t.checkUniqueAll = .ok ()) :
    t.checked config = .ok t.reindexed := by
  unfold checked
  split
  · rename_i enforced
    rw [distinct enforced]
    rfl
  · rfl

theorem withChanges_eq {rows : List (Row × Bool)} {changes : List (String × Value)} :
    t.withChanges config rows changes = (t.changed rows changes).checked config := rfl

theorem withChanges_eq_ok {rows : List (Row × Bool)} {changes : List (String × Value)}
    {next : Table} (h : t.withChanges config rows changes = .ok next) :
    (config.enforceUnique = true → (t.changed rows changes).checkUniqueAll = .ok ()) ∧
      next = (t.changed rows changes).reindexed :=
  checked_eq_ok h

/-- The table in front of a change of its columns, with the counter of its identity. -/
def start (t : Table) (last : Int64) : Altered := ⟨t, t.identity?.map fun d => (d.name, last)⟩

theorem altered_eq {last : Int64} {alterations : List Alteration} :
    t.altered config table last alterations = (do
      let b ← alterations.foldlM (Altered.apply table) (t.start last)
      checkColumns t.name b.table.columns
      (b.table.checked config).map fun next => { b with table := next }) := by
  refine congrArg (alterations.foldlM (Altered.apply table) (t.start last) >>= ·) ?_
  funext b
  unfold checked
  cases checkColumns t.name b.table.columns with
  | error e => rfl
  | ok _ =>
    cases config.enforceUnique with
    | false => rfl
    | true => cases b.table.checkUniqueAll <;> rfl

theorem altered_eq_ok {last : Int64} {alterations : List Alteration} {a : Altered}
    (h : t.altered config table last alterations = .ok a) :
    ∃ b, alterations.foldlM (Altered.apply table) (t.start last) = .ok b ∧
      checkColumns t.name b.table.columns = .ok () ∧
      (config.enforceUnique = true → b.table.checkUniqueAll = .ok ()) ∧
      a = { b with table := b.table.reindexed } := by
  rw [altered_eq] at h
  obtain ⟨b, applied, h⟩ := bind_eq_ok.mp h
  obtain ⟨_, known, h⟩ := bind_eq_ok.mp h
  obtain ⟨next, made, rfl⟩ := map_eq_ok.mp h
  obtain ⟨distinct, rfl⟩ := checked_eq_ok made
  exact ⟨b, applied, known, distinct, rfl⟩

end Table

/-! ## Changes of columns -/

namespace Altered

variable {a b : Altered} {table name : String} {c : Column}

theorem addColumn_eq_ok (h : a.addColumn table name c = .ok b) :
    a.table.column? name = none ∧ ∃ default, storedDefault name c = .ok default ∧
      ((c.isIdentity = true ∧
          b =
            { table :=
                { name := a.table.name
                  columns := a.table.columns ++ [⟨name, c⟩]
                  rows := numbered name 0 a.table.rows
                  indexes := a.table.indexes }
              counter := some (name, Int64.ofNat a.table.rows.length) }) ∨
        (c.isIdentity = false ∧
          (requiresValue c = true → default.isNull = true → a.table.rows = []) ∧
          b =
            { table :=
                { name := a.table.name
                  columns := a.table.columns ++ [⟨name, c⟩]
                  rows := a.table.rows.map (·.insert name default)
                  indexes := a.table.indexes }
              counter := a.counter })) := by
  unfold addColumn at h
  dsimp only at h
  split at h
  · cases h
  · rename_i free
    obtain ⟨default, stored, h⟩ := bind_eq_ok.mp h
    refine ⟨by simpa using free, default, stored, ?_⟩
    split at h
    · rename_i identity
      exact .inl ⟨identity, (Except.ok.inj h).symm⟩
    · rename_i plain
      split at h
      · cases h
      · rename_i fits
        refine .inr ⟨Bool.eq_false_iff.mpr plain, fun required null => ?_, (Except.ok.inj h).symm⟩
        rw [required, null] at fits
        simpa using fits

theorem dropColumn_eq_ok (h : a.dropColumn name = .ok b) :
    name ∈ a.table.names ∧
      b =
        { table :=
            { name := a.table.name
              columns := a.table.columns.filter (·.name ≠ name)
              rows := a.table.rows.map (·.erase name)
              indexes := a.table.indexes.filter fun _ index => !index.columns.contains name }
          counter := a.counter.filter (·.1 ≠ name) } := by
  obtain ⟨_, known, h⟩ := bind_eq_ok.mp h
  exact ⟨Table.mem_names_of_requireColumn known, (Except.ok.inj h).symm⟩

theorem modifyColumn_eq_ok (h : a.modifyColumn table name c = .ok b) :
    name ∈ a.table.names ∧ ∃ rows,
      a.table.rows.mapM (fun row =>
        (storedValue table name c (row.at name)).map (row.insert name)) = .ok rows ∧
      b =
        { table :=
            { name := a.table.name
              columns := Schema.withColumn a.table.columns name c
              rows
              indexes := a.table.indexes }
          counter := a.counter } := by
  obtain ⟨_, known, h⟩ := bind_eq_ok.mp h
  obtain ⟨rows, stored, h⟩ := bind_eq_ok.mp h
  exact ⟨Table.mem_names_of_requireColumn known, rows, stored, (Except.ok.inj h).symm⟩

end Altered

end Relational

end Polystore
