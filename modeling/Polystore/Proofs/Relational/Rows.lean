import Polystore.Proofs.Relational.Parts

/-!
# What rows hold

Rows come into a table by an insertion, which takes the values it is given, numbers the row and
fills in defaults, and they are changed by assignments and by changes of the columns. For each of
these, what a column of the row holds afterwards: what it held before, or a value that was made for
this column.
-/

namespace Polystore

/-! ## Rows of a schema -/

/-- What a row holds in a column suits the column, for every column. -/
def Row.Each (suits : Column → Value → Prop) (schema : Schema) (row : Row) : Prop :=
  ∀ d ∈ schema, suits d.column (row.at d.name)

namespace Row.Each

variable {suits : Column → Value → Prop} {schema : Schema} {row : Row} {name : String}
  {c : Column} {w : Value}

theorem add (h : row.Each suits schema) (free : name ∉ schema.map (·.name)) (new : suits c w) :
    Row.Each suits (schema ++ [⟨name, c⟩]) (row.insert name w) := by
  intro d hd
  rcases List.mem_append.mp hd with hd | hd
  · have ne : name ≠ d.name := fun e => free (e ▸ List.mem_map_of_mem hd)
    rw [Row.at_insert_of_ne ne]
    exact h d hd
  · obtain rfl := List.mem_singleton.mp hd
    rw [Row.at_insert_self]
    exact new

theorem drop (h : row.Each suits schema) :
    Row.Each suits (schema.filter (·.name ≠ name)) (row.erase name) := by
  intro d hd
  obtain ⟨hd, ne⟩ := List.mem_filter.mp hd
  rw [Row.at_erase_of_ne (Ne.symm (of_decide_eq_true ne))]
  exact h d hd

theorem modify (h : row.Each suits schema) (distinct : (schema.map (·.name)).Nodup)
    (known : name ∈ schema.map (·.name)) (new : suits c w) :
    Row.Each suits (schema.withColumn name c) (row.insert name w) := by
  intro d hd
  have distinct : ((schema.withColumn name c).map (·.name)).Nodup := by
    rw [Schema.names_withColumn known]
    exact distinct
  have set : ⟨name, c⟩ ∈ schema.withColumn name c :=
    Schema.mem_of_column? Schema.column?_withColumn_self
  by_cases same : d.name = name
  · obtain rfl := Schema.eq_of_name distinct hd set same
    rw [Row.at_insert_self]
    exact new
  · rw [Row.at_insert_of_ne (Ne.symm same)]
    rcases Schema.mem_withColumn hd with rfl | hd
    · exact absurd rfl same
    · exact h d hd

end Row.Each

namespace Relational

open Outcome

theorem requiresValue_iff {c : Column} :
    requiresValue c = true ↔ c.primary = true ∨ c.nullable = false := by
  rw [requiresValue, Bool.or_eq_true, Bool.not_eq_true', or_comm]

theorem isNull_eq_false {v : Value} : v.isNull = false ↔ v ≠ .null := by
  cases v <;> simp [Value.isNull]

/-! ## Inserted rows -/

namespace Table

variable {t : Table} {params : List Value} {table : String} {row given : Row}
  {values : List (String × Operand)}

/-- A column of the given row holds what a value was coerced to. -/
theorem givenRow_get? (h : t.givenRow params row values = .ok given) (name : String) :
    given.get? name = row.get? name ∨
      ∃ c v w, t.column? name = some c ∧ c.type.coerce name v = .ok w ∧
        given.get? name = some w := by
  induction values generalizing row with
  | nil =>
    cases h
    exact .inl rfl
  | cons value rest ih =>
    obtain ⟨other, operand⟩ := value
    obtain ⟨c, known, h⟩ := bind_eq_ok.mp h
    obtain ⟨v, _, h⟩ := bind_eq_ok.mp h
    obtain ⟨w, coerced, h⟩ := bind_eq_ok.mp h
    rcases ih h with kept | set
    · by_cases same : other = name
      · subst same
        rw [TextMap.get?_insert_self] at kept
        exact .inr ⟨c, v, w, requireColumn_eq_ok.mp known, coerced, kept⟩
      · rw [TextMap.get?_insert_of_ne same] at kept
        exact .inl kept
    · exact .inr set

theorem givenRow_get?_of_not_mem (h : t.givenRow params row values = .ok given) {name : String}
    (out : name ∉ values.map (·.1)) : given.get? name = row.get? name := by
  induction values generalizing row with
  | nil =>
    cases h
    rfl
  | cons value rest ih =>
    obtain ⟨other, operand⟩ := value
    obtain ⟨_, _, h⟩ := bind_eq_ok.mp h
    obtain ⟨_, _, h⟩ := bind_eq_ok.mp h
    obtain ⟨w, _, h⟩ := bind_eq_ok.mp h
    rw [List.map_cons, List.mem_cons, not_or] at out
    rw [ih h out.2, TextMap.get?_insert_of_ne fun e => out.1 e.symm]

/-- A given row has no columns but those of the table. -/
theorem mem_names_of_givenRow (h : t.givenRow params TextMap.empty values = .ok given)
    {name : String} (has : given.contains name = true) : name ∈ t.names := by
  rcases givenRow_get? h name with kept | ⟨c, _, _, known, _⟩
  · rw [TextMap.contains, kept] at has
    cases has
  · exact mem_names_of_column? known

/-- What an insertion gives to a row has nothing to do with the rows that are there. -/
theorem givenRow_withRows (t : Table) (rows : List Row) (indexes : TextMap Index) :
    givenRow { t with rows, indexes } params row values = t.givenRow params row values := by
  induction values generalizing row with
  | nil => rfl
  | cons value rest ih =>
    rw [givenRow, givenRow]
    simp only [ih]
    rfl

/-- What numbering does: nothing without an identity; else a row that brings no number receives the
next one, and one that brings a number moves the counter if the number is larger. -/
theorem withIdentity_eq_ok {last : Int64} {numbered : Row} {counter : Option (String × Int64)}
    (h : t.withIdentity table last row = .ok (numbered, counter)) :
    (t.identity? = none ∧ numbered = row ∧ counter = none) ∨
      ∃ d, t.identity? = some d ∧
        ((row.at d.name = .null ∧ last ≠ Int64.maxValue ∧
            numbered = row.insert d.name (.int (last + 1)) ∧
            counter = some (d.name, last + 1)) ∨
          (∃ n, row.at d.name = .int n ∧ numbered = row ∧
            counter = if last < n then some (d.name, n) else none) ∨
          (row.at d.name ≠ .null ∧ (∀ n, row.at d.name ≠ .int n) ∧ numbered = row ∧
            counter = none)) := by
  rw [withIdentity] at h
  split at h
  · rename_i none
    cases h
    exact .inl ⟨none, rfl, rfl⟩
  · rename_i d found
    refine .inr ⟨d, found, ?_⟩
    split at h
    · rename_i null
      split at h
      · cases h
      · rename_i more
        cases h
        exact .inl ⟨null, more, rfl, rfl⟩
    · rename_i n number
      cases h
      exact .inr (.inl ⟨n, number, rfl, rfl⟩)
    · rename_i notNull notInt
      cases h
      exact .inr (.inr ⟨notNull, notInt, rfl, rfl⟩)

theorem withIdentity_eq_ok_of_some {d : ColumnDef} {last : Int64} {numbered : Row}
    {counter : Option (String × Int64)} (identity : t.identity? = some d)
    (h : t.withIdentity table last row = .ok (numbered, counter)) :
    (row.at d.name = .null ∧ last ≠ Int64.maxValue ∧
        numbered = row.insert d.name (.int (last + 1)) ∧ counter = some (d.name, last + 1)) ∨
      (∃ n, row.at d.name = .int n ∧ numbered = row ∧
        counter = if last < n then some (d.name, n) else none) ∨
      (row.at d.name ≠ .null ∧ (∀ n, row.at d.name ≠ .int n) ∧ numbered = row ∧
        counter = none) := by
  rcases withIdentity_eq_ok h with ⟨none, _⟩ | ⟨d', found, cases⟩
  · rw [identity] at none
    cases none
  · obtain rfl : d' = d := Option.some.inj (found.symm.trans identity)
    exact cases

/-- A numbered row holds what it held, but for an identity that held nothing: that one holds the next
number. -/
theorem get?_withIdentity {last : Int64} {numbered : Row} {counter : Option (String × Int64)}
    (h : t.withIdentity table last row = .ok (numbered, counter)) (name : String) :
    (numbered.get? name = row.get? name ∧
        ∀ d, t.identity? = some d → d.name = name → row.at name ≠ .null) ∨
      (row.at name = .null ∧ (∃ d, t.identity? = some d ∧ d.name = name) ∧
        last ≠ Int64.maxValue ∧ numbered.get? name = some (.int (last + 1))) := by
  rcases withIdentity_eq_ok h with ⟨none, rfl, _⟩ | ⟨d, found, ⟨null, more, rfl, _⟩ |
    ⟨n, number, rfl, _⟩ | ⟨notNull, _, rfl, _⟩⟩
  · refine .inl ⟨rfl, fun d found => ?_⟩
    rw [none] at found
    cases found
  · by_cases same : d.name = name
    · subst same
      exact .inr ⟨null, ⟨d, found, rfl⟩, more, TextMap.get?_insert_self ..⟩
    · refine .inl ⟨TextMap.get?_insert_of_ne same .., fun e found' named => ?_⟩
      obtain rfl := Option.some.inj (found.symm.trans found')
      exact absurd named same
  · refine .inl ⟨rfl, fun e found' named => ?_⟩
    obtain rfl := Option.some.inj (found.symm.trans found')
    rw [← named, number]
    simp
  · refine .inl ⟨rfl, fun e found' named => ?_⟩
    obtain rfl := Option.some.inj (found.symm.trans found')
    rw [← named]
    exact notNull

/-- Numbering touches no column but the identity. -/
theorem withIdentity_contains {last : Int64} {numbered : Row} {counter : Option (String × Int64)}
    (h : t.withIdentity table last row = .ok (numbered, counter)) {name : String}
    (has : numbered.contains name = true) : row.contains name = true ∨ name ∈ t.names := by
  rcases withIdentity_eq_ok h with ⟨_, rfl, _⟩ | ⟨d, found, ⟨_, _, rfl, _⟩ | ⟨_, _, rfl, _⟩ |
    ⟨_, _, rfl, _⟩⟩
  · exact .inl has
  · rcases (TextMap.contains_insert _ _ _ _).mp has with rfl | has
    · exact .inr (List.mem_map_of_mem (mem_of_identity? found))
    · exact .inl has
  · exact .inl has
  · exact .inl has

end Table

variable {table : String} {row full : Row} {columns : List ColumnDef}

/-- A completed row is made column by column: the first column keeps its value or receives its
default, and holds what it requires. -/
theorem completedRow_cons_eq_ok {d : ColumnDef}
    (h : completedRow table row (d :: columns) = .ok full) :
    ∃ next, ((row.contains d.name = true ∧ next = row) ∨
        (row.get? d.name = none ∧
          ∃ w, storedDefault d.name d.column = .ok w ∧ next = row.insert d.name w)) ∧
      (requiresValue d.column = true → (next.at d.name).isNull = false) ∧
      completedRow table next columns = .ok full := by
  have rest : ∀ next : Row, (if requiresValue d.column && (next.at d.name).isNull then
        .error (notNullViolation table d.name)
      else completedRow table next columns) = .ok full →
      (requiresValue d.column = true → (next.at d.name).isNull = false) ∧
        completedRow table next columns = .ok full := by
    intro next h
    split at h
    · cases h
    · rename_i fits
      refine ⟨fun required => ?_, h⟩
      rw [required, Bool.true_and] at fits
      exact Bool.eq_false_iff.mpr fits
  rw [completedRow] at h
  split at h
  · rename_i has
    exact ⟨row, .inl ⟨has, rfl⟩, rest row h⟩
  · rename_i lacks
    rw [TextMap.contains, Option.not_isSome_iff_eq_none] at lacks
    obtain ⟨next, filled, h⟩ := bind_eq_ok.mp h
    obtain ⟨w, default, rfl⟩ := map_eq_ok.mp filled
    exact ⟨_, .inr ⟨lacks, w, default, rfl⟩, rest _ h⟩

/-- A column of the completed row holds what it held, or its default if it held nothing. -/
theorem completedRow_get? (h : completedRow table row columns = .ok full) (name : String) :
    full.get? name = row.get? name ∨
      (row.get? name = none ∧ ∃ d ∈ columns, d.name = name ∧
        ∃ w, storedDefault name d.column = .ok w ∧ full.get? name = some w) := by
  induction columns generalizing row with
  | nil =>
    cases h
    exact .inl rfl
  | cons d rest ih =>
    obtain ⟨next, ⟨_, rfl⟩ | ⟨lacks, w, default, rfl⟩, _, h⟩ := completedRow_cons_eq_ok h
    · rcases ih h with kept | ⟨unset, e, he, later⟩
      · exact .inl kept
      · exact .inr ⟨unset, e, List.mem_cons_of_mem d he, later⟩
    · by_cases same : d.name = name
      · subst same
        rcases ih h with kept | ⟨unset, _⟩
        · rw [TextMap.get?_insert_self] at kept
          exact .inr ⟨lacks, d, List.mem_cons_self, rfl, w, default, kept⟩
        · rw [TextMap.get?_insert_self] at unset
          cases unset
      · rcases ih h with kept | ⟨unset, e, he, later⟩
        · rw [TextMap.get?_insert_of_ne same] at kept
          exact .inl kept
        · rw [TextMap.get?_insert_of_ne same] at unset
          exact .inr ⟨unset, e, List.mem_cons_of_mem d he, later⟩

/-- What a row holds stays when it is completed. -/
theorem completedRow_get?_of_contains (h : completedRow table row columns = .ok full)
    {name : String} (has : row.contains name = true) : full.get? name = row.get? name := by
  rcases completedRow_get? h name with kept | ⟨unset, _⟩
  · exact kept
  · rw [TextMap.contains, unset] at has
    cases has

theorem completedRow_at (h : completedRow table row columns = .ok full) {name : String}
    {v : Value} (holds : row.get? name = some v) : full.at name = v := by
  have kept := completedRow_get?_of_contains h (by rw [TextMap.contains, holds]; rfl)
  rw [Row.at, kept, holds]
  rfl

/-- A completed row has every column, and a value in every column that requires one. -/
theorem completedRow_filled (h : completedRow table row columns = .ok full) :
    ∀ d ∈ columns, full.contains d.name = true ∧
      (requiresValue d.column = true → (full.at d.name).isNull = false) := by
  induction columns generalizing row with
  | nil => simp
  | cons d rest ih =>
    obtain ⟨next, made, fits, later⟩ := completedRow_cons_eq_ok h
    intro e he
    rcases List.mem_cons.mp he with rfl | he
    · have has : next.contains e.name = true := by
        rcases made with ⟨has, rfl⟩ | ⟨_, w, _, rfl⟩
        · exact has
        · exact (TextMap.contains_insert _ _ _ _).mpr (.inl rfl)
      have kept := completedRow_get?_of_contains later has
      refine ⟨by rw [TextMap.contains, kept]; exact has, fun required => ?_⟩
      rw [Row.at, kept]
      exact fits required
    · exact ih later e he

/-! ## Changed rows -/

/-- An update changes the columns that are assigned, each to a value stored for it. -/
theorem Table.changes_eq_ok {t : Table} {params : List Value}
    {assignments : List (String × Operand)} {changes : List (String × Value)}
    (h : t.changes table params assignments = .ok changes) :
    changes.map (·.1) = assignments.map (·.1) ∧
      ∀ b ∈ changes, ∃ c v, t.column? b.1 = some c ∧ storedValue table b.1 c v = .ok b.2 := by
  induction assignments generalizing changes with
  | nil =>
    cases h
    simp
  | cons assignment rest ih =>
    obtain ⟨name, operand⟩ := assignment
    obtain ⟨c, known, h⟩ := bind_eq_ok.mp h
    obtain ⟨v, _, h⟩ := bind_eq_ok.mp h
    obtain ⟨w, stored, h⟩ := bind_eq_ok.mp h
    obtain ⟨ws, others, h⟩ := bind_eq_ok.mp h
    cases h
    obtain ⟨names, values⟩ := ih others
    refine ⟨by rw [List.map_cons, List.map_cons, names], fun b hb => ?_⟩
    rcases List.mem_cons.mp hb with rfl | hb
    · exact ⟨c, v, requireColumn_eq_ok.mp known, stored⟩
    · exact values b hb

/-- A column of a changed row holds what it held, or what was assigned to it. -/
theorem changedRow_get? (changes : List (String × Value)) (row : Row) (name : String) :
    (changedRow changes row).get? name = row.get? name ∨
      ∃ b ∈ changes, b.1 = name ∧ (changedRow changes row).get? name = some b.2 := by
  induction changes generalizing row with
  | nil => exact .inl rfl
  | cons b rest ih =>
    rcases ih (row.insert b.1 b.2) with kept | ⟨e, he, set⟩
    · by_cases same : b.1 = name
      · refine .inr ⟨b, List.mem_cons_self, same, kept.trans ?_⟩
        rw [← same, TextMap.get?_insert_self]
      · rw [TextMap.get?_insert_of_ne same] at kept
        exact .inl kept
    · exact .inr ⟨e, List.mem_cons_of_mem b he, set⟩

/-- A column that is assigned at most once holds what the first assignment to it says. -/
theorem changedRow_get?_of_count {changes : List (String × Value)} (row : Row) {name : String}
    (once : (changes.map (·.1)).count name ≤ 1) :
    (changedRow changes row).get? name =
      ((changes.find? (·.1 = name)).map (·.2)).or (row.get? name) := by
  induction changes generalizing row with
  | nil => rfl
  | cons b rest ih =>
    by_cases same : b.1 = name
    · subst same
      rw [List.map_cons, List.count_cons_self] at once
      have later : b.1 ∉ rest.map (·.1) := List.count_eq_zero.mp (by omega)
      rw [List.find?_cons_of_pos (by simp), Option.map_some, Option.some_or]
      rcases changedRow_get? rest (row.insert b.1 b.2) b.1 with kept | ⟨e, he, named, _⟩
      · exact kept.trans (TextMap.get?_insert_self ..)
      · exact absurd (named ▸ List.mem_map_of_mem he) later
    · rw [List.map_cons, List.count_cons_of_ne same] at once
      have held := ih (row.insert b.1 b.2) once
      rw [TextMap.get?_insert_of_ne same] at held
      rw [List.find?_cons_of_neg (by simpa using same)]
      exact held

/-- The rows of a changed table are rows that were there, changed or not. -/
theorem Table.mem_changed {t : Table} {rows : List (Row × Bool)}
    {changes : List (String × Value)} (stored : rows.map (·.1) = t.rows)
    (h : row ∈ (t.changed rows changes).rows) :
    row ∈ t.rows ∨ ∃ old ∈ t.rows, row = changedRow changes old := by
  obtain ⟨r, hr, rfl⟩ := List.mem_map.mp h
  have old : r.1 ∈ t.rows := stored ▸ List.mem_map_of_mem hr
  split
  · exact .inr ⟨r.1, old, rfl⟩
  · exact .inl old

/-- The rows of a table without some are rows of the table. -/
theorem Table.mem_without {t : Table} {rows : List (Row × Bool)}
    (stored : rows.map (·.1) = t.rows) (h : row ∈ (t.without rows).rows) : row ∈ t.rows := by
  obtain ⟨r, hr, rfl⟩ := List.mem_map.mp h
  exact stored ▸ List.mem_map_of_mem (List.mem_filter.mp hr).1

/-- A numbered row is a row with a number up to the number of rows. -/
theorem mem_numbered {name : String} {n : Nat} {rows : List Row}
    (h : row ∈ numbered name n rows) :
    ∃ old ∈ rows, ∃ k, k ≤ n + rows.length ∧
      row = old.insert name (.int (Int64.ofNat k)) := by
  induction rows generalizing n with
  | nil => cases h
  | cons old rest ih =>
    rw [numbered] at h
    rw [List.length_cons]
    rcases List.mem_cons.mp h with rfl | h
    · exact ⟨old, List.mem_cons_self, n + 1, by omega, rfl⟩
    · obtain ⟨older, ho, k, bound, rfl⟩ := ih h
      exact ⟨older, List.mem_cons_of_mem old ho, k, by omega, rfl⟩

theorem length_numbered (name : String) (n : Nat) (rows : List Row) :
    (numbered name n rows).length = rows.length := by
  induction rows generalizing n with
  | nil => rfl
  | cons row rest ih => rw [numbered, List.length_cons, List.length_cons, ih]

end Relational

end Polystore
