import Mathlib
import Polystore.Proofs.Column.Settled
import Polystore.Proofs.Relational.Typed
import Polystore.Proofs.Relational.Undone

/-!
# A column modified

Another definition of a column has its values stored anew. If the definition differs in the type
alone, and keys do not tell the values from what they become, nothing can go wrong: what was
distinct is distinct, what was there is there, and every index finds the rows where it found them.
That is so when the definition is the one that the column has, unless the column holds texts that it
reads once more.
-/

namespace Polystore

/-! ## A column in a schema -/

namespace Schema

variable {schema : Schema} {d : ColumnDef} {c : Column}

/-- What a new definition of a column has in common with the old one is common to the schemas. -/
theorem map_withColumn {β : Type} {g : ColumnDef → β} (distinct : (schema.map (·.name)).Nodup)
    (there : d ∈ schema) (same : g ⟨d.name, c⟩ = g d) :
    (schema.withColumn d.name c).map g = schema.map g := by
  induction schema with
  | nil => cases there
  | cons e rest ih =>
    rw [withColumn]
    split
    · rename_i named
      obtain rfl := eq_of_name distinct List.mem_cons_self there named
      rw [List.map_cons, List.map_cons, same]
    · rename_i other
      have behind : d ∈ rest := (List.mem_cons.mp there).resolve_left fun e => other (e ▸ rfl)
      rw [List.map_cons, List.map_cons, ih (List.nodup_cons.mp distinct).2 behind]

theorem withColumn_self (distinct : (schema.map (·.name)).Nodup) (there : d ∈ schema) :
    schema.withColumn d.name d.column = schema := by
  have same := map_withColumn (g := id) (c := d.column) distinct there rfl
  rwa [List.map_id, List.map_id] at same

/-- Of two definitions of a column the later one counts. -/
theorem withColumn_withColumn (schema : Schema) (name : String) (first second : Column) :
    (schema.withColumn name first).withColumn name second = schema.withColumn name second := by
  induction schema with
  | nil => simp [withColumn]
  | cons e rest ih =>
    by_cases named : e.name = name
    · simp [withColumn, named]
    · simp [withColumn, named, ih]

end Schema

/-! ## Values that keys do not tell apart -/

namespace ColumnType

/-- The value as a column of the type stores it, and `null` for one that it does not store. -/
def recast (type : ColumnType) (v : Value) : Value := (type.convert v).getD .null

/-- A column of the type stores the value as one that keys do not tell from it. -/
structure Keeps (type : ColumnType) (v : Value) : Prop where
  stored : type.convert v = some (type.recast v)
  keyText : (type.recast v).keyText = v.keyText
  isNull : (type.recast v).isNull = v.isNull

theorem recast_of_convert {type : ColumnType} {v w : Value} (h : type.convert v = some w) :
    type.recast v = w := by
  rw [recast, h, Option.getD_some]

theorem Keeps.of_convert {type : ColumnType} {v w : Value} (h : type.convert v = some w)
    (keyText : w.keyText = v.keyText) (isNull : w.isNull = v.isNull) : type.Keeps v := by
  have same := recast_of_convert h
  exact ⟨same ▸ h, same ▸ keyText, same ▸ isNull⟩

end ColumnType

namespace Row

variable {row : Row} {name : String} {w : Value}

/-- A value that keys do not tell from the one in its place leaves the keys of a row. -/
theorem key_insert (same : w.keyText = (row.at name).keyText) (columns : List String) :
    Row.key columns (row.insert name w) = row.key columns := by
  refine key_congr fun c _ => ?_
  by_cases named : name = c
  · subst named
    rw [at_insert_self, same]
  · rw [at_insert_of_ne named]

theorem isBlankIn_insert (same : w.isNull = (row.at name).isNull) (columns : List String) :
    Row.isBlankIn columns (row.insert name w) = row.isBlankIn columns := by
  refine isBlankIn_congr fun c _ => ?_
  by_cases named : name = c
  · subst named
    rw [at_insert_self, same]
  · rw [at_insert_of_ne named]

end Row

namespace Relational

open Outcome

/-- A value that a column stores goes into it when the type alone is another one. -/
theorem storedValue_of_keeps {c : Column} {type : ColumnType} {v : Value} (table name : String)
    (takes : c.Takes v) (keeps : type.Keeps v) :
    storedValue table name { c with type } v = .ok (type.recast v) := by
  have fits : (requiresValue { c with type } && (type.recast v).isNull) = false := by
    rw [Bool.and_eq_false_imp, keeps.isNull]
    exact fun required => isNull_eq_false.mpr (takes (requiresValue_iff.mp required))
  rw [storedValue, ColumnType.coerce_eq_ok.mpr keeps.stored, ok_bind, fits,
    if_neg Bool.false_ne_true]

namespace Table

variable {t : Table} {config : Config} {table : String} {d : ColumnDef} {type : ColumnType}

/-! ## Tables with a column of another type -/

/-- The table with a column of another type, its values stored anew. -/
def retyped (t : Table) (d : ColumnDef) (type : ColumnType) : Table :=
  { t with
    columns := Schema.withColumn t.columns d.name { d.column with type }
    rows := t.rows.map fun row => row.insert d.name (type.recast (row.at d.name)) }

/-- A column of the type stores what a column of the table holds. -/
def KeptAs (t : Table) (d : ColumnDef) (type : ColumnType) : Prop :=
  ∀ row ∈ t.rows, type.Keeps (row.at d.name)

/-- Nothing that is demanded of columns is demanded of their types. -/
theorem map_columns_retyped {β : Type} {g : ColumnDef → β} (type : ColumnType)
    (wellFormed : t.WellFormed) (there : d ∈ t.columns)
    (same : g ⟨d.name, { d.column with type }⟩ = g d) :
    (t.retyped d type).columns.map g = t.columns.map g :=
  Schema.map_withColumn wellFormed.distinct there same

theorem checkColumns_retyped (wellFormed : t.WellFormed) (there : d ∈ t.columns) :
    checkColumns table (t.retyped d type).columns = .ok () := by
  have names : (t.retyped d type).columns.map (·.name) = t.columns.map (·.name) :=
    map_columns_retyped type wellFormed there rfl
  have counting : ((t.retyped d type).columns.filter (·.column.autoIncrement)).length =
      (t.columns.filter (·.column.autoIncrement)).length := by
    have marks := map_columns_retyped (g := (·.column.autoIncrement)) type wellFormed there rfl
    have counted := congrArg (fun flags => (flags.filter id).length) marks
    simpa only [List.filter_map, List.length_map, Function.comp_def, id_eq] using counted
  rw [checkColumns, counting, if_neg (Nat.not_lt.mpr wellFormed.counting),
    repeatedColumn_eq_none.mpr ⟨names ▸ wellFormed.distinct, fun _ _ => List.not_mem_nil⟩]

theorem uniqueSets_retyped (wellFormed : t.WellFormed) (there : d ∈ t.columns) :
    (t.retyped d type).uniqueSets = t.uniqueSets := by
  have demands := map_columns_retyped
    (g := fun d => (d.name, d.column.primary || d.column.unique)) type wellFormed there rfl
  have sets := congrArg (fun demands => (demands.filter (·.2)).map fun b => (b.1, [b.1])) demands
  simp only [List.filter_map, List.map_map, Function.comp_def] at sets
  rw [uniqueSets, uniqueSets, sets]
  rfl

theorem distinct_retyped (wellFormed : t.WellFormed) (there : d ∈ t.columns)
    (kept : t.KeptAs d type) (distinct : t.Distinct) : (t.retyped d type).Distinct := by
  intro set hset
  rw [uniqueSets_retyped wellFormed there] at hset
  exact (distinct set hset).map (fun row hr => Row.key_insert (kept row hr).keyText _)
    fun row hr => Row.isBlankIn_insert (kept row hr).isNull _

/-- **A column takes another type when keys do not tell its values from what they become.** -/
theorem altered_retyped (table : String) (wellFormed : t.WellFormed) (there : d ∈ t.columns)
    (kept : t.KeptAs d type) (distinct : config.enforceUnique = true → t.Distinct)
    (last : Int64) :
    t.altered config table last [.modify d.name { d.column with type }] =
      .ok ⟨(t.retyped d type).reindexed, (t.start last).counter⟩ := by
  have known : t.requireColumn d.name = .ok d.column :=
    requireColumn_eq_ok.mpr (Schema.column?_of_mem wellFormed.distinct there)
  have stored : t.rows.mapM (fun row => (storedValue table d.name { d.column with type }
      (row.at d.name)).map (row.insert d.name)) = .ok (t.retyped d type).rows := by
    refine mapM_eq_ok fun row hr => ?_
    rw [storedValue_of_keeps table d.name ((wellFormed.fits row hr).values d there) (kept row hr)]
    rfl
  have made : (t.start last).modifyColumn table d.name { d.column with type } =
      .ok ⟨t.retyped d type, (t.start last).counter⟩ := by
    show (t.requireColumn d.name >>= fun _ => _) = _
    rw [known, ok_bind]
    show (t.rows.mapM _ >>= fun rows => _) = _
    rw [stored]
    rfl
  have passes : (t.retyped d type).checked config = .ok (t.retyped d type).reindexed :=
    checked_eq fun enforced =>
      distinct_iff.mp (distinct_retyped wellFormed there kept (distinct enforced))
  rw [altered_eq, foldlM_apply_single]
  show ((t.start last).modifyColumn table d.name _ >>= _) = _
  rw [made, ok_bind]
  dsimp only
  rw [checkColumns_retyped wellFormed there, ok_bind, passes]
  rfl

/-- The table whose column has another type is one that is known, when its columns and rows are and
its indexes are over the same columns. -/
theorem reindexed_retyped {u : Table} {e : ColumnDef} (named : u.name = t.name)
    (columns : (u.retyped e type).columns = t.columns) (rows : (u.retyped e type).rows = t.rows)
    (indexes : u.indexes.map (·.rebuilt t.rows) = t.indexes) :
    (u.retyped e type).reindexed = t := by
  show Table.mk u.name (u.retyped e type).columns (u.retyped e type).rows
    (u.indexes.map (·.rebuilt (u.retyped e type).rows)) = t
  rw [rows, columns, indexes, named]

/-- A value that is put where it is leaves the rows. -/
theorem map_insert_eq {f : Row → Value} (wellFormed : t.WellFormed) (there : d ∈ t.columns)
    (same : ∀ row ∈ t.rows, f row = row.at d.name) :
    (t.rows.map fun row => row.insert d.name (f row)) = t.rows := by
  refine (List.map_congr_left fun row hr => ?_).trans (List.map_id t.rows)
  rw [same row hr]
  exact TextMap.insert_of_get? ((wellFormed.fits row hr).get?_eq there)

/-- A column of its own type leaves the table, if the column stores what it holds as itself. -/
theorem retyped_self (wellFormed : t.WellFormed) (indexed : t.Indexed) (there : d ∈ t.columns)
    (settled : ∀ row ∈ t.rows,
      d.column.type.convert (row.at d.name) = some (row.at d.name)) :
    (t.retyped d d.column.type).reindexed = t :=
  reindexed_retyped rfl (Schema.withColumn_self wellFormed.distinct there)
    (map_insert_eq wellFormed there fun row hr =>
      ColumnType.recast_of_convert (settled row hr))
    indexed.reindexed_eq

/-- A column of another type that gets its own type back leaves the table, if its values come back
as well. -/
theorem retyped_back (wellFormed : t.WellFormed) (indexed : t.Indexed) (there : d ∈ t.columns)
    (back : ∀ row ∈ t.rows,
      d.column.type.recast (type.recast (row.at d.name)) = row.at d.name) :
    (((t.retyped d type).reindexed.retyped ⟨d.name, { d.column with type }⟩
      d.column.type)).reindexed = t := by
  refine reindexed_retyped rfl ?_ ?_ ?_
  · exact (Schema.withColumn_withColumn ..).trans
      (Schema.withColumn_self wellFormed.distinct there)
  · show ((t.rows.map _).map _) = t.rows
    rw [List.map_map]
    refine Eq.trans (List.map_congr_left fun row _ => ?_)
      (map_insert_eq (f := fun row => d.column.type.recast (type.recast (row.at d.name)))
        wellFormed there back)
    show TextMap.insert (row.insert d.name (type.recast (row.at d.name))) d.name
      (d.column.type.recast (Row.at (row.insert d.name (type.recast (row.at d.name))) d.name)) = _
    rw [Row.at_insert_self, TextMap.insert_insert]
  · exact (map_rebuilt_rebuilt ..).trans indexed.reindexed_eq

/-! ## The same type once more -/

/-- No value of a column is read once more when it is stored once more. -/
def Settled (t : Table) (d : ColumnDef) : Prop :=
  ∀ row ∈ t.rows, d.column.type.rereads (row.at d.name) = false

/-- What a column holds it has stored, numbers in an identity of integers included. -/
theorem Typed.exists_convert (typed : t.Typed) (there : d ∈ t.columns)
    (counts : d.column.isIdentity = true → d.column.type = .integer) {row : Row}
    (hr : row ∈ t.rows) : ∃ v, d.column.type.convert v = some (row.at d.name) := by
  rcases typed.stored row hr d there with ⟨name, v, coerced⟩ | ⟨identity, n, number⟩
  · exact ⟨v, ColumnType.coerce_eq_ok.mp coerced⟩
  · exact ⟨.int n, by rw [counts identity, number]; rfl⟩

/-- What a column holds is stored once more as itself just when it is not read once more. -/
theorem convert_stored_again (typed : t.Typed) (there : d ∈ t.columns)
    (counts : d.column.isIdentity = true → d.column.type = .integer) {row : Row}
    (hr : row ∈ t.rows) :
    d.column.type.convert (row.at d.name) = some (row.at d.name) ↔
      d.column.type.rereads (row.at d.name) = false := by
  obtain ⟨v, stored⟩ := typed.exists_convert there counts hr
  obtain ⟨w', again, same⟩ := ColumnType.convert_again stored
  rw [again, Option.some.injEq, same]

/-- A definition of the same type that is accepted leaves the rows just when the column is
settled. -/
theorem rows_modified_iff {c : Column} {last : Int64} {a : Altered} (typed : t.Typed)
    (there : d ∈ t.columns) (counts : d.column.isIdentity = true → d.column.type = .integer)
    (unchanged : c.type = d.column.type)
    (made : t.altered config table last [.modify d.name c] = .ok a) :
    a.table.rows = t.rows ↔ t.Settled d := by
  obtain ⟨b, applied, _, _, rfl⟩ := altered_eq_ok made
  rw [foldlM_apply_single] at applied
  obtain ⟨_, rows, stored, rfl⟩ := Altered.modifyColumn_eq_ok applied
  refine (eq_self_iff_of_mapM stored).trans (forall₂_congr fun row hr => ?_)
  obtain ⟨next, made⟩ := exists_of_mapM stored row hr
  obtain ⟨w, storable, rfl⟩ := map_eq_ok.mp made
  have coerced := ColumnType.coerce_eq_ok.mp (storedValue_eq_ok storable).1
  rw [unchanged] at coerced
  rw [made, Except.ok.injEq, ← convert_stored_again typed there counts hr, coerced,
    Option.some.injEq]
  constructor
  · intro same
    rw [← Row.at_insert_self row d.name w, same]
  · rintro rfl
    exact TextMap.insert_of_get? ((typed.fits row hr).get?_eq there)

end Table

/-- Only commands may run under which duplicates are refused, if they are refused under a
configuration. -/
def Command.AsStrictAs (config : Config) : Store → Command → Prop :=
  fun _ c => config.enforceUnique = true → c.config.enforceUnique = true

section

variable {s : Store} {config : Config} {table : String} {t : Table} {d : ColumnDef}

/-- What holds of a table in a store that was kept as strictly as the configuration asks. -/
structure Sound (config : Config) (t : Table) : Prop where
  typed : t.Typed
  indexed : t.Indexed
  distinct : config.enforceUnique = true → t.Distinct

theorem Reachable.sound (reachable : Reachable (Command.AsStrictAs config) s)
    (found : s.tables.get? table = some t) : Sound config t where
  typed := reachable.allTables (fun _ c _ => Table.typed_kept c.config) table t found
  indexed := reachable.allTables (fun _ c _ => Table.indexed_kept c.config) table t found
  distinct := fun enforced =>
    reachable.allTables (fun _ _ strict => Table.distinct_kept (strict enforced)) table t found

/-- The counter in front of a change of columns is that of the identity. -/
theorem counter_start_of_mem (wellFormed : t.WellFormed) (there : d ∈ t.columns)
    (identity : d.column.isIdentity = true) :
    (t.start (s.lastIdentity table t)).counter = some (d.name, s.counter table d.name) :=
  Table.counter_start (wellFormed.identity?_eq there identity)

/-- The definition that a settled column has can be given to it again. -/
theorem modified_again (sound : Sound config t) (found : s.tables.get? table = some t)
    (there : d ∈ t.columns) (counts : d.column.isIdentity = true → d.column.type = .integer)
    (settled : t.Settled d) (params : List Value) :
    ∃ s', s.run config (.alterTable table [.modify d.name d.column]) params =
        (.ok Result.done, s') ∧ Restored s s' table t := by
  have wellFormed := sound.typed.toWellFormed
  have own : ∀ row ∈ t.rows, d.column.type.convert (row.at d.name) = some (row.at d.name) :=
    fun row hr => (Table.convert_stored_again sound.typed there counts hr).mpr (settled row hr)
  have kept : t.KeptAs d d.column.type := fun row hr => .of_convert (own row hr) rfl rfl
  have made := Table.altered_retyped table wellFormed there kept sound.distinct
    (s.lastIdentity table t)
  rw [Table.retyped_self wellFormed sound.indexed there own] at made
  exact restored_of_altered found made (TextMap.insert_of_get? found) (fun _ _ _ => rfl)
    (fun _ => counter_start_of_mem wellFormed) params

/-- **A stored value is stored again as it is, except for a text in which a column of documents
reads a document.** Such a column has stored a text of this kind only if it was given a text that
holds it, as a quotation in its quotation marks. The statement that modifies a column without
another type therefore leaves the rows just when the column holds no such text, and if it repeats
the definition of the column it then succeeds and leaves the whole store. -/
theorem stored_again_iff (column : String) :
    (∀ (type : ColumnType) (v w : Value), type.coerce column v = .ok w →
      ∃ w', type.coerce column w = .ok w' ∧ (w' = w ↔ type.rereads w = false) ∧
        (type.rereads w = true ↔ type = .json ∧ ∃ s u, v = .text s ∧
          Json.read? s = some (.text u) ∧ (Json.read? u).isSome = true)) ∧
    ∀ (config : Config) (s : Store) (table : String) (t : Table) (d : ColumnDef),
      Reachable (Command.AsStrictAs config) s → s.tables.get? table = some t → d ∈ t.columns →
      (d.column.isIdentity = true → d.column.type = .integer) → ∀ params : List Value,
        (∀ (c : Column) (r : Result) (s' : Store), c.type = d.column.type →
          s.run config (.alterTable table [.modify d.name c]) params = (.ok r, s') →
          ∃ t', s'.tables.get? table = some t' ∧ (t'.rows = t.rows ↔ t.Settled d)) ∧
        (t.Settled d →
          ∃ s', s.run config (.alterTable table [.modify d.name d.column]) params =
              (.ok Result.done, s') ∧ Restored s s' table t) := by
  refine ⟨fun type v w coerced => ?values,
    fun config s table t d reachable found there counts params => ⟨?unchanged, ?again⟩⟩
  case values =>
    have stored := ColumnType.coerce_eq_ok.mp coerced
    obtain ⟨w', again, same⟩ := ColumnType.convert_again stored
    exact ⟨w', ColumnType.coerce_eq_ok.mpr again, same, ColumnType.rereads_iff stored⟩
  case unchanged =>
    intro c r s' unchanged ran
    cases run_effect ran with
    | @altered _ _ u a held made =>
      obtain rfl : t = u := Option.some.inj (found.symm.trans held)
      exact ⟨a.table, TextMap.get?_insert_self ..,
        Table.rows_modified_iff (reachable.sound found).typed there counts unchanged made⟩
  case again =>
    exact fun settled =>
      modified_again (reachable.sound found) found there counts settled params

end

/-- A column of documents. -/
def noteBody : ColumnDef := ⟨"body", Column.ofType .json⟩

/-- A store with one note, whose body was given as a text. -/
def noted (s : String) : Store :=
  Store.empty.afterAll <|
    ([.createTable "notes" [noteBody] false,
      .insert "notes" ["body"] [.literal (.text s)]] : List Statement).map (⟨.standard, ·, []⟩)

/-- The table of one note. -/
def noteOf (v : Value) : Table :=
  { name := "notes", columns := [noteBody], rows := [TextMap.ofList [("body", v)]]
    indexes := TextMap.empty }

theorem reachable_standard (statements : List Statement) :
    Reachable (Command.AsStrictAs .standard)
      (Store.empty.afterAll (statements.map (⟨.standard, ·, []⟩))) := by
  refine Reachable.empty.afterAll fun c hc _ enforced => ?_
  obtain ⟨_, _, rfl⟩ := List.mem_map.mp hc
  exact enforced

theorem stored_again_iff_draft :
    (ColumnType.json.coerce "body" (.text "\"draft\"") = .ok (.text "draft") ∧
      ColumnType.json.coerce "body" (.text "draft") = .ok (.text "draft")) ∧
    (noted "\"draft\"").tables.get? "notes" = some (noteOf (.text "draft")) ∧
    Reachable (Command.AsStrictAs .standard) (noted "\"draft\"") ∧
    (noteOf (.text "draft")).Settled noteBody ∧
    ∃ s', (noted "\"draft\"").run .standard
          (.alterTable "notes" [.modify "body" noteBody.column]) [] =
        (.ok Result.done, s') ∧
      Restored (noted "\"draft\"") s' "notes" (noteOf (.text "draft")) := by
  have stored : ColumnType.json.coerce "body" (.text "\"draft\"") = .ok (.text "draft") := by cbv
  have holds : (noted "\"draft\"").tables.get? "notes" = some (noteOf (.text "draft")) := by cbv
  have settled : (noteOf (.text "draft")).Settled noteBody := by
    intro row hr
    obtain rfl := List.mem_singleton.mp hr
    cbv
  obtain ⟨w', again, same, -⟩ := (stored_again_iff "body").1 .json _ _ stored
  have reachable : Reachable (Command.AsStrictAs .standard) (noted "\"draft\"") :=
    reachable_standard _
  refine ⟨⟨stored, ?_⟩, holds, reachable, settled, ?_⟩
  · rw [again, same.mpr (by cbv)]
  · exact ((stored_again_iff "body").2 .standard _ "notes" _ noteBody reachable holds
      List.mem_cons_self (fun identity => absurd identity (by decide)) []).2 settled

/-- **A stored text is read once more**: in a reachable store a column of documents holds the text
`null`, and the statement that repeats the definition of the column leaves `null` in its place. -/
theorem stored_text_read_again :
    ColumnType.json.coerce "body" (.text "\"null\"") = .ok (.text "null") ∧
    ColumnType.json.coerce "body" (.text "null") = .ok .null ∧
    Reachable (Command.AsStrictAs .standard) (noted "\"null\"") ∧
    (noted "\"null\"").tables.get? "notes" = some (noteOf (.text "null")) ∧
    ((noted "\"null\"").run .standard
      (.alterTable "notes" [.modify "body" noteBody.column]) []).1 = .ok Result.done ∧
    ((noted "\"null\"").run .standard
      (.alterTable "notes" [.modify "body" noteBody.column]) []).2.tables.get? "notes" =
        some (noteOf .null) := by
  refine ⟨?_, ?_, reachable_standard _, ?_, ?_, ?_⟩ <;> cbv

end Relational

end Polystore
