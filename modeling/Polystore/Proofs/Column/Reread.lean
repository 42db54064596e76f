import Polystore.Column.Codec
import Polystore.Proofs.Condition.GivenBack
import Polystore.Proofs.Json.Members

/-!
# Values, rows and columns that come back

What was read from a document can be written and read again. A value that was read holds no instant,
since a text stays a text, so it comes back from its document; with its values a row comes back, and
with its default a column, whatever form the column was read from.
-/

namespace Polystore

open Members

/-! ## Values -/

namespace Value

/-- The value is what its document is read as. -/
def Returns (v : Value) : Prop := ofJson v.encode = v

mutual

/-- What was read holds no instant, so no mark of a zone is written. -/
theorem toJsonWith_ofJson (zone : Calendar.Instant.Zone) (j : Json) :
    (ofJson j).toJsonWith zone = (ofJson j).toJson := by
  cases j with
  | int n =>
    rw [ofJson]
    cases n.toInt64? <;> rfl
  | array items =>
    rw [ofJson, toJson, toJsonWith, toJsonWith, toJsonItems_ofJsonItems zone items]
  | _ => rfl

theorem toJsonItems_ofJsonItems (zone : Calendar.Instant.Zone) (items : List Json) :
    toJsonItems zone (ofJsonItems items) = toJsonItems .offset (ofJsonItems items) := by
  cases items with
  | nil => rfl
  | cons j rest =>
    rw [ofJsonItems, toJsonItems, toJsonItems, toJsonWith_ofJson zone j,
      toJsonItems_ofJsonItems zone rest]
    rfl

end

/-- Whatever was read from a document with a text comes back, also the float that stands in for a
whole number beyond the signed range. -/
theorem returns_ofJson {j : Json} (text : j.IsText) : (ofJson j).Returns := by
  rw [Returns, encode, toJsonWith_ofJson]
  exact (givenBack text).value

/-- Only `null` is read as `null`. -/
theorem ofJson_ne_null {j : Json} (h : j ≠ .null) : ofJson j ≠ .null := by
  cases j with
  | null => exact absurd rfl h
  | int n =>
    rw [ofJson]
    split <;> exact Value.noConfusion
  | _ => exact Value.noConfusion

/-- A value that comes back is not written as `null`, unless it is. -/
theorem Returns.encode_ne_null {v : Value} (back : v.Returns) (h : v ≠ .null) :
    v.encode ≠ .null := by
  intro null
  rw [Returns, null] at back
  exact h back.symm

end Value

/-! ## Rows -/

namespace Row

/-- Every value of the row comes back. -/
def Returns (row : Row) : Prop := row.Each fun _ v => v.Returns

theorem returns_of_decode? {j : Json} {row : Row} (text : j.IsText)
    (read : decode? j = some row) : row.Returns := by
  obtain ⟨fields, object, rfl⟩ := Option.map_eq_some_iff.mp read
  cases j with
  | object fields =>
    cases object
    refine TextMap.each_ofList fun b mem => ?_
    obtain ⟨f, there, rfl⟩ := List.mem_map.mp mem
    exact Value.returns_ofJson ((Json.isText_object_iff.mp text).2 f there)
  | _ => cases object

theorem decode?_encode {row : Row} (back : row.Returns) : decode? row.encode = some row := by
  have same : (row.entries.map fun b => (b.1, b.2.encode)).map
      (fun f => (f.1, Value.ofJson f.2)) = row.entries := by
    rw [List.map_map]
    refine (List.map_congr_left fun b there => ?_).trans (List.map_id _)
    exact Prod.ext rfl (TextMap.each_iff.mp back b there)
  show some (TextMap.ofList _) = _
  rw [same, TextMap.ofList_entries]

end Row

/-! ## Columns -/

namespace Column

/-- The default comes back, if there is one, and is not `null`. -/
def Returns (c : Column) : Prop := ∀ v, c.default = some v → v ≠ .null ∧ v.Returns

/-- A default of `null` is read as none. -/
theorem yields_default :
    Yields (Members.optional "default" fun j => some (Value.ofJson j)) fun default =>
      ∀ v, default = some v → v ≠ .null ∧ v.Returns := by
  refine yields_optional fun j v text notNull made => ?_
  cases made
  exact ⟨Value.ofJson_ne_null notNull, Value.returns_ofJson text⟩

theorem yields_reader (manner : Manner) : Yields (reader manner) Returns := by
  refine yields_bind yields_required_any fun type _ => ?_
  refine yields_bind yields_defaulted_any fun length _ => ?_
  refine yields_bind yields_defaulted_any fun nullable _ => ?_
  refine yields_bind yields_defaulted_any fun primary _ => ?_
  refine yields_bind yields_defaulted_any fun unique _ => ?_
  refine yields_bind yields_default fun default back => ?_
  refine yields_bind yields_defaulted_any fun autoIncrement _ => ?_
  exact yields_pure back

/-- Length and default are fields that may be left out. -/
theorem encodeFields_eq (c : Column) :
    c.encodeFields =
      [("type", .text c.type.name)] ++
        optionalField "length" (c.length.map fun n => .ofNat64 n.toUInt64) ++
        [("nullable", .bool c.nullable), ("primary", .bool c.primary),
          ("unique", .bool c.unique)] ++
        optionalField "default" (c.default.map Value.encode) ++
        [("auto_increment", .bool c.autoIncrement)] := by
  obtain ⟨type, length, nullable, primary, unique, default, autoIncrement⟩ := c
  cases length <;> cases default <;> rfl

/-- A column is found among its fields, whatever else stands beside them. -/
theorem finds_reader {c : Column} {manner : Manner} {fields : List (String × Json)}
    (same : ∀ key, key ≠ "name" → Json.field? key fields = Json.field? key c.encodeFields)
    (back : c.Returns) : Finds (reader manner) fields c := by
  rw [encodeFields_eq] at same
  -- reading takes no field away, so every member is looked up among all of them
  have type : Json.field? "type" fields = some (.text c.type.name) := by simp [same]
  have length : Json.field? "length" fields = c.length.map fun n => .ofNat64 n.toUInt64 := by
    simp [same]
  have nullable : Json.field? "nullable" fields = some (.bool c.nullable) := by simp [same]
  have primary : Json.field? "primary" fields = some (.bool c.primary) := by simp [same]
  have unique : Json.field? "unique" fields = some (.bool c.unique) := by simp [same]
  have default : Json.field? "default" fields = c.default.map Value.encode := by simp [same]
  have counts : Json.field? "auto_increment" fields = some (.bool c.autoIncrement) := by
    simp [same]
  refine finds_bind (finds_required type c.type.ofName?_name) ?_
  refine finds_bind (finds_optional length fun n _ => ?_) ?_
  · exact ⟨Json.noConfusion, Json.asUInt32?_ofNat64 n⟩
  refine finds_bind (finds_defaulted nullable rfl) ?_
  refine finds_bind (finds_defaulted primary rfl) ?_
  refine finds_bind (finds_defaulted unique rfl) ?_
  refine finds_bind (finds_optional default fun v there => ?_) ?_
  · obtain ⟨notNull, back⟩ := back v there
    exact ⟨back.encode_ne_null notNull, congrArg some back⟩
  refine finds_bind (finds_defaulted counts rfl) ?_
  exact finds_pure

theorem decode?_encode {c : Column} (manner : Manner) (back : c.Returns) :
    decode? manner c.encode = some c :=
  (finds_reader (fun _ _ => rfl) back).record?

theorem returns_of_decode? {manner : Manner} {j : Json} {c : Column} (text : j.IsText)
    (read : decode? manner j = some c) : c.Returns :=
  (yields_reader manner).record? text read

end Column

namespace ColumnDef

theorem decode?_encode {d : ColumnDef} (back : d.column.Returns) :
    decode? d.encode = some d := by
  have column : readAll (Column.reader .lenient) (.named (("name", .text d.name) ::
      d.column.encodeFields)) = some d.column := by
    refine (Column.finds_reader (fun key apart => ?_) back).readAll
    rw [Json.field?, if_neg (Ne.symm apart)]
  rw [encode, decode?, column]
  rfl

theorem returns_of_decode? {j : Json} {d : ColumnDef} (text : j.IsText)
    (read : decode? j = some d) : d.column.Returns := by
  cases j with
  | object fields =>
    obtain ⟨name, _, read⟩ := Option.bind_eq_some_iff.mp read
    obtain ⟨column, members, same⟩ := Option.bind_eq_some_iff.mp read
    cases same
    have texts : AreTexts (.named fields) := (Json.isText_object_iff.mp text).2
    exact (Column.yields_reader .lenient).readAll texts members
  | _ => cases read

end ColumnDef

namespace Schema

/-- The defaults of all columns come back. -/
def Returns (schema : Schema) : Prop := ∀ d ∈ schema, d.column.Returns

theorem decode?_encode {schema : Schema} (back : schema.Returns) :
    decode? schema.encode = some schema :=
  Json.asListOf?_map fun d there => ColumnDef.decode?_encode (back d there)

theorem returns_of_decode? {j : Json} {schema : Schema} (text : j.IsText)
    (read : decode? j = some schema) : schema.Returns := by
  intro d there
  obtain ⟨i, item, made⟩ := Json.exists_of_asListOf? text read d there
  exact ColumnDef.returns_of_decode? item made

end Schema

end Polystore
