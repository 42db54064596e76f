import Polystore.Proofs.Column.Reread

/-!
# Queries that come back

A query can be written in several ways: under names or as a list, its parts present or left out, the
tag of a kind as a name or, further inside, as a number. It is written back in one way only. What is
written is read as the same query again, when the rows, defaults and conditions in it come back; and
those of a query that was read do.
-/

namespace Polystore

open Members

/-! ## Sort keys -/

namespace Direction

@[simp] theorem ofName?_name (d : Direction) : ofName? d.name = some d := by
  cases d <;> rfl

end Direction

theorem SortKey.decode?_encode (manner : Manner) (k : SortKey) :
    decode? manner k.encode = some k := by
  refine Finds.record? (finds_bind (finds_required rfl rfl) ?_)
  exact finds_bind (finds_defaulted rfl k.direction.ofName?_name) finds_pure

/-! ## Changes of columns -/

namespace Alteration

/-- The definition of a column in the change comes back. -/
def Returns : Alteration → Prop
  | .add _ column => column.Returns
  | .drop _ => True
  | .modify _ column => column.Returns

theorem yields_reader (kind : String) : Yields (reader kind) Returns := by
  refine yields_bind yields_required_any fun name _ => ?_
  have column : Yields (required "column" (Column.decode? .lenient)) Column.Returns :=
    yields_required fun j c text read => Column.returns_of_decode? text read
  split_ifs
  · exact yields_bind column fun c back => yields_pure back
  · exact yields_pure trivial
  · exact yields_bind column fun c back => yields_pure back
  · exact yields_failure

/-- The tag settles the kind, and with it what is found behind. -/
theorem decode?_of_finds {manner : Manner} {kind : String} {fields : List (String × Json)}
    {a : Alteration} (h : Finds (reader kind) (("action", .text kind) :: fields) a) :
    decode? manner (.object (("action", .text kind) :: fields)) = some a :=
  h.readAll

theorem decode?_encode {a : Alteration} (manner : Manner) (back : a.Returns) :
    decode? manner a.encode = some a := by
  cases a with
  | add name column =>
    refine decode?_of_finds (finds_bind (finds_required rfl rfl) ?_)
    exact finds_bind (finds_required rfl (Column.decode?_encode .lenient back)) finds_pure
  | drop name => exact decode?_of_finds (finds_bind (finds_required rfl rfl) finds_pure)
  | modify name column =>
    refine decode?_of_finds (finds_bind (finds_required rfl rfl) ?_)
    exact finds_bind (finds_required rfl (Column.decode?_encode .lenient back)) finds_pure

theorem returns_of_decode? {manner : Manner} {j : Json} {a : Alteration} (text : j.IsText)
    (read : decode? manner j = some a) : a.Returns := by
  obtain ⟨⟨kind, members⟩, tagged, read⟩ := Option.bind_eq_some_iff.mp read
  exact (yields_reader kind).readAll (areTexts_of_tagged? text tagged) read

end Alteration

/-! ## Conditions -/

namespace Condition

/-- The condition is what its document is read as. -/
def Returns (c : Condition) : Prop := decode? c.toJson = some c

theorem ofJson_of_decode? {j : Json} {c : Condition} (read : decode? j = some c) :
    ofJson j = .ok c := by
  rw [decode?] at read
  cases made : ofJson j with
  | error e => simp [made, Except.toOption] at read
  | ok d => simpa [made, Except.toOption] using read

theorem returns_of_decode? {j : Json} {c : Condition} (text : j.IsText)
    (read : decode? j = some c) : c.Returns := by
  have made := ofJson_of_decode? read
  cases j with
  | object fields =>
    rw [ofJson] at made
    have inner := givenBack_clauses (Json.all_object text) made
    -- the clauses stand under the names of the fields, so none of them replaces another
    have single : c.IsSingle :=
      List.forall_mem_cons.mpr ⟨inner.keysApart text, inner.apart⟩
    rw [Returns, decode?, ofJson_toJson inner.tests, (collapse_eq_self_iff c).mpr single]
    rfl
  | _ => cases made

/-- The condition comes back, if there is one. -/
def EachReturns (conditions : Option Condition) : Prop := ∀ c, conditions = some c → c.Returns

theorem yields_optional : Yields (Members.optional "conditions" decode?) EachReturns :=
  Members.yields_optional fun _ _ text _ read => returns_of_decode? text read

theorem finds_optional {fields : List (String × Json)} {conditions : Option Condition}
    (there : Json.field? "conditions" fields = conditions.map toJson)
    (back : EachReturns conditions) :
    Finds (Members.optional "conditions" decode?) fields conditions :=
  Members.finds_optional there fun c some => ⟨Json.noConfusion, back c some⟩

end Condition

/-! ## Selections -/

namespace Selection

/-- The condition comes back, if there is one. -/
def Returns (s : Selection) : Prop := Condition.EachReturns s.conditions

theorem yields_reader (manner : Manner) : Yields (reader manner) Returns := by
  refine yields_bind yields_required_any fun table _ => ?_
  refine yields_bind Condition.yields_optional fun conditions back => ?_
  refine yields_bind yields_defaulted_any fun fields _ => ?_
  refine yields_bind yields_defaulted_any fun orderings _ => ?_
  refine yields_bind yields_defaulted_any fun groupings _ => ?_
  refine yields_bind yields_defaulted_any fun limit _ => ?_
  refine yields_bind yields_defaulted_any fun offset _ => ?_
  exact yields_pure back

theorem finds_reader {s : Selection} {manner : Manner} {fields : List (String × Json)}
    (same : ∀ key, key ≠ "type" → Json.field? key fields = Json.field? key s.encodeFields)
    (back : s.Returns) : Finds (reader manner) fields s := by
  rw [encodeFields] at same
  have table : Json.field? "table_name" fields = some (.text s.table) := by simp [same]
  have conditions : Json.field? "conditions" fields = s.conditions.map Condition.toJson := by
    simp [same]
  have shown : Json.field? "fields" fields = s.fields.map Json.ofTexts := by simp [same]
  have orderings : Json.field? "orderings" fields =
      if s.orderings.map SortKey.encode ≠ [] then some (.array (s.orderings.map SortKey.encode))
      else none := by simp [same]
  have groupings : Json.field? "groupings" fields =
      if s.groupings.map Json.text ≠ [] then some (.array (s.groupings.map Json.text))
      else none := by simp [same]
  have limit : Json.field? "limit_count" fields = s.limit.map Json.ofUInt64 := by simp [same]
  have offset : Json.field? "offset_count" fields = s.offset.map Json.ofUInt64 := by simp [same]
  refine finds_bind (finds_required table rfl) ?_
  refine finds_bind (Condition.finds_optional conditions back) ?_
  refine finds_bind (finds_optional shown fun texts _ => ?_) ?_
  · exact ⟨Json.noConfusion, Json.asListOf?_ofTexts texts⟩
  refine finds_bind (finds_list orderings fun k _ => k.decode?_encode manner) ?_
  refine finds_bind (finds_list groupings fun _ _ => rfl) ?_
  refine finds_bind (finds_optional limit fun n _ => ?_) ?_
  · exact ⟨Json.noConfusion, Json.asUInt64?_ofNat64 n⟩
  refine finds_bind (finds_optional offset fun n _ => ?_) ?_
  · exact ⟨Json.noConfusion, Json.asUInt64?_ofNat64 n⟩
  exact finds_pure

end Selection

/-! ## Queries -/

namespace Query

/-- The columns, rows, conditions and changes in the query come back. -/
def Returns : Query → Prop
  | .create _ schema => schema.Returns
  | .select selection => selection.Returns
  | .insert _ data => data.Returns
  | .update _ changes conditions => changes.Returns ∧ Condition.EachReturns conditions
  | .delete _ conditions => Condition.EachReturns conditions
  | .alter _ alterations => ∀ a ∈ alterations, a.Returns
  | _ => True

theorem yields_reader (kind : String) : Yields (reader kind) Returns := by
  have row (key : String) : Yields (required key Row.decode?) Row.Returns :=
    yields_required fun j row text read => Row.returns_of_decode? text read
  rw [reader]
  -- a selection reads the name of its table itself
  by_cases select : kind = "select"
  · rw [if_pos select]
    exact yields_bind (Selection.yields_reader .lenient) fun selection back => yields_pure back
  rw [if_neg select]
  refine yields_bind yields_required_any fun table _ => ?_
  split_ifs
  · have schema : Yields (required "schema" Schema.decode?) Schema.Returns :=
      yields_required fun j schema text read => Schema.returns_of_decode? text read
    exact yields_bind schema fun schema back => yields_pure back
  · exact yields_bind (row "data") fun data back => yields_pure back
  · refine yields_bind (row "update") fun changes back => ?_
    refine yields_bind Condition.yields_optional fun conditions backs => ?_
    exact yields_pure ⟨back, backs⟩
  · exact yields_bind Condition.yields_optional fun conditions backs => yields_pure backs
  · have alterations : Yields (required "alterations"
        (Json.asListOf? (Alteration.decode? .lenient))) fun alterations =>
          ∀ a ∈ alterations, a.Returns := by
      refine yields_required fun j alterations text read a there => ?_
      obtain ⟨i, item, made⟩ := Json.exists_of_asListOf? text read a there
      exact Alteration.returns_of_decode? item made
    exact yields_bind alterations fun alterations back => yields_pure back
  · exact yields_pure trivial
  · exact yields_bind yields_required_any fun index _ => yields_pure trivial
  · refine yields_bind yields_required_any fun index _ => ?_
    refine yields_bind yields_required_any fun columns _ => ?_
    exact yields_bind yields_defaulted_any fun unique _ => yields_pure trivial
  · exact yields_failure

/-- A query is found among its fields. -/
theorem finds_reader {q : Query} (back : q.Returns) :
    Finds (reader q.kindName) (("type", .text q.kindName) :: q.encodeFields) q := by
  cases q with
  | create table schema =>
    refine finds_bind (finds_required rfl rfl) ?_
    exact finds_bind (finds_required rfl (Schema.decode?_encode back)) finds_pure
  | select selection =>
    refine finds_bind (Selection.finds_reader (fun key apart => ?_) back) finds_pure
    rw [Json.field?_cons, if_neg (Ne.symm apart)]
    rfl
  | insert table data =>
    refine finds_bind (finds_required rfl rfl) ?_
    exact finds_bind (finds_required rfl (Row.decode?_encode back)) finds_pure
  | update table changes conditions =>
    refine finds_bind (finds_required rfl rfl) ?_
    refine finds_bind (finds_required rfl (Row.decode?_encode back.1)) ?_
    exact finds_bind (Condition.finds_optional (by simp [encodeFields]) back.2) finds_pure
  | delete table conditions =>
    refine finds_bind (finds_required rfl rfl) ?_
    exact finds_bind (Condition.finds_optional (by simp [encodeFields]) back) finds_pure
  | alter table alterations =>
    have list : Json.asListOf? (Alteration.decode? .lenient)
        (.array (alterations.map Alteration.encode)) = some alterations :=
      Json.asListOf?_map fun a there => Alteration.decode?_encode .lenient (back a there)
    exact finds_bind (finds_required rfl rfl) (finds_bind (finds_required rfl list) finds_pure)
  | dropTable table => exact finds_bind (finds_required rfl rfl) finds_pure
  | dropIndex table index =>
    exact finds_bind (finds_required rfl rfl) (finds_bind (finds_required rfl rfl) finds_pure)
  | createIndex table index columns unique =>
    refine finds_bind (finds_required rfl rfl) ?_
    refine finds_bind (finds_required rfl rfl) ?_
    refine finds_bind (finds_required rfl (Json.asListOf?_ofTexts columns)) ?_
    exact finds_bind (finds_defaulted rfl rfl) finds_pure

theorem returns_of_decode? {j : Json} {q : Query} (text : j.IsText)
    (read : decode? j = some q) : q.Returns := by
  obtain ⟨⟨kind, members⟩, tagged, read⟩ := Option.bind_eq_some_iff.mp read
  exact (yields_reader kind).readAll (areTexts_of_tagged? text tagged) read

theorem decode?_encode {q : Query} (back : q.Returns) : decode? q.encode = some q :=
  (finds_reader back).readAll

/-- **A query that was read from a document is read again from its own document**, in whatever way
the first document was written, as long as it is one that some text holds: its floats are finite and
its objects name no field twice. -/
theorem read_query_comes_back {j : Json} {q : Query} (text : j.IsText)
    (read : decode? j = some q) : decode? q.encode = some q :=
  decode?_encode (returns_of_decode? text read)

/-- Changes of columns in a list, with the number of a kind and an object for a type, and a default
with a number beyond the signed range. -/
def changes : Json :=
  .array [.text "alter", .text "people", .array [
    .array [.ofNat64 0, .text "born", .object [("default", .array [.ofNat64 (2 ^ 63), .null]),
      ("type", .object [("date", .object [])])]],
    .object [("action", .text "drop"), ("name", .text "age"), ("why", .null)]]]

/-- The query that the changes are read as. -/
def changing : Query :=
  .alter "people" [
    .add "born" ((Column.ofType .date).withDefault
      (Value.ofJson (.array [.ofNat64 (2 ^ 63), .null]))),
    .drop "age"]

/-- A selection with parts that say nothing, and an object inside of a condition. -/
def question : Json :=
  .object [("limit_count", .ofNat64 5), ("orderings", .array []), ("fields", .array []),
    ("conditions", .object [("$not", .object [("home", .object [("city", .text "Ulm")])])]),
    ("offset_count", .null), ("type", .text "select"), ("table_name", .text "people")]

/-- The query that the question is read as. -/
def asking : Query :=
  let elsewhere : Condition := [.not [.field "home" (.equals (.json (.object
    [("city", .text "Ulm")])))]]
  .select ((((Selection.everything "people").filtered elsewhere).showing []).limitedTo 5)

theorem read_query_comes_back_people :
    (changes.IsText ∧ decode? changes = some changing ∧
      decode? changing.encode = some changing) ∧
    question.IsText ∧ decode? question = some asking ∧ decode? asking.encode = some asking := by
  have list : changes.IsText := by decide
  have changed : decode? changes = some changing := rfl
  have object : question.IsText := by decide
  have asked : decode? question = some asking := rfl
  exact ⟨⟨list, changed, read_query_comes_back list changed⟩, object, asked,
    read_query_comes_back object asked⟩

end Query

end Polystore
