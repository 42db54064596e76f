import Polystore.Proofs.Document.Touched
import Polystore.Proofs.Value.Proper

/-!
# A stored field can be shown and asked for

A document is stored under any names, and read by paths: a name with dots leads through the objects
inside of a field. A field whose name has no dots is read as what was stored. A find that shows
only this field brings its value for every document that a find of whole documents would bring, and
the condition that the field equals its value is met by the document, since every value is equal to
itself by the reading that comparisons make of it, if only all numbers inside are numbers.
-/

namespace Polystore.Document

/-- A document with no other field than one, if it has this one. -/
def only (field : String) (document : Row) : Row :=
  (document.get? field).elim .empty fun v => TextMap.ofList [(field, v)]

/-- The documents of a collection that hold a value in a field. -/
def Collection.holding (c : Collection) (field : String) (v : Value) : List Row :=
  c.documents.filter fun document => (document.at field).looseEq v

variable {s : Store} {config : Config} {name field : String} {c : Collection} {d : Row} {v : Value}

/-! ## Showing one field -/

/-- A field that is there stays, also when its value is `null`. -/
theorem projected_singleton (dotFree : '.' ∉ field.toList) (document : Row) :
    projected [field] document = only field document := by
  simp only [projected, only, List.map_singleton, lookupPath_of_dotFree dotFree, Row.at,
    TextMap.contains]
  cases held : document.get? field with
  | none =>
    -- it reads as `null`, and only a field that is there is shown as `null`
    simp [held, Value.isNull, TextMap.ofList]
  | some v => simp [held]

theorem only_of_get? (held : d.get? field = some v) : only field d = TextMap.ofList [(field, v)] := by
  rw [only, held, Option.elim_some]

/-- Fields are taken off the documents that a find brings, and decide nothing before. -/
theorem Collection.find_projected (c : Collection) (config : Config) (asked : Finding)
    (first : String) (paths : List String) :
    c.find config { asked with projection := first :: paths } =
      (c.find config { asked with projection := [] }).map
        (·.map (projected (first :: paths))) := by
  rw [Collection.find, Collection.find, Collection.findBy, Collection.findBy]
  cases c.marked config asked.filter <;> rfl

/-- A find is answered out of its collection. -/
theorem run_find_eq (there : s.get? name = some c) (freshId : String) (asked : Finding) :
    s.run config freshId ⟨name, .find asked⟩ = ((c.find config asked).map Result.ofRows, s) := by
  show (do
    let c ← Step.collection name
    let rows ← Step.lift (c.find config asked)
    pure (Result.ofRows rows) : Step Result).run.run s = _
  rw [Steps.run_bind_ok (Step.run_collection there)]
  cases c.find config asked <;> rfl

/-! ## Asking for one value -/

/-- The filter of an equality compares what the document has in the field. -/
theorem meets_equality (dotFree : '.' ∉ field.toList) (caseSensitive : Bool) (document : Row)
    (v : Value) :
    Filter.meets caseSensitive document (.field field [(.eq, v)]) =
      .ok ((document.at field).looseEq v) := by
  have compiled : Filter.ofClause (.field field (.equals v)) = .ok (.field field [(.eq, v)]) := rfl
  rw [Filter.ofTest_meets caseSensitive document dotFree compiled]
  rfl

theorem Collection.find_equality (dotFree : '.' ∉ field.toList) (c : Collection) (config : Config)
    (v : Value) :
    c.find config (findingAll (.field field [(.eq, v)]) [] []) = .ok (c.holding field v) := by
  have marked : c.marked config (.field field [(.eq, v)]) =
      .ok (c.documents.map fun document => (document, (document.at field).looseEq v)) := by
    refine Outcome.mapM_eq_ok fun document _ => ?_
    rw [meets_equality dotFree]
    rfl
  rw [Collection.find_of_marked marked, Selection.hits_eq, Rows.sorted_nil]
  rfl

/-- A document holds the value that is stored in its field. -/
theorem mem_holding (stored : d ∈ c.documents) (held : d.get? field = some v)
    (proper : v.isProper = true) : d ∈ c.holding field v := by
  refine List.mem_filter.mpr ⟨stored, ?_⟩
  rw [Row.at, held]
  exact v.looseEq_self proper

/-- **What a document holds in a field can be shown and asked for**, if the name has no dots. A find
that shows the field brings, for each document that it would bring as a whole, this field with its
value. If the value is proper, the document meets the condition that the field equals the value, and
a selection with this condition brings the document among those that hold the value. -/
theorem stored_field_is_shown_and_met (there : s.get? name = some c) (stored : d ∈ c.documents)
    (held : d.get? field = some v) (dotFree : '.' ∉ field.toList) :
    (only field d = TextMap.ofList [(field, v)] ∧
      ∀ freshId (asked : Finding),
        s.run config freshId ⟨name, .find { asked with projection := [field] }⟩ =
          ((c.find config { asked with projection := [] }).map fun documents =>
            Result.ofRows (documents.map (only field)), s)) ∧
    (v.isProper = true →
      (∃ filter, Filter.ofCondition [.field field (.equals v)] = .ok filter ∧
        ∀ caseSensitive, filter.meets caseSensitive d = .ok true) ∧
      d ∈ c.holding field v ∧
      ∃ command,
        compile (.select ((Selection.everything name).filtered [.field field (.equals v)])) =
          .ok ⟨command, []⟩ ∧
        ∀ freshId, s.run config freshId command =
          (.ok (Result.ofRows (c.holding field v)), s)) := by
  refine ⟨⟨only_of_get? held, fun freshId asked => ?_⟩, fun proper => ⟨?_, ?_, ?_⟩⟩
  · have shown : projected [field] = only field := funext (projected_singleton dotFree)
    rw [run_find_eq there, Collection.find_projected, shown]
    cases c.find config { asked with projection := [] } <;> rfl
  · refine ⟨.field field [(.eq, v)], rfl, fun caseSensitive => ?_⟩
    rw [meets_equality dotFree, Row.at, held]
    exact congrArg Except.ok (v.looseEq_self proper)
  · exact mem_holding stored held proper
  · refine ⟨⟨name, .find (findingAll (.field field [(.eq, v)]) [] [])⟩, rfl, fun freshId => ?_⟩
    exact run_find there (Collection.find_equality dotFree c config v)

/-- Two people, one of them with a home that has parts of its own. -/
def neighbours : List Row :=
  [TextMap.ofList [("_id", .int 1), ("home", .json (.object [("street", .text "Elm"),
      ("number", .ofInt64 12)])), ("phone", .null)],
    TextMap.ofList [("_id", .int 2), ("phone", .text "555")]]

theorem stored_field_is_shown_and_met_home :
    let s : Store := TextMap.empty.insert "people" ⟨neighbours, TextMap.empty⟩
    let home : Value := .json (.object [("street", .text "Elm"), ("number", .ofInt64 12)])
    (∀ freshId, s.run .standard freshId ⟨"people", .find (findingAll .all ["home"] [])⟩ =
      (.ok (Result.ofRows [TextMap.ofList [("home", home)], .empty]), s)) ∧
    ∃ command,
      compile (.select ((Selection.everything "people").filtered [.field "home" (.equals home)])) =
        .ok ⟨command, []⟩ ∧
      ∀ freshId, s.run .standard freshId command =
        (.ok (Result.ofRows (neighbours.take 1)), s) := by
  intro s home
  have first : neighbours[0] ∈ neighbours := List.getElem_mem _
  obtain ⟨⟨_, shows⟩, met⟩ := @stored_field_is_shown_and_met s .standard "people" "home"
    ⟨neighbours, TextMap.empty⟩ _ home (TextMap.get?_insert_self ..) first (by cbv) (by decide)
  obtain ⟨_, _, command, compiled, brings⟩ := met (by cbv)
  refine ⟨fun freshId => ?_, command, compiled, fun freshId => ?_⟩
  · have whole : Collection.find ⟨neighbours, TextMap.empty⟩ .standard (findingAll .all [] []) =
        .ok neighbours := by cbv
    refine (shows freshId (findingAll .all [] [])).trans ?_
    show ((Collection.find _ _ (findingAll .all [] [])).map _, s) = _
    rw [whole]
    rfl
  · have holders : Collection.holding ⟨neighbours, TextMap.empty⟩ "home" home =
        neighbours.take 1 := by cbv
    rw [brings freshId, holders]

/-- **A name with dots is a path.** A field under such a name is shown without its value, as the
path leads nowhere, and a selection that asks for its value brings nothing. -/
theorem dotted_field_is_read_as_path :
    let people : Row := TextMap.ofList [("_id", .int 1), ("a.b", .int 5)]
    let s := (Store.empty.run .standard "" ⟨"people", .insertOne people⟩).2
    let shown := (Selection.everything "people").showing ["a.b"]
    let asked := (Selection.everything "people").filtered [.field "a.b" (.equals (.int 5))]
    people.get? "a.b" = some (.int 5) ∧
      (s.get? "people").map (·.documents) = some [people] ∧
      (compile (.select shown)).map (fun b => (s.run .standard "" b.query).1) =
        .ok (.ok (Result.ofRows [TextMap.ofList [("a.b", .null)]])) ∧
      (compile (.select asked)).map (fun b => (s.run .standard "" b.query).1) =
        .ok (.ok (Result.ofRows [])) := by
  refine ⟨?_, ?_, ?_, ?_⟩ <;> cbv

end Polystore.Document
