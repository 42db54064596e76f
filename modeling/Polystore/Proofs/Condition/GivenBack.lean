import Polystore.Proofs.Condition.Reread
import Polystore.Proofs.Json.Texts

/-!
# Documents that conditions give back

A condition that was read from a document gives this document back, field by field and in the same
order. Reading loses nothing but one thing: a whole number beyond the signed range, where a field is
compared with it, becomes the float next to it. So a condition that was read comes back from its own
document as it is, and that document is the one that was read unless such a number is inside. The
documents meant are those that some text holds (`Json.isText_of_read?`).
-/

namespace Polystore

/-! ## Documents without large numbers -/

namespace Json

/-- A whole number is within the signed range. -/
def isSigned : Json → Bool
  | .int n => n.toInt64?.isSome
  | _ => true

/-- Every whole number inside the document is within the signed range. -/
def AllSigned (j : Json) : Prop := j.all isSigned = true

instance (j : Json) : Decidable j.AllSigned := inferInstanceAs (Decidable (_ = _))

end Json

theorem WideInt.ofInt64_of_toInt64? {n : WideInt} {i : Int64} (h : n.toInt64? = some i) :
    ofInt64 i = n := by
  obtain ⟨val, lower, upper⟩ := n
  rw [toInt64?] at h
  split at h
  · rename_i below
    obtain rfl := Option.some.inj h
    have same : (Int64.ofInt val).toInt = val := Int64.toInt_ofInt_of_le lower below
    simp only [ofInt64, same]
  · cases h

theorem WideInt.isFinite_of_toInt64? {n : WideInt} (h : n.toInt64? = none) :
    (Binary64.ofInt n.val).isFinite = true := by
  obtain ⟨val, lower, upper⟩ := n
  rw [toInt64?] at h
  split at h
  · cases h
  · rename_i beyond
    have large : ¬ val < 2 ^ 63 := beyond
    obtain ⟨m, rfl⟩ := Int.eq_ofNat_of_zero_le (a := val) (by omega)
    exact Binary64.isFinite_ofInt (by omega)

/-! ## Values -/

namespace Value

/-- Turned into a value and back, a document stands for the same value, and it is the same document
unless a whole number in it was too large. -/
structure GivenBack (j : Json) : Prop where
  value : ofJson (ofJson j).toJson = ofJson j
  document : j.AllSigned → (ofJson j).toJson = j

mutual

theorem givenBack {j : Json} (text : j.IsText) : GivenBack j := by
  cases j with
  | null | bool b | text s | object fields => exact ⟨rfl, fun _ => rfl⟩
  | int n =>
    cases small : n.toInt64? with
    | some i =>
      have same : (ofJson (.int n)).toJson = .int n := by
        simp only [ofJson, small, toJson, toJsonWith, Json.ofInt64,
          WideInt.ofInt64_of_toInt64? small]
      exact ⟨by rw [same], fun _ => same⟩
    | none =>
      have finite := WideInt.isFinite_of_toInt64? small
      have float : (ofJson (.int n)).toJson = .float (Binary64.ofInt n.val) := by
        simp only [ofJson, small, toJson, toJsonWith, finite, if_true]
      refine ⟨?_, fun signed => ?_⟩
      · rw [float]
        simp only [ofJson, small]
      · have large : n.toInt64?.isSome = true := signed
        rw [small] at large
        cases large
  | float x =>
    have finite : x.isFinite = true := text
    have same : (ofJson (.float x)).toJson = .float x := by
      rw [ofJson, toJson, toJsonWith, if_pos finite]
    exact ⟨by rw [same], fun _ => same⟩
  | array items =>
    obtain ⟨values, documents⟩ := givenBack_items (Json.all_array text)
    refine ⟨?_, fun signed => ?_⟩
    · rw [ofJson, toJson, toJsonWith, ofJson, values]
    · rw [ofJson, toJson, toJsonWith, documents (Json.all_array signed)]

theorem givenBack_items {items : List Json} (text : Json.allItems Json.isWritable items = true) :
    ofJsonItems (toJsonItems .offset (ofJsonItems items)) = ofJsonItems items ∧
      (Json.allItems Json.isSigned items = true →
        toJsonItems .offset (ofJsonItems items) = items) := by
  cases items with
  | nil => exact ⟨rfl, fun _ => rfl⟩
  | cons j rest =>
    obtain ⟨here, behind⟩ := Bool.and_eq_true_iff.mp text
    obtain ⟨value, document⟩ := givenBack here
    obtain ⟨values, documents⟩ := givenBack_items behind
    refine ⟨?_, fun signed => ?_⟩
    · rw [ofJsonItems, toJsonItems, ofJsonItems, values]
      exact congrArg (· :: _) value
    · obtain ⟨signed, others⟩ := Bool.and_eq_true_iff.mp signed
      rw [ofJsonItems, toJsonItems, documents others]
      exact congrArg (· :: _) (document signed)

end

/-- A document that is no object does not become one by way of its value. -/
theorem isObject_toJson_ofJson {j : Json} (h : j.isObject = false) :
    (ofJson j).toJson.isObject = false := by
  cases j with
  | null | bool b | text s | array items => rfl
  | int n =>
    simp only [ofJson]
    split
    · rfl
    · rw [toJson, toJsonWith]
      split <;> rfl
  | float x =>
    rw [ofJson, toJson, toJsonWith]
    split <;> rfl
  | object fields => cases h

end Value

/-! ## Tests of one field -/

theorem Operator.key_of_ofKey? {key : String} {op : Operator} (h : ofKey? key = some op) :
    op.key = key := by
  simpa using List.find?_some h

namespace FieldTest

/-- The operators of an object stand in its order, each with the value of its operand. -/
theorem readOperators_eq_ok {fields : List (String × Json)} {ops : List (Operator × Value)}
    (h : readOperators fields = .ok ops) :
    (ops.map fun o => (o.1.key, o.2)) = fields.map fun f => (f.1, Value.ofJson f.2) := by
  induction fields generalizing ops with
  | nil =>
    cases h
    rfl
  | cons field rest ih =>
    obtain ⟨key, operand⟩ := field
    rw [readOperators] at h
    split at h
    · cases h
    · rename_i op known
      obtain ⟨others, read, h⟩ := Outcome.bind_eq_ok.mp h
      cases h
      rw [List.map_cons, List.map_cons, Operator.key_of_ofKey? known, ih read]

/-- A test that was read from a document comes back, and gives this document back. -/
structure GivenBack (j : Json) (test : FieldTest) : Prop where
  back : ofJson test.toJson = .ok test
  document : j.AllSigned → test.toJson = j

theorem givenBack_operators {fields : List (String × Json)} {ops : List (Operator × Value)}
    (text : (Json.object fields).IsText) (filled : fields ≠ [])
    (read : readOperators fields = .ok ops) : GivenBack (.object fields) (.operators ops) := by
  obtain ⟨names, inner⟩ := Json.isText_object_iff.mp text
  have same := readOperators_eq_ok read
  have keys : (ops.map fun o => o.1.key) = fields.map Prod.fst := by
    have firsts := congrArg (List.map Prod.fst) same
    rwa [List.map_map, List.map_map] at firsts
  -- every operand is the value of a field
  have operand : ∀ o ∈ ops, ∃ f ∈ fields, o.2 = Value.ofJson f.2 := by
    intro o ho
    have mem : (o.1.key, o.2) ∈ fields.map fun f => (f.1, Value.ofJson f.2) :=
      same ▸ List.mem_map_of_mem ho
    obtain ⟨f, hf, e⟩ := List.mem_map.mp mem
    exact ⟨f, hf, (Prod.mk.inj e).2.symm⟩
  have distinct : (ops.map Prod.fst).Nodup := by
    have apart : ((ops.map Prod.fst).map Operator.key).Nodup := by
      rw [List.map_map]
      exact keys ▸ names
    exact apart.of_map
  have some : ops ≠ [] := by
    rintro rfl
    exact filled (List.map_eq_nil_iff.mp keys.symm)
  refine ⟨ofJson_operators some distinct fun o ho => ?_, fun signed => ?_⟩
  · obtain ⟨f, hf, value⟩ := operand o ho
    rw [value]
    exact (Value.givenBack (inner f hf)).value
  · have within : ∀ f ∈ fields, f.2.AllSigned := Json.allFields_iff.mp (Json.all_object signed)
    rw [toJson_operators distinct]
    congr 1
    calc
      (ops.map fun o => (o.1.key, o.2.toJson))
      _ = (ops.map fun o => (o.1.key, o.2)).map fun f => (f.1, f.2.toJson) := by
        rw [List.map_map]
        rfl
      _ = fields.map fun f => (f.1, (Value.ofJson f.2).toJson) := by
        rw [same, List.map_map]
        rfl
      _ = fields.map id := List.map_congr_left fun f hf => by
        rw [(Value.givenBack (inner f hf)).document (within f hf)]
        rfl
      _ = fields := List.map_id fields

theorem givenBack {j : Json} {test : FieldTest} (text : j.IsText) (read : ofJson j = .ok test) :
    GivenBack j test := by
  by_cases object : j.isObject = true
  · cases j with
    | object fields =>
      rw [ofJson] at read
      split at read
      · -- an object that is no set of operators is kept as it is
        rename_i literal
        cases read
        refine ⟨?_, fun _ => rfl⟩
        rw [toJson, Value.toJson, Value.toJsonWith, ofJson, if_pos literal]
      · rename_i dollars
        obtain ⟨ops, known, rfl⟩ := Outcome.map_eq_ok.mp read
        refine givenBack_operators text ?_ known
        rintro rfl
        exact dollars rfl
    | _ => cases object
  · rw [Bool.not_eq_true] at object
    rw [ofJson_of_not_isObject object] at read
    cases read
    obtain ⟨value, document⟩ := Value.givenBack text
    refine ⟨?_, document⟩
    rw [toJson, ofJson_of_not_isObject (Value.isObject_toJson_ofJson object), value]

end FieldTest

/-! ## Clauses and conditions -/

namespace Condition

/-- A clause that was read under a key: its tests come back, no condition inside it has two clauses
under one key, and it gives its document back. -/
structure ClauseGivenBack (j : Json) (clause : Clause) : Prop where
  tests : ∀ t ∈ clauseTests clause, ComesBack t
  apart : ∀ d ∈ clauseLevels clause, KeysApart d
  document : j.AllSigned → clauseJson clause = j

/-- Clauses that were read from the fields of an object. -/
structure ClausesGivenBack (fields : List (String × Json)) (clauses : List Clause) : Prop where
  tests : ∀ t ∈ tests clauses, ComesBack t
  apart : ∀ d ∈ innerLevels clauses, KeysApart d
  keys : clauses.map Clause.key = fields.map Prod.fst
  document : Json.allFields Json.isSigned fields = true →
    (clauses.map fun clause => (clause.key, clauseJson clause)) = fields

/-- Conditions that were read from the documents of a list. -/
structure ListGivenBack (items : List Json) (conditions : List (List Clause)) : Prop where
  tests : ∀ t ∈ testsOfAll conditions, ComesBack t
  apart : ∀ d ∈ levelsOfAll conditions, KeysApart d
  document : Json.allItems Json.isSigned items = true → listToJson conditions = items

/-- Clauses under different keys are set one behind the other. -/
theorem putClauses_eq {fields : List (String × Json)} {clauses : List Clause}
    (apart : (fields.map Prod.fst ++ clauses.map Clause.key).Nodup) :
    putClauses fields clauses =
      fields ++ clauses.map fun clause => (clause.key, clauseJson clause) := by
  induction clauses generalizing fields with
  | nil => exact (List.append_nil fields).symm
  | cons clause rest ih =>
    have fresh : clause.key ∉ fields.map Prod.fst := by
      rw [List.map_cons, List.nodup_append'] at apart
      exact fun there => apart.2.2 there List.mem_cons_self
    rw [putClauses, putClause_eq, Json.setField_of_not_mem _ fresh, ih, List.append_assoc]
    · rfl
    · rwa [List.map_append, List.append_assoc]

theorem toJson_eq {c : Condition} (apart : KeysApart c) :
    c.toJson = .object (c.map fun clause => (clause.key, clauseJson clause)) := by
  have onto : (([] : List (String × Json)).map (·.1) ++ c.map Clause.key).Nodup := apart
  rw [toJson, putClauses_eq onto, List.nil_append]

namespace ClausesGivenBack

variable {fields : List (String × Json)} {c : Condition}

theorem keysApart (h : ClausesGivenBack fields c) (text : (Json.object fields).IsText) :
    KeysApart c := by
  rw [KeysApart, h.keys]
  exact (Json.isText_object_iff.mp text).1

theorem toJson (h : ClausesGivenBack fields c) (text : (Json.object fields).IsText)
    (signed : (Json.object fields).AllSigned) : Condition.toJson c = .object fields := by
  rw [toJson_eq (h.keysApart text), h.document (Json.all_object signed)]

end ClausesGivenBack

theorem givenBack_test {key : String} {j : Json} {clause : Clause} (text : j.IsText)
    (read : testClause key j = .ok clause) : ClauseGivenBack j clause := by
  rw [testClause] at read
  split at read
  · cases read
  · rename_i plain
    obtain ⟨test, known, rfl⟩ := Outcome.map_eq_ok.mp read
    obtain ⟨back, document⟩ := FieldTest.givenBack text known
    refine ⟨?_, by simp [clauseLevels], document⟩
    exact List.forall_mem_singleton.mpr ⟨Bool.not_eq_true _ ▸ plain, back⟩

mutual

theorem givenBack_clause {key : String} {j : Json} {clause : Clause} (text : j.IsText)
    (read : clauseOf key j = .ok clause) : ClauseGivenBack j clause := by
  cases j with
  | array items =>
    simp only [clauseOf] at read
    split_ifs at read with and or not
    · obtain ⟨conditions, inner, rfl⟩ := Outcome.map_eq_ok.mp read
      obtain ⟨tests, apart, document⟩ := givenBack_list (Json.all_array text) inner
      exact ⟨tests, apart, fun signed => congrArg Json.array (document (Json.all_array signed))⟩
    · obtain ⟨conditions, inner, rfl⟩ := Outcome.map_eq_ok.mp read
      obtain ⟨tests, apart, document⟩ := givenBack_list (Json.all_array text) inner
      exact ⟨tests, apart, fun signed => congrArg Json.array (document (Json.all_array signed))⟩
    · exact givenBack_test text read
  | object fields =>
    simp only [clauseOf] at read
    split_ifs at read with list not
    · obtain ⟨condition, negated, rfl⟩ := Outcome.map_eq_ok.mp read
      have inner := givenBack_clauses (Json.all_object text) negated
      refine ⟨inner.tests, ?_, inner.toJson text⟩
      exact List.forall_mem_cons.mpr ⟨inner.keysApart text, inner.apart⟩
    · exact givenBack_test text read
  | null | bool b | int n | float x | text s =>
    simp only [clauseOf] at read
    split_ifs at read
    exact givenBack_test text read

theorem givenBack_clauses {fields : List (String × Json)} {clauses : List Clause}
    (text : Json.allFields Json.isWritable fields = true) (read : clausesOf fields = .ok clauses) :
    ClausesGivenBack fields clauses := by
  cases fields with
  | nil =>
    cases read
    exact ⟨by simp [tests], by simp [innerLevels], rfl, fun _ => rfl⟩
  | cons field rest =>
    obtain ⟨key, j⟩ := field
    obtain ⟨here, behind⟩ := Bool.and_eq_true_iff.mp text
    rw [clausesOf] at read
    obtain ⟨clause, first, read⟩ := Outcome.bind_eq_ok.mp read
    obtain ⟨others, next, read⟩ := Outcome.bind_eq_ok.mp read
    cases read
    obtain ⟨tests, inner, document⟩ := givenBack_clause here first
    obtain ⟨moreTests, moreInner, keys, documents⟩ := givenBack_clauses behind next
    have name := key_of_clauseOf first
    refine ⟨?_, ?_, ?_, fun signed => ?_⟩
    · exact List.forall_mem_append.mpr ⟨tests, moreTests⟩
    · exact List.forall_mem_append.mpr ⟨inner, moreInner⟩
    · rw [List.map_cons, List.map_cons, name, keys]
    · obtain ⟨signed, others⟩ := Bool.and_eq_true_iff.mp signed
      rw [List.map_cons, name, document signed, documents others]

theorem givenBack_list {items : List Json} {conditions : List (List Clause)}
    (text : Json.allItems Json.isWritable items = true)
    (read : conditionsOf items = .ok conditions) : ListGivenBack items conditions := by
  cases items with
  | nil =>
    cases read
    exact ⟨by simp [testsOfAll], by simp [levelsOfAll], fun _ => rfl⟩
  | cons j rest =>
    obtain ⟨here, behind⟩ := Bool.and_eq_true_iff.mp text
    rw [conditionsOf] at read
    obtain ⟨condition, first, read⟩ := Outcome.bind_eq_ok.mp read
    obtain ⟨others, next, read⟩ := Outcome.bind_eq_ok.mp read
    cases read
    obtain ⟨moreTests, moreApart, documents⟩ := givenBack_list behind next
    cases j with
    | object fields =>
      rw [ofJson] at first
      have inner := givenBack_clauses (Json.all_object here) first
      have apart : ∀ d ∈ condition :: innerLevels condition, KeysApart d :=
        List.forall_mem_cons.mpr ⟨inner.keysApart here, inner.apart⟩
      refine ⟨?_, ?_, fun signed => ?_⟩
      · exact List.forall_mem_append.mpr ⟨inner.tests, moreTests⟩
      · exact List.forall_mem_append.mpr ⟨apart, moreApart⟩
      · obtain ⟨signed, others⟩ := Bool.and_eq_true_iff.mp signed
        rw [listToJson, documents others]
        exact congrArg (· :: rest) (inner.toJson here signed)
    | _ => cases first

end

/-- **A condition that was read from a document comes back from its own document, and gives back
the document that was read**, in the same order, when no whole number in it is beyond the signed
range. -/
theorem read_document_given_back {j : Json} {c : Condition} (text : j.IsText)
    (read : ofJson j = .ok c) : (j.AllSigned → c.toJson = j) ∧ ofJson c.toJson = .ok c := by
  cases j with
  | object fields =>
    rw [ofJson] at read
    have inner := givenBack_clauses (Json.all_object text) read
    have single : c.IsSingle :=
      List.forall_mem_cons.mpr ⟨inner.keysApart text, inner.apart⟩
    refine ⟨inner.toJson text, ?_⟩
    rw [ofJson_toJson inner.tests, (collapse_eq_self_iff c).mpr single]
  | _ => cases read

/-- One half. -/
def half : Binary64 := ⟨false, 0x3fe0000000000000, by decide⟩

/-- A document with all three words, a set of operators, and objects that are none. -/
def roster : Json :=
  .object [
    ("$or", .array [
      .object [("name", .object [("$like", .text "A%"), ("$ne", .object [("$gt", .null)])])],
      .object [("$and", .array []),
        ("tags", .array [.float half, .int ⟨-1, by decide, by decide⟩])]]),
    ("$not", .object [("home", .object [("$eq", .text "x"), ("city", .bool true)])]),
    ("age", .object [])]

/-- A document with a whole number beyond the signed range, in a list of alternatives. -/
def census : Json :=
  .object [("people", .object [("$in", .array [.int ⟨2 ^ 63, by decide, by decide⟩,
    .object [("n", .int ⟨2 ^ 63, by decide, by decide⟩)]])])]

theorem read_document_given_back_roster :
    (roster.IsText ∧ roster.AllSigned ∧
      ∃ c, ofJson roster = .ok c ∧ c.toJson = roster ∧ ofJson c.toJson = .ok c) ∧
    (census.IsText ∧ ¬ census.AllSigned ∧
      ∃ c, ofJson census = .ok c ∧ ofJson c.toJson = .ok c) := by
  have text : roster.IsText := by decide
  have signed : roster.AllSigned := by decide
  have wide : census.IsText := by decide
  obtain ⟨document, back⟩ := read_document_given_back text (c := _) rfl
  obtain ⟨-, floats⟩ := read_document_given_back wide (c := _) rfl
  exact ⟨⟨text, signed, _, rfl, document signed, back⟩, wide, by decide, _, rfl, floats⟩

end Condition

end Polystore
