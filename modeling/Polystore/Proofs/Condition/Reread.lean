import Mathlib.Data.List.Nodup
import Polystore.Condition.Codec
import Polystore.Document.Store
import Polystore.Proofs.Condition.Collapse
import Polystore.Proofs.Condition.Meaning
import Polystore.Proofs.Outcome

/-!
# Conditions read back from their documents

A condition that is built step by step goes into a document and comes back. Its tests come back as
they were: the operands are values with a document of their own, every set of operators has at
least one operator and none twice, and no field looks like an operator. What the document does not
keep is a second clause under one key. So the condition that comes back is the collapsed one, and
that is the condition that was built exactly when no level of it has two clauses under one key.
-/

namespace Polystore

/-! ## Values -/

namespace Value

mutual

/-- Whether the value comes back from its document: no instant, which goes into a text, no document,
which may look like a set of operators, and no float without a document. -/
def isPortable : Value → Bool
  | .null | .bool _ | .int _ | .text _ => true
  | .float x => x.isFinite
  | .list items => arePortable items
  | .date _ | .json _ => false

/-- Whether all values of a list come back from their documents. -/
def arePortable : List Value → Bool
  | [] => true
  | v :: rest => v.isPortable && arePortable rest

end

mutual

theorem ofJson_toJson {v : Value} (h : v.isPortable = true) : ofJson v.toJson = v := by
  cases v with
  | null | bool b | text s => rfl
  | int n => simp only [toJson, toJsonWith, Json.ofInt64, ofJson, WideInt.toInt64?_ofInt64]
  | float x =>
    have finite : x.isFinite = true := h
    rw [toJson, toJsonWith, if_pos finite, ofJson]
  | list items => rw [toJson, toJsonWith, ofJson, ofJsonItems_toJsonItems h]
  | date t => cases h
  | json j => cases h

theorem ofJsonItems_toJsonItems {items : List Value} (h : arePortable items = true) :
    ofJsonItems (toJsonItems .offset items) = items := by
  cases items with
  | nil => rfl
  | cons v rest =>
    obtain ⟨here, behind⟩ := Bool.and_eq_true_iff.mp h
    rw [toJsonItems, ofJsonItems, ofJsonItems_toJsonItems behind]
    exact congrArg (· :: rest) (ofJson_toJson here)

end

/-- The document of such a value is no object, so it is never taken for a set of operators. -/
theorem isObject_toJson {v : Value} (h : v.isPortable = true) : v.toJson.isObject = false := by
  cases v with
  | null | bool b | text s | int n | list items => rfl
  | float x =>
    have finite : x.isFinite = true := h
    rw [toJson, toJsonWith, if_pos finite]
    rfl
  | date t => cases h
  | json j => cases h

end Value

/-! ## Tests of one field -/

namespace Json

/-- A field under a new key comes last. -/
theorem setField_of_not_mem {key : String} {fields : List (String × Json)} (value : Json)
    (fresh : key ∉ fields.map Prod.fst) : setField key value fields = fields ++ [(key, value)] := by
  induction fields with
  | nil => rfl
  | cons first rest ih =>
    rw [List.map_cons, List.mem_cons, not_or] at fresh
    rw [setField, if_neg (Ne.symm fresh.1), ih fresh.2, List.cons_append]

end Json

namespace Operator

theorem key_injective : Function.Injective key := by
  intro a b same
  exact Option.some.inj (by rw [← ofKey?_key, same, ofKey?_key])

theorem isDollarKey_key (op : Operator) : FieldTest.isDollarKey op.key = true := by
  cases op <;> decide

end Operator

namespace FieldTest

/-- A set of operators has an operator, and none twice. -/
def IsProper : FieldTest → Prop
  | .equals _ => True
  | .operators ops => ops ≠ [] ∧ (ops.map Prod.fst).Nodup

/-- Distinct operators go into the object one behind the other. -/
theorem foldl_setField {ops : List (Operator × Value)} (fields : List (String × Json))
    (distinct : (fields.map Prod.fst ++ ops.map fun o => o.1.key).Nodup) :
    ops.foldl (fun fields o => Json.setField o.1.key o.2.toJson fields) fields =
      fields ++ ops.map fun o => (o.1.key, o.2.toJson) := by
  induction ops generalizing fields with
  | nil => exact (List.append_nil fields).symm
  | cons o rest ih =>
    have fresh : o.1.key ∉ fields.map Prod.fst := by
      rw [List.map_cons, List.nodup_append'] at distinct
      exact fun there => distinct.2.2 there List.mem_cons_self
    rw [List.foldl_cons, Json.setField_of_not_mem _ fresh, ih, List.append_assoc]
    · rfl
    · rwa [List.map_append, List.append_assoc]

theorem toJson_operators {ops : List (Operator × Value)} (distinct : (ops.map Prod.fst).Nodup) :
    toJson (.operators ops) = .object (ops.map fun o => (o.1.key, o.2.toJson)) := by
  have keys : (ops.map fun o => o.1.key).Nodup := by
    have mapped := distinct.map Operator.key_injective
    rwa [List.map_map] at mapped
  rw [toJson, foldl_setField [] keys, List.nil_append]

theorem readOperators_map {ops : List (Operator × Value)}
    (back : ∀ o ∈ ops, Value.ofJson o.2.toJson = o.2) :
    readOperators (ops.map fun o => (o.1.key, o.2.toJson)) = .ok ops := by
  induction ops with
  | nil => rfl
  | cons o rest ih =>
    obtain ⟨here, behind⟩ := List.forall_mem_cons.mp back
    rw [List.map_cons, readOperators, Operator.ofKey?_key]
    simp only [ih behind, here, Outcome.ok_bind]

/-- A set of operators comes back when every operand does. -/
theorem ofJson_operators {ops : List (Operator × Value)} (filled : ops ≠ [])
    (distinct : (ops.map Prod.fst).Nodup) (back : ∀ o ∈ ops, Value.ofJson o.2.toJson = o.2) :
    ofJson (toJson (.operators ops)) = .ok (.operators ops) := by
  have dollars : (ops.map fun o => (o.1.key, o.2.toJson)).all (isDollarKey ·.1) = true := by
    simp [Operator.isDollarKey_key]
  have some : (ops.map fun o => (o.1.key, o.2.toJson)).isEmpty = false := by
    simpa using filled
  rw [toJson_operators distinct, ofJson, some, dollars, readOperators_map back]
  rfl

theorem ofJson_of_not_isObject {j : Json} (h : j.isObject = false) :
    ofJson j = .ok (.equals (Value.ofJson j)) := by
  cases j with
  | object fields => cases h
  | _ => rfl

theorem ofJson_toJson {name : String} {test : FieldTest} (proper : test.IsProper)
    (portable : ∀ u ∈ Condition.usesOfTest name test, u.operand.isPortable = true) :
    ofJson test.toJson = .ok test := by
  cases test with
  | equals v =>
    have plain : v.isPortable = true := portable _ List.mem_cons_self
    rw [toJson, ofJson_of_not_isObject (Value.isObject_toJson plain), Value.ofJson_toJson plain]
  | operators ops =>
    refine ofJson_operators proper.1 proper.2 fun o ho => ?_
    exact Value.ofJson_toJson (portable ⟨name, o.1, o.2⟩ (List.mem_map_of_mem ho))

end FieldTest

namespace Condition

mutual

/-- The tests of a clause, each with its field, at any depth. -/
def clauseTests : Clause → List (String × FieldTest)
  | .field name test => [(name, test)]
  | .and conditions => testsOfAll conditions
  | .or conditions => testsOfAll conditions
  | .not condition => tests condition

/-- The tests of a condition, each with its field, at any depth. -/
def tests : List Clause → List (String × FieldTest)
  | [] => []
  | clause :: rest => clauseTests clause ++ tests rest

/-- The tests of the conditions of a list, each with its field, at any depth. -/
def testsOfAll : List (List Clause) → List (String × FieldTest)
  | [] => []
  | condition :: rest => tests condition ++ testsOfAll rest

end

mutual

theorem listed_of_mem_clauseTests {clause : Clause} {t : String × FieldTest}
    (h : t ∈ clauseTests clause) :
    t.1 ∈ clauseNames clause ∧ usesOfTest t.1 t.2 ⊆ clauseUses clause := by
  cases clause with
  | field name test =>
    obtain rfl := List.mem_singleton.mp h
    exact ⟨List.mem_cons_self, List.Subset.refl _⟩
  | and conditions => exact listed_of_mem_testsOfAll h
  | or conditions => exact listed_of_mem_testsOfAll h
  | not condition => exact listed_of_mem_tests h

/-- The field of a test is among the names of the condition, and its operators among the uses. -/
theorem listed_of_mem_tests {c : List Clause} {t : String × FieldTest} (h : t ∈ tests c) :
    t.1 ∈ names c ∧ usesOfTest t.1 t.2 ⊆ uses c := by
  cases c with
  | nil => cases h
  | cons clause rest =>
    rw [names, uses]
    obtain h | h := List.mem_append.mp h
    · obtain ⟨name, used⟩ := listed_of_mem_clauseTests h
      exact ⟨List.mem_append_left _ name, List.subset_append_of_subset_left _ used⟩
    · obtain ⟨name, used⟩ := listed_of_mem_tests h
      exact ⟨List.mem_append_right _ name, List.subset_append_of_subset_right _ used⟩

theorem listed_of_mem_testsOfAll {conditions : List (List Clause)} {t : String × FieldTest}
    (h : t ∈ testsOfAll conditions) :
    t.1 ∈ namesOfAll conditions ∧ usesOfTest t.1 t.2 ⊆ usesOfAll conditions := by
  cases conditions with
  | nil => cases h
  | cons condition rest =>
    rw [namesOfAll, usesOfAll]
    obtain h | h := List.mem_append.mp h
    · obtain ⟨name, used⟩ := listed_of_mem_tests h
      exact ⟨List.mem_append_left _ name, List.subset_append_of_subset_left _ used⟩
    · obtain ⟨name, used⟩ := listed_of_mem_testsOfAll h
      exact ⟨List.mem_append_right _ name, List.subset_append_of_subset_right _ used⟩

end

/-! ## What a document gives back -/

/-- A test comes back from its document, under the name of its field. -/
def ComesBack (t : String × FieldTest) : Prop :=
  FieldTest.isDollarKey t.1 = false ∧ FieldTest.ofJson t.2.toJson = .ok t.2

/-- The document of what stands under the key of a clause. -/
def clauseJson : Clause → Json
  | .field _ test => test.toJson
  | .and conditions => .array (listToJson conditions)
  | .or conditions => .array (listToJson conditions)
  | .not condition => toJson condition

theorem putClause_eq (fields : List (String × Json)) (clause : Clause) :
    putClause fields clause = Json.setField clause.key (clauseJson clause) fields := by
  cases clause <;> rfl

theorem key_of_testClause {key : String} {value : Json} {clause : Clause}
    (h : testClause key value = .ok clause) : clause.key = key := by
  rw [testClause] at h
  split at h
  · cases h
  · obtain ⟨test, -, rfl⟩ := Outcome.map_eq_ok.mp h
    rfl

/-- Whatever stands under a key is read as a clause of that key. -/
theorem key_of_clauseOf {key : String} {value : Json} {clause : Clause}
    (h : clauseOf key value = .ok clause) : clause.key = key := by
  unfold clauseOf at h
  split at h
  · split_ifs at h with and or not
    · obtain ⟨_, -, rfl⟩ := Outcome.map_eq_ok.mp h
      exact and.symm
    · obtain ⟨_, -, rfl⟩ := Outcome.map_eq_ok.mp h
      exact or.symm
    · exact key_of_testClause h
  · split_ifs at h with list not
    · obtain ⟨_, -, rfl⟩ := Outcome.map_eq_ok.mp h
      exact not.symm
    · exact key_of_testClause h
  · split_ifs at h
    exact key_of_testClause h

/-- What is set among the fields of an object settles among its clauses. -/
theorem clausesOf_setField {fields : List (String × Json)} {settled : List Clause} {key : String}
    {value : Json} {clause : Clause} (earlier : clausesOf fields = .ok settled)
    (read : clauseOf key value = .ok clause) :
    clausesOf (Json.setField key value fields) = .ok (settle clause settled) := by
  induction fields generalizing settled with
  | nil =>
    cases earlier
    rw [Json.setField, clausesOf, read]
    rfl
  | cons field rest ih =>
    obtain ⟨k, j⟩ := field
    rw [clausesOf] at earlier
    obtain ⟨first, here, earlier⟩ := Outcome.bind_eq_ok.mp earlier
    obtain ⟨others, behind, earlier⟩ := Outcome.bind_eq_ok.mp earlier
    cases earlier
    -- a field and the clause that it is read as have one key, so both walks stop at one place
    rw [settle, key_of_clauseOf here, key_of_clauseOf read, Json.setField]
    split
    · rename_i same
      rw [clausesOf, same, read, behind]
      rfl
    · rw [clausesOf, here, ih behind]
      rfl

theorem clauseOf_test {name : String} {test : FieldTest} (back : ComesBack (name, test)) :
    clauseOf name test.toJson = .ok (.field name test) := by
  have read : testClause name test.toJson = .ok (.field name test) := by
    rw [testClause, back.1, back.2]
    rfl
  -- a name without a dollar in front is none of the words that join conditions
  have word : ∀ w, FieldTest.isDollarKey w = true → name ≠ w := by
    rintro w dollar rfl
    exact absurd dollar (by simp [back.1])
  have noAnd := word "$and" (by decide)
  have noOr := word "$or" (by decide)
  have noNot := word "$not" (by decide)
  unfold clauseOf
  split <;> simp_all

mutual

theorem clauseOf_clauseJson {clause : Clause} (back : ∀ t ∈ clauseTests clause, ComesBack t) :
    clauseOf clause.key (clauseJson clause) = .ok (collapseClause clause) := by
  cases clause with
  | field name test => exact clauseOf_test (back _ List.mem_cons_self)
  | and conditions =>
    rw [Clause.key, clauseJson, clauseOf, if_pos rfl, conditionsOf_listToJson back]
    rfl
  | or conditions =>
    rw [Clause.key, clauseJson, clauseOf, if_neg (by decide), if_pos rfl,
      conditionsOf_listToJson back]
    rfl
  | not condition =>
    have inner : clausesOf (putClauses [] condition) = .ok (collapseOnto [] condition) :=
      clausesOf_putClauses rfl back
    rw [Clause.key, clauseJson, toJson, clauseOf, if_neg (by decide), if_pos rfl, inner]
    rfl

/-- Reading the fields of clauses set one after the other collapses the clauses. -/
theorem clausesOf_putClauses {fields : List (String × Json)} {settled clauses : List Clause}
    (earlier : clausesOf fields = .ok settled) (back : ∀ t ∈ tests clauses, ComesBack t) :
    clausesOf (putClauses fields clauses) = .ok (collapseOnto settled clauses) := by
  cases clauses with
  | nil => exact earlier
  | cons clause rest =>
    rw [tests, List.forall_mem_append] at back
    rw [putClauses, putClause_eq, collapseOnto]
    exact clausesOf_putClauses (clausesOf_setField earlier (clauseOf_clauseJson back.1)) back.2

theorem conditionsOf_listToJson {conditions : List (List Clause)}
    (back : ∀ t ∈ testsOfAll conditions, ComesBack t) :
    conditionsOf (listToJson conditions) = .ok (collapseEach conditions) := by
  cases conditions with
  | nil => rfl
  | cons condition rest =>
    rw [testsOfAll, List.forall_mem_append] at back
    have here : clausesOf (putClauses [] condition) = .ok (collapseOnto [] condition) :=
      clausesOf_putClauses rfl back.1
    rw [listToJson, conditionsOf, ofJson, here, conditionsOf_listToJson back.2]
    rfl

end

/-- A condition whose tests come back comes back collapsed. -/
theorem ofJson_toJson {c : Condition} (back : ∀ t ∈ tests c, ComesBack t) :
    ofJson c.toJson = .ok c.collapse := by
  rw [toJson, ofJson]
  exact clausesOf_putClauses rfl back

/-! ## Conditions built step by step -/

/-- A condition is built step by step: from the empty one, by equalities, operators and joined
conditions that are themselves built. -/
inductive Built : Condition → Prop
  | new : Built []
  | eq {c : Condition} (name : String) (v : Value) : Built c → Built (c.eq name v)
  | op {c : Condition} (name : String) (op : Operator) (v : Value) :
    Built c → Built (c.op name op v)
  | and {c : Condition} {conditions : List Condition} :
    Built c → (∀ d ∈ conditions, Built d) → Built (c.and conditions)
  | or {c : Condition} {conditions : List Condition} :
    Built c → (∀ d ∈ conditions, Built d) → Built (c.or conditions)
  | not {c d : Condition} : Built c → Built d → Built (c.not d)

theorem tests_append (c d : List Clause) : tests (c ++ d) = tests c ++ tests d := by
  induction c with
  | nil => rfl
  | cons clause rest ih => rw [List.cons_append, tests, tests, ih, List.append_assoc]

theorem mem_testsOfAll {conditions : List (List Clause)} {t : String × FieldTest} :
    t ∈ testsOfAll conditions ↔ ∃ d ∈ conditions, t ∈ tests d := by
  induction conditions with
  | nil => simp [testsOfAll]
  | cons condition rest ih => simp [testsOfAll, ih]

/-- All tests of a condition are proper. -/
def IsProper (c : Condition) : Prop := ∀ t ∈ tests c, t.2.IsProper

theorem IsProper.append {c : Condition} {clause : Clause} (proper : IsProper c)
    (added : ∀ t ∈ clauseTests clause, t.2.IsProper) : IsProper (c ++ [clause]) := by
  rw [IsProper, tests_append, tests, tests, List.append_nil, List.forall_mem_append]
  exact ⟨proper, added⟩

theorem operator_of_mem_setOperator {op o : Operator} {v : Value} {ops : List (Operator × Value)}
    (h : o ∈ (setOperator op v ops).map Prod.fst) : o = op ∨ o ∈ ops.map Prod.fst := by
  induction ops with
  | nil => exact .inl (List.mem_singleton.mp h)
  | cons first rest ih =>
    obtain ⟨p, w⟩ := first
    rw [setOperator] at h
    split at h
    · exact .inr h
    · obtain rfl | behind := List.mem_cons.mp h
      · exact .inr List.mem_cons_self
      · exact (ih behind).imp_right (List.mem_cons_of_mem p)

theorem nodup_setOperator (op : Operator) (v : Value) {ops : List (Operator × Value)}
    (distinct : (ops.map Prod.fst).Nodup) : ((setOperator op v ops).map Prod.fst).Nodup := by
  induction ops with
  | nil => exact List.nodup_singleton op
  | cons first rest ih =>
    obtain ⟨o, w⟩ := first
    obtain ⟨fresh, apart⟩ := List.nodup_cons.mp distinct
    rw [setOperator]
    split
    · exact distinct
    · rename_i other
      refine List.nodup_cons.mpr ⟨fun there => ?_, ih apart⟩
      exact (operator_of_mem_setOperator there).elim other fresh

theorem setOperator_ne_nil (op : Operator) (v : Value) (ops : List (Operator × Value)) :
    setOperator op v ops ≠ [] := by
  cases ops with
  | nil => exact List.cons_ne_nil _ _
  | cons first rest =>
    rw [setOperator]
    split <;> exact List.cons_ne_nil _ _

/-- One more operator on a field is one more operator in a proper set, or a new set of one. -/
theorem IsProper.addOperator (name : String) (op : Operator) (v : Value) {c : Condition}
    (proper : IsProper c) : IsProper (addOperator name op v c) := by
  fun_induction Condition.addOperator name op v c with
  | case1 =>
    exact List.forall_mem_singleton.mpr ⟨List.cons_ne_nil _ _, List.nodup_singleton _⟩
  | case2 ops rest =>
    obtain ⟨here, behind⟩ := List.forall_mem_cons.mp proper
    exact List.forall_mem_cons.mpr
      ⟨⟨setOperator_ne_nil op v ops, nodup_setOperator op v here.2⟩, behind⟩
  | case3 f ops rest other ih =>
    obtain ⟨here, behind⟩ := List.forall_mem_cons.mp proper
    exact List.forall_mem_cons.mpr ⟨here, ih behind⟩
  | case4 clause rest noSet ih =>
    obtain ⟨here, behind⟩ := List.forall_mem_append.mp proper
    exact List.forall_mem_append.mpr ⟨here, ih behind⟩

theorem Built.isProper {c : Condition} (built : Built c) : IsProper c := by
  induction built with
  | new => exact fun t ht => absurd ht List.not_mem_nil
  | eq name v _ ih => exact ih.append (by simp [clauseTests, FieldTest.IsProper])
  | op name op v _ ih => exact ih.addOperator name op v
  | and _ _ ih joined =>
    refine ih.append fun t ht => ?_
    obtain ⟨d, hd, ht⟩ := mem_testsOfAll.mp ht
    exact joined d hd t ht
  | or _ _ ih joined =>
    refine ih.append fun t ht => ?_
    obtain ⟨d, hd, ht⟩ := mem_testsOfAll.mp ht
    exact joined d hd t ht
  | not _ _ ih inner => exact ih.append inner

theorem comesBack_of_isProper {c : Condition} (proper : IsProper c)
    (plain : ∀ name ∈ names c, FieldTest.isDollarKey name = false)
    (portable : ∀ u ∈ uses c, u.operand.isPortable = true) : ∀ t ∈ tests c, ComesBack t := by
  intro t ht
  obtain ⟨name, used⟩ := listed_of_mem_tests ht
  exact ⟨plain t.1 name, FieldTest.ofJson_toJson (proper t ht) fun u hu => portable u (used hu)⟩

/-- What a condition answers about a document: whether it compiles, and whether its filter is
met. -/
def answer (caseSensitive : Bool) (document : Row) (c : Condition) : Outcome Bool := do
  let f ← Document.Filter.ofCondition c
  f.meets caseSensitive document

/-- **A condition that was built comes back from its document collapsed**, when its operands have
documents of their own and no field has a dollar in front. It comes back as it was built exactly
when no level has two clauses under one key, and then it compiles and holds as before on every
document. -/
theorem built_read_back {c : Condition} (built : Built c)
    (plain : ∀ name ∈ names c, FieldTest.isDollarKey name = false)
    (portable : ∀ u ∈ uses c, u.operand.isPortable = true) :
    ofJson c.toJson = .ok c.collapse ∧ (c.collapse = c ↔ c.IsSingle) ∧
      (c.IsSingle → ∃ back, ofJson c.toJson = .ok back ∧
        ∀ (caseSensitive : Bool) (document : Row),
          back.answer caseSensitive document = c.answer caseSensitive document) := by
  have back := ofJson_toJson (comesBack_of_isProper built.isProper plain portable)
  refine ⟨back, collapse_eq_self_iff c, fun single => ⟨c.collapse, back, fun _ _ => ?_⟩⟩
  rw [(collapse_eq_self_iff c).mpr single]

/-- What may not hold of one guest together. -/
def exclusive : List Condition :=
  [Condition.eq [] "vip" (.bool true), Condition.op [] "tag" .like (.text "a%")]

/-- Guests under one clause for each field, two operators on one of them, and a denial. -/
def guests : Condition :=
  (((Condition.eq [] "name" (.text "Ada")).op "age" .gte (.int 18)).op "age" .within
    (.list [.int 18, .float ⟨false, 0x3ff8000000000000, by decide⟩, .null])).not
      (Condition.and [] exclusive)

theorem guests_built : Built guests := by
  have joined : ∀ d ∈ exclusive, Built d :=
    List.forall_mem_cons.mpr ⟨.eq _ _ .new, List.forall_mem_singleton.mpr (.op _ _ _ .new)⟩
  exact .not (.op _ _ _ (.op _ _ _ (.eq _ _ .new))) (.and .new joined)

theorem built_read_back_guests :
    Built guests ∧ (∀ name ∈ names guests, FieldTest.isDollarKey name = false) ∧
      (∀ u ∈ uses guests, u.operand.isPortable = true) ∧ guests.IsSingle ∧
      ofJson guests.toJson = .ok guests ∧
      ∃ back, ofJson guests.toJson = .ok back ∧
        ∀ (caseSensitive : Bool) (document : Row),
          back.answer caseSensitive document = guests.answer caseSensitive document := by
  have single : guests.IsSingle := by decide
  obtain ⟨back, same, answers⟩ := built_read_back guests_built (by decide) (by decide)
  rw [same.mpr single] at back
  exact ⟨guests_built, by decide, by decide, single, back, answers single⟩

/-- Two demands on one field, which no document meets. -/
def divided : Condition := (Condition.eq [] "role" (.text "admin")).eq "role" (.text "owner")

theorem second_demand_replaces_first :
    Built divided ∧ (∀ name ∈ names divided, FieldTest.isDollarKey name = false) ∧
      (∀ u ∈ uses divided, u.operand.isPortable = true) ∧
      ∃ back, ofJson divided.toJson = .ok back ∧
        back.answer true (TextMap.empty.insert "role" (.text "owner")) = .ok true ∧
        divided.answer true (TextMap.empty.insert "role" (.text "owner")) = .ok false := by
  refine ⟨.eq _ _ (.eq _ _ .new), by decide, by decide, Condition.eq [] "role" (.text "owner"), rfl,
    ?_, ?_⟩
  · decide +kernel
  · decide +kernel

end Condition

end Polystore
