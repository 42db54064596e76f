import Mathlib.Data.List.Perm.Subperm
import Polystore.Proofs.Json.Texts
import Polystore.Proofs.Value.Order
import Polystore.Proofs.Value.Proper

/-!
# Values compared from either side

Which reading two values are compared by is decided by both of them, and a document stands for its
value whichever side it is on. So nothing depends on which value comes first, down to the items of
lists. Two documents are the exception that needs an argument: their objects are compared by looking
up the fields of one among those of the other, which is symmetric only because as many fields of
distinct names on one side as on the other leave none over.
-/

namespace Polystore

theorem Binary64.same_comm (x y : Binary64) : x.same y = y.same x := by
  rw [same, same, ← x.compare_swap y]
  cases x.compare y with
  | none => rfl
  | some o => cases o <;> rfl

namespace Json

/-! ## Documents -/

/-- The fields of an object have distinct names. -/
def namesOnce : Json → Bool
  | .object fields => decide (fields.map Prod.fst).Nodup
  | _ => true

/-- In every object inside, the fields have distinct names. -/
def NamesApart (j : Json) : Prop := j.all namesOnce = true

instance (j : Json) : Decidable j.NamesApart := inferInstanceAs (Decidable (_ = _))

theorem namesApart_array_iff {items : List Json} :
    (array items).NamesApart ↔ ∀ j ∈ items, j.NamesApart := by
  show (true && allItems namesOnce items) = true ↔ _
  rw [Bool.true_and, allItems_iff]
  rfl

theorem namesApart_object_iff {fields : List (String × Json)} :
    (object fields).NamesApart ↔ (fields.map Prod.fst).Nodup ∧ ∀ f ∈ fields, f.2.NamesApart := by
  show (decide _ && allFields namesOnce fields) = true ↔ _
  rw [Bool.and_eq_true, decide_eq_true_eq, allFields_iff]
  rfl

/-- The fields on the left are the same on the right when each of them is found there. -/
theorem sameFields_iff {fields others : List (String × Json)} :
    sameFields fields others = true ↔
      ∀ f ∈ fields, ∃ j, field? f.1 others = some j ∧ f.2.same j = true := by
  induction fields with
  | nil => simp [sameFields]
  | cons field rest ih =>
    obtain ⟨key, i⟩ := field
    rw [sameFields, Bool.and_eq_true, ih, List.forall_mem_cons]
    cases field? key others <;> simp

/-- As many fields of distinct names as there are on the other side, all of which are found there,
leave none of that side over. -/
theorem exists_field_of_found {fields others : List (String × Json)}
    (apart : (fields.map Prod.fst).Nodup) (length : fields.length = others.length)
    (found : ∀ f ∈ fields, ∃ j, field? f.1 others = some j) {g : String × Json}
    (there : g ∈ others) : ∃ f ∈ fields, f.1 = g.1 := by
  have among : fields.map Prod.fst ⊆ others.map Prod.fst := by
    intro key hkey
    obtain ⟨f, hf, rfl⟩ := List.mem_map.mp hkey
    obtain ⟨j, hj⟩ := found f hf
    exact List.mem_map.mpr ⟨_, mem_of_field? hj, rfl⟩
  have all : (fields.map Prod.fst).Perm (others.map Prod.fst) := by
    refine (apart.subperm among).perm_of_length_le ?_
    rw [List.length_map, List.length_map, length]
  obtain ⟨f, hf, same⟩ := List.mem_map.mp (all.mem_iff.mpr (List.mem_map_of_mem there))
  exact ⟨f, hf, same⟩

mutual

/-- What is the same as a document has that document as the same. -/
theorem same_symm (i j : Json) (hi : i.NamesApart) (hj : j.NamesApart) (h : i.same j = true) :
    j.same i = true := by
  cases i with
  | null =>
    cases j with
    | null => rfl
    | _ => cases h
  | bool a =>
    cases j with
    | bool b => exact beq_of_eq (eq_of_beq h).symm
    | _ => cases h
  | int m =>
    cases j with
    | int n => exact beq_of_eq (eq_of_beq h).symm
    | _ => cases h
  | float x =>
    cases j with
    | float y => exact (x.same_comm y).symm.trans h
    | _ => cases h
  | text s =>
    cases j with
    | text t => exact beq_of_eq (eq_of_beq h).symm
    | _ => cases h
  | array items =>
    cases j with
    | array others =>
      exact sameItems_symm items others (namesApart_array_iff.mp hi) (namesApart_array_iff.mp hj) h
    | _ => cases h
  | object fields =>
    cases j with
    | object others =>
      obtain ⟨apart, inner⟩ := namesApart_object_iff.mp hi
      obtain ⟨apart', inner'⟩ := namesApart_object_iff.mp hj
      rw [same, Bool.and_eq_true, beq_iff_eq, sameFields_iff] at h ⊢
      obtain ⟨length, found⟩ := h
      refine ⟨length.symm, fun g there => ?_⟩
      obtain ⟨f, hf, named⟩ := exists_field_of_found apart length
        (fun f hf => (found f hf).imp fun _ h => h.1) there
      obtain ⟨j, at', same⟩ := found f hf
      obtain rfl : g.2 = j := by
        rw [named, field?_of_mem apart' there] at at'
        exact Option.some.inj at'
      refine ⟨f.2, named ▸ field?_of_mem apart hf, ?_⟩
      exact fields_symm fields inner f hf g.2 (inner' g there) same
    | _ => cases h

theorem sameItems_symm (items others : List Json) (hi : ∀ i ∈ items, i.NamesApart)
    (hj : ∀ j ∈ others, j.NamesApart) (h : sameItems items others = true) :
    sameItems others items = true := by
  cases items with
  | nil =>
    cases others with
    | nil => rfl
    | cons j others => cases h
  | cons i items =>
    cases others with
    | nil => cases h
    | cons j others =>
      rw [List.forall_mem_cons] at hi hj
      rw [sameItems, Bool.and_eq_true] at h ⊢
      exact ⟨same_symm i j hi.1 hj.1 h.1, sameItems_symm items others hi.2 hj.2 h.2⟩

theorem fields_symm (fields : List (String × Json)) (hi : ∀ f ∈ fields, f.2.NamesApart) :
    ∀ f ∈ fields, ∀ j : Json, j.NamesApart → f.2.same j = true → j.same f.2 = true := by
  cases fields with
  | nil => exact fun f there => absurd there List.not_mem_nil
  | cons field rest =>
    obtain ⟨key, i⟩ := field
    rw [List.forall_mem_cons] at hi ⊢
    exact ⟨fun j hj h => same_symm i j hi.1 hj h, fields_symm rest hi.2⟩

end

/-- **Documents are the same from either side**, if no object inside them names a field twice. -/
theorem same_comm {i j : Json} (hi : i.NamesApart) (hj : j.NamesApart) : i.same j = j.same i :=
  Bool.eq_iff_iff.mpr ⟨same_symm i j hi hj, same_symm j i hj hi⟩

/-- A document that has a text names the fields of every object apart. -/
theorem namesApart_of_isText {j : Json} (h : j.IsText) : j.NamesApart := by
  refine all_mono (fun i writable => ?_) j h
  cases i with
  | object fields => exact writable
  | _ => rfl

end Json

namespace Value

/-! ## Values -/

mutual

/-- Whether no object inside a value names a field twice. -/
def namesApart : Value → Bool
  | .list items => allNamesApart items
  | .json j => decide j.NamesApart
  | _ => true

/-- Whether no object inside the values of a list names a field twice. -/
def allNamesApart : List Value → Bool
  | [] => true
  | v :: rest => v.namesApart && allNamesApart rest

end

mutual

/-- The value of a document that names its fields apart. -/
theorem namesApart_ofJson (j : Json) (h : j.NamesApart) : (ofJson j).namesApart = true := by
  cases j with
  | array items => exact allNamesApart_ofJsonItems items (Json.namesApart_array_iff.mp h)
  | object fields => exact decide_eq_true h
  | int n =>
    rw [ofJson]
    split <;> rfl
  | _ => rfl

theorem allNamesApart_ofJsonItems (items : List Json) (h : ∀ j ∈ items, j.NamesApart) :
    allNamesApart (ofJsonItems items) = true := by
  cases items with
  | nil => rfl
  | cons j items =>
    rw [List.forall_mem_cons] at h
    rw [ofJsonItems, allNamesApart, namesApart_ofJson j h.1, allNamesApart_ofJsonItems items h.2]
    rfl

end

theorem sameInstant_comm (a b : Value) : a.sameInstant b = b.sameInstant a := by
  unfold sameInstant
  cases a.asInstant with
  | none => cases b.asInstant <;> rfl
  | some s =>
    cases b.asInstant with
    | none => rfl
    | some t => exact Bool.beq_comm

theorem sameNumber_comm (a b : Value) : a.sameNumber b = b.sameNumber a := by
  unfold sameNumber
  cases a.asNumber with
  | none => cases b.asNumber <;> rfl
  | some x =>
    cases b.asNumber with
    | none => rfl
    | some y => exact x.same_comm y

mutual

/-- **Equality by a common reading is symmetric.** -/
theorem looseEq_comm (a b : Value) (ha : a.namesApart = true) (hb : b.namesApart = true) :
    a.looseEq b = b.looseEq a := by
  cases a with
  | list items =>
    cases b with
    | list others =>
      rw [looseEq, looseEq]
      exact looseEqItems_comm items others ha hb
    | _ => simp [looseEq, sameInstant_comm, sameNumber_comm]
  | json i =>
    cases b with
    | json j =>
      rw [looseEq, looseEq]
      exact Json.same_comm (of_decide_eq_true ha) (of_decide_eq_true hb)
    | _ => simp [looseEq, sameInstant_comm]
  | text s =>
    cases b with
    | text t =>
      rw [looseEq, looseEq]
      exact Bool.beq_comm
    | _ => simp [looseEq, sameInstant_comm, sameNumber_comm]
  | _ => cases b <;> simp [looseEq, sameInstant_comm, sameNumber_comm]

theorem looseEqItems_comm (items others : List Value) (hi : allNamesApart items = true)
    (ho : allNamesApart others = true) : looseEqItems items others = looseEqItems others items := by
  cases items with
  | nil => cases others <;> simp [looseEqItems]
  | cons v items =>
    cases others with
    | nil => simp [looseEqItems]
    | cons w others =>
      rw [allNamesApart, Bool.and_eq_true] at hi ho
      rw [looseEqItems, looseEqItems, looseEq_comm v w hi.1 ho.1,
        looseEqItems_comm items others hi.2 ho.2]

end

/-- **Two values are compared alike from either side.** The order from the other side is the
reverse, and there is none when there is none from this side; sorting takes them in the reverse
order. Equality is symmetric for values inside which no object names a field twice, whatever lists
and documents they are made of; that is so of every document that was read. -/
theorem compared_from_either_side (a b : Value) :
    (a.namesApart = true → b.namesApart = true → a.looseEq b = b.looseEq a) ∧
      b.compare a = (a.compare b).map Ordering.swap ∧
      b.sortCompare a = (a.sortCompare b).swap ∧
      ∀ (s : String) (j : Json), Json.read? s = some j → (ofJson j).namesApart = true :=
  ⟨looseEq_comm a b, (compare_swap a b).symm, (sortCompare_swap a b).symm,
    fun _ j read => namesApart_ofJson j (Json.namesApart_of_isText (Json.isText_of_read? read))⟩

/-- A receipt for three of an item. -/
def receipt : Value :=
  .list [.json (.object [("item", .ofInt64 7), ("paid", .bool true)]), .text "3", .int 7]

/-- The same receipt from another hand. -/
def receiptCopy : Value :=
  .list [.json (.object [("paid", .bool true), ("item", .ofInt64 7)]), .int 3, .json (.ofInt64 7)]

theorem compared_from_either_side_receipts :
    receipt.namesApart = true ∧ receiptCopy.namesApart = true ∧
      receipt.looseEq receiptCopy = true ∧ receiptCopy.looseEq receipt = true ∧
      receiptCopy.compare receipt = none := by
  have apart : receipt.namesApart = true := by decide
  have apart' : receiptCopy.namesApart = true := by decide
  have objects : (Value.json (.object [("item", .ofInt64 7), ("paid", .bool true)])).looseEq
      (.json (.object [("paid", .bool true), ("item", .ofInt64 7)])) = true := by
    rw [looseEq]
    decide
  have counts : (Value.text "3").looseEq (.int 3) = true := by
    have numbers : sameNumber (.text "3") (.int 3) = true := by decide +kernel
    simpa [looseEq] using numbers
  have items : (Value.int 7).looseEq (.json (.ofInt64 7)) = true := by
    have numbers : (ofJson (.ofInt64 7)).looseEq (.int 7) = true := looseEq_self (.int 7) rfl
    simpa [looseEq, show (Json.ofInt64 7).isObject = false from rfl] using numbers
  have equal : receipt.looseEq receiptCopy = true := by
    rw [receipt, receiptCopy, looseEq]
    simp only [looseEqItems, objects, counts, items, Bool.and_self]
  obtain ⟨turned, compared, _⟩ := compared_from_either_side receipt receiptCopy
  exact ⟨apart, apart', equal, (turned apart apart').symm.trans equal, compared⟩

/-- An object that names a field twice has a field of the other side left over. -/
example :
    let twice : Json := .object [("a", .null), ("a", .null)]
    let once : Json := .object [("a", .null), ("b", .null)]
    twice.same once = true ∧ once.same twice = false := by decide

end Value

end Polystore
