import Mathlib.Data.Option.Basic
import Polystore.Proofs.Json.Texts
import Polystore.Proofs.Value.Proper
import Polystore.Query.Codec

/-!
# What readers of members make

A reader goes over the members of a record. Two things are said of it. What it *yields* has a
property, whatever the members are, as long as each of them has a text: each member is read on its
own, so the property of the whole is that of its parts. And from the fields of an object it *finds*
one certain record, when each part is found under its name: the fields of an object stay for the
parts behind, so every part is looked up among all of them.
-/

namespace Polystore

/-! ## Fields -/

namespace Json

@[simp] theorem field?_nil (key : String) : field? key [] = none := rfl

@[simp] theorem field?_cons (key k : String) (j : Json) (rest : List (String × Json)) :
    field? key ((k, j) :: rest) = if k = key then some j else field? key rest := rfl

/-- A field in front counts, one behind stands in for it. -/
@[simp] theorem field?_append (key : String) (front behind : List (String × Json)) :
    field? key (front ++ behind) = (field? key front).or (field? key behind) := by
  induction front with
  | nil => rfl
  | cons field rest ih =>
    rw [List.cons_append, field?, field?, ih]
    split <;> rfl

@[simp] theorem field?_optionalField (key k : String) (value : Option Json) :
    field? key (optionalField k value) = if k = key then value else none := by
  cases value with
  | none => exact (ite_self none).symm
  | some j => rfl

@[simp] theorem field?_listField (key k : String) (items : List Json) :
    field? key (listField k items) =
      if k = key ∧ items ≠ [] then some (.array items) else none := by
  cases items with
  | nil => simp [listField]
  | cons j rest => simp [listField]

/-! ## Plain documents -/

theorem asUInt64?_ofNat64 (n : UInt64) : (ofNat64 n).asUInt64? = some n := by
  have small := n.toNat_lt
  simp [asUInt64?, asNatBelow?, ofNat64, small]

theorem asUInt32?_ofNat64 (n : UInt32) : (ofNat64 n.toUInt64).asUInt32? = some n := by
  have small := n.toNat_lt
  simp [asUInt32?, asNatBelow?, ofNat64, small]

theorem asOptional?_of_ne_null {α : Type} (read : Json → Option α) {j : Json} (h : j ≠ .null) :
    asOptional? read j = (read j).map some := by
  cases j with
  | null => exact absurd rfl h
  | _ => rfl

/-- A list comes back when every item does. -/
theorem asListOf?_map {α : Type} {read : Json → Option α} {write : α → Json} {xs : List α}
    (back : ∀ x ∈ xs, read (write x) = some x) :
    asListOf? read (.array (xs.map write)) = some xs := by
  rw [asListOf?]
  induction xs with
  | nil => rfl
  | cons x xs ih =>
    rw [List.forall_mem_cons] at back
    rw [List.map_cons, List.mapM_cons, back.1, ih back.2]
    rfl

@[simp] theorem asListOf?_ofTexts (texts : List String) :
    asListOf? asText? (ofTexts texts) = some texts :=
  asListOf?_map fun _ _ => rfl

/-- Every item of a list that was read is what a document of the list was read as. -/
theorem exists_of_asListOf? {α : Type} {read : Json → Option α} {j : Json} {xs : List α}
    (text : j.IsText) (h : asListOf? read j = some xs) :
    ∀ x ∈ xs, ∃ i : Json, i.IsText ∧ read i = some x := by
  cases j with
  | array items =>
    rw [asListOf?] at h
    have texts := isText_array_iff.mp text
    induction items generalizing xs with
    | nil =>
      cases h
      simp
    | cons i items ih =>
      rw [List.forall_mem_cons] at texts
      simp only [List.mapM_cons, Option.bind_eq_bind, Option.bind_eq_some_iff] at h
      obtain ⟨x, here, ys, behind, h⟩ := h
      cases h
      refine List.forall_mem_cons.mpr ⟨⟨i, texts.1, here⟩, ?_⟩
      exact ih (isText_array_iff.mpr texts.2) behind texts.2
  | _ => cases h

end Json

namespace Members

/-- Every member has a text. -/
def AreTexts : Members → Prop
  | named fields => ∀ f ∈ fields, f.2.IsText
  | listed items => ∀ j ∈ items, j.IsText

theorem isText_of_next {m : Members} {key : String} {j : Json} (texts : m.AreTexts)
    (h : (m.next key).1 = some j) : j.IsText := by
  cases m with
  | named fields => exact texts _ (Json.mem_of_field? h)
  | listed items =>
    cases items with
    | nil => cases h
    | cons i rest =>
      cases h
      exact texts _ List.mem_cons_self

theorem AreTexts.next {m : Members} (texts : m.AreTexts) (key : String) :
    (m.next key).2.AreTexts := by
  cases m with
  | named fields => exact texts
  | listed items =>
    cases items with
    | nil => exact texts
    | cons j rest => exact fun i there => texts i (List.mem_cons_of_mem j there)

theorem areTexts_of_members? {j : Json} {m : Members} (text : j.IsText)
    (h : j.members? = some m) : m.AreTexts := by
  cases j with
  | array items =>
    cases h
    exact Json.isText_array_iff.mp text
  | object fields =>
    cases h
    exact (Json.isText_object_iff.mp text).2
  | _ => cases h

/-- The members behind a tag are those of the document. -/
theorem areTexts_of_tagged? {manner : Manner} {key kind : String} {names : List String} {j : Json}
    {m : Members} (text : j.IsText) (h : j.tagged? manner key names = some (kind, m)) :
    m.AreTexts := by
  cases j with
  | array items =>
    cases items with
    | nil => cases h
    | cons tag items =>
      obtain ⟨name, _, same⟩ := Option.map_eq_some_iff.mp h
      cases same
      exact (List.forall_mem_cons.mp (Json.isText_array_iff.mp text)).2
  | object fields =>
    obtain ⟨name, _, same⟩ := Option.bind_eq_some_iff.mp h
    cases same
    exact (Json.isText_object_iff.mp text).2
  | _ => cases h

variable {α β : Type} {key : String} {read : Json → Option α}

/-! ## What is yielded -/

/-- Whatever the reader makes of members that have texts has the property, and the members that it
leaves have texts as well. -/
def Yields (reader : Reader α) (P : α → Prop) : Prop :=
  ∀ m a rest, m.AreTexts → reader.run m = some (a, rest) → P a ∧ rest.AreTexts

section Yields

variable {P : α → Prop} {Q : β → Prop}

theorem yields_pure {a : α} (h : P a) : Yields (pure a) P := by
  intro m b rest texts ran
  cases ran
  exact ⟨h, texts⟩

theorem yields_failure : Yields (failure : Reader α) P := by
  intro m a rest _ ran
  cases ran

theorem yields_bind {reader : Reader α} {f : α → Reader β} (first : Yields reader P)
    (next : ∀ a, P a → Yields (f a) Q) : Yields (reader >>= f) Q := by
  intro m b rest texts ran
  rw [StateT.run_bind] at ran
  -- the next reader goes on with the members that the first one leaves
  obtain ⟨⟨a, behind⟩, here, ran⟩ := Option.bind_eq_some_iff.mp ran
  obtain ⟨property, texts⟩ := first m a behind texts here
  exact next a property behind b rest texts ran

/-- A member that was found and read. -/
theorem yields_of_next {m behind rest : Members} {j : Json} {a : α}
    (h : ∀ j a, j.IsText → read j = some a → P a) (texts : m.AreTexts)
    (found : m.next key = (some j, behind)) (ran : (read j).map (·, behind) = some (a, rest)) :
    P a ∧ rest.AreTexts := by
  obtain ⟨b, made, same⟩ := Option.map_eq_some_iff.mp ran
  cases same
  have left := texts.next key
  rw [found] at left
  exact ⟨h j a (isText_of_next texts (congrArg Prod.fst found)) made, left⟩

theorem yields_required (h : ∀ j a, j.IsText → read j = some a → P a) :
    Yields (required key read) P := by
  intro m a rest texts ran
  replace ran : required key read m = some (a, rest) := ran
  rw [required] at ran
  split at ran
  · rename_i found
    exact yields_of_next h texts found ran
  · cases ran

theorem yields_defaulted {default : α} (h : ∀ j a, j.IsText → read j = some a → P a)
    (otherwise : P default) : Yields (defaulted key read default) P := by
  intro m a rest texts ran
  replace ran : defaulted key read default m = some (a, rest) := ran
  rw [defaulted] at ran
  split at ran
  · rename_i found
    exact yields_of_next h texts found ran
  · rename_i missing
    have left := texts.next key
    rw [missing] at left
    cases ran
    exact ⟨otherwise, left⟩

/-- Nothing has to be known of a member to read on. -/
theorem yields_required_any : Yields (required key read) fun _ => True :=
  yields_required fun _ _ _ _ => trivial

theorem yields_defaulted_any {default : α} : Yields (defaulted key read default) fun _ => True :=
  yields_defaulted (fun _ _ _ _ => trivial) trivial

/-- An optional member that is there is not `null`. -/
theorem yields_optional (h : ∀ j a, j.IsText → j ≠ .null → read j = some a → P a) :
    Yields (optional key read) fun o => ∀ a, o = some a → P a := by
  refine yields_defaulted (fun j o text made a there => ?_) fun a there => by cases there
  subst there
  -- `null` is read as nothing, so a member that was read as something is none
  by_cases null : j = .null
  · subst null
    cases made
  · rw [Json.asOptional?_of_ne_null read null, Option.map_eq_some_iff] at made
    obtain ⟨b, made, same⟩ := made
    cases same
    exact h j a text null made

theorem Yields.readAll {reader : Reader α} {m : Members} {a : α} (yields : Yields reader P)
    (texts : m.AreTexts) (h : m.readAll reader = some a) : P a := by
  obtain ⟨⟨b, rest⟩, ran, h⟩ := Option.bind_eq_some_iff.mp h
  dsimp only at h
  split at h
  · cases h
    exact (yields m a rest texts ran).1
  · cases h

theorem Yields.record? {reader : Reader α} {j : Json} {a : α} (yields : Yields reader P)
    (text : j.IsText) (h : j.record? reader = some a) : P a := by
  obtain ⟨m, members, h⟩ := Option.bind_eq_some_iff.mp h
  exact yields.readAll (areTexts_of_members? text members) h

end Yields

/-! ## What is found -/

/-- The reader makes this of the fields of an object, which it leaves as they are. -/
def Finds (reader : Reader α) (fields : List (String × Json)) (a : α) : Prop :=
  reader.run (.named fields) = some (a, .named fields)

section Finds

variable {fields : List (String × Json)} {a : α} {b : β}

theorem finds_pure : Finds (pure a) fields a := rfl

theorem finds_bind {reader : Reader α} {f : α → Reader β} (first : Finds reader fields a)
    (next : Finds (f a) fields b) : Finds (reader >>= f) fields b := by
  rw [Finds, StateT.run_bind, first]
  exact next

theorem finds_required {j : Json} (there : Json.field? key fields = some j)
    (back : read j = some a) : Finds (required key read) fields a := by
  show required key read (.named fields) = _
  rw [required, next, there]
  show (read j).map _ = _
  rw [back]
  rfl

theorem finds_defaulted {default : α} {j : Json} (there : Json.field? key fields = some j)
    (back : read j = some a) : Finds (defaulted key read default) fields a := by
  show defaulted key read default (.named fields) = _
  rw [defaulted, next, there]
  show (read j).map _ = _
  rw [back]
  rfl

theorem finds_missing {default : α} (missing : Json.field? key fields = none) :
    Finds (defaulted key read default) fields default := by
  show defaulted key read default (.named fields) = _
  rw [defaulted, next, missing]

/-- An optional member that was written when it was there. -/
theorem finds_optional {write : α → Json} {o : Option α}
    (there : Json.field? key fields = o.map write)
    (back : ∀ a, o = some a → write a ≠ .null ∧ read (write a) = some a) :
    Finds (optional key read) fields o := by
  cases o with
  | none => exact finds_missing there
  | some a =>
    obtain ⟨notNull, back⟩ := back a rfl
    refine finds_defaulted there ?_
    rw [Json.asOptional?_of_ne_null read notNull, back]
    rfl

/-- A list that was left out when it was empty. -/
theorem finds_list {write : α → Json} {xs : List α}
    (there : Json.field? key fields =
      if xs.map write ≠ [] then some (.array (xs.map write)) else none)
    (back : ∀ x ∈ xs, read (write x) = some x) :
    Finds (defaulted key (Json.asListOf? read) []) fields xs := by
  cases xs with
  | nil => exact finds_missing there
  | cons x xs => exact finds_defaulted there (Json.asListOf?_map back)

theorem Finds.readAll {reader : Reader α} (h : Finds reader fields a) :
    readAll reader (.named fields) = some a := by
  rw [Members.readAll, h]
  rfl

theorem Finds.record? {reader : Reader α} (h : Finds reader fields a) :
    (Json.object fields).record? reader = some a := h.readAll

end Finds

end Members

end Polystore
