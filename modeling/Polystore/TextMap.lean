/-!
# Maps with text keys

A finite map from texts to values, held as the list of its bindings in strictly ascending order of
keys. The order is part of the type, so two maps with the same bindings are equal, and whatever
goes through a map goes through it by keys.
-/

namespace Polystore

/-- Bindings in strictly ascending order of keys. -/
def Ascending {α : Type} (entries : List (String × α)) : Prop :=
  entries.Pairwise fun a b => a.1 < b.1

/-- A finite map from texts to values. -/
structure TextMap (α : Type) where
  /-- The bindings by ascending keys. -/
  entries : List (String × α)
  ascending : Ascending entries := by exact List.Pairwise.nil

namespace TextMap

variable {α β : Type}

/-- The map without bindings. -/
def empty : TextMap α := ⟨[], List.Pairwise.nil⟩

instance : Inhabited (TextMap α) := ⟨empty⟩

instance : EmptyCollection (TextMap α) := ⟨empty⟩

/-- The value that a list of bindings gives to a key first. -/
def find (key : String) : List (String × α) → Option α
  | [] => none
  | (k, v) :: rest => if k = key then some v else find key rest

/-- The bindings with one of them set. -/
def put (key : String) (value : α) : List (String × α) → List (String × α)
  | [] => [(key, value)]
  | (k, v) :: rest =>
    if key < k then (key, value) :: (k, v) :: rest
    else if k = key then (key, value) :: rest
    else (k, v) :: put key value rest

/-- Setting a binding adds no key but its own. -/
theorem mem_put {key : String} {value : α} {entries : List (String × α)} {b : String × α}
    (h : b ∈ put key value entries) : b = (key, value) ∨ b ∈ entries := by
  induction entries with
  | nil => simpa [put] using h
  | cons e rest ih =>
    obtain ⟨k, v⟩ := e
    rw [put] at h
    split at h
    · simpa using h
    · split at h
      · rcases List.mem_cons.1 h with h | h
        · exact .inl h
        · exact .inr (List.mem_cons_of_mem _ h)
      · rcases List.mem_cons.1 h with h | h
        · exact .inr (h ▸ List.mem_cons_self)
        · exact (ih h).imp id (List.mem_cons_of_mem _)

/-- Setting a binding keeps the keys in order. -/
theorem ascending_put {key : String} {value : α} {entries : List (String × α)}
    (h : Ascending entries) : Ascending (put key value entries) := by
  induction entries with
  | nil => simp [put, Ascending]
  | cons e rest ih =>
    obtain ⟨k, v⟩ := e
    have ⟨below, tail⟩ := List.pairwise_cons.1 h
    rw [put]
    split
    · rename_i lt
      refine List.pairwise_cons.2 ⟨?_, h⟩
      intro b hb
      rcases List.mem_cons.1 hb with rfl | hb
      · exact lt
      · exact String.lt_trans lt (below b hb)
    · rename_i notLt
      split
      · rename_i eq
        exact List.pairwise_cons.2 ⟨fun b hb => eq ▸ below b hb, tail⟩
      · rename_i ne
        refine List.pairwise_cons.2 ⟨?_, ih tail⟩
        intro b hb
        rcases mem_put hb with rfl | hb
        · rcases Decidable.em (k < key) with lt | ge
          · exact lt
          · exact absurd (String.le_antisymm (String.not_lt.1 notLt) (String.not_lt.1 ge)) ne
        · exact below b hb

/-- The value of a key. -/
def get? (m : TextMap α) (key : String) : Option α := find key m.entries

/-- Whether a key is bound. -/
def contains (m : TextMap α) (key : String) : Bool := (m.get? key).isSome

/-- The map with one binding set. -/
def insert (m : TextMap α) (key : String) (value : α) : TextMap α :=
  ⟨put key value m.entries, ascending_put m.ascending⟩

/-- The map without the binding of a key. -/
def erase (m : TextMap α) (key : String) : TextMap α :=
  ⟨m.entries.filter (·.1 ≠ key), m.ascending.filter _⟩

/-- The bindings that a test accepts. -/
def filter (p : String → α → Bool) (m : TextMap α) : TextMap α :=
  ⟨m.entries.filter fun b => p b.1 b.2, m.ascending.filter _⟩

/-- The map with every value replaced by what a function makes of it. -/
def map (f : α → β) (m : TextMap α) : TextMap β :=
  ⟨m.entries.map fun b => (b.1, f b.2),
    by simpa only [Ascending, List.pairwise_map] using m.ascending⟩

/-- The bindings of a list, a later one in place of an earlier one of the same key. -/
def ofList (bindings : List (String × α)) : TextMap α :=
  bindings.foldl (fun m b => m.insert b.1 b.2) empty

/-- The keys in ascending order. -/
def keys (m : TextMap α) : List String := m.entries.map (·.1)

/-- The values in the order of their keys. -/
def values (m : TextMap α) : List α := m.entries.map (·.2)

/-- How many keys are bound. -/
def size (m : TextMap α) : Nat := m.entries.length

/-- Whether no key is bound. -/
def isEmpty (m : TextMap α) : Bool := m.entries.isEmpty

/-- Whether a test accepts every binding. -/
def all (m : TextMap α) (p : String → α → Bool) : Bool := m.entries.all fun b => p b.1 b.2

/-- The bindings of both maps, those of the second in place of those of the first. -/
def union (m other : TextMap α) : TextMap α :=
  other.entries.foldl (fun m b => m.insert b.1 b.2) m

/-! ## What a key is bound to -/

@[simp] theorem get?_empty (key : String) : (empty : TextMap α).get? key = none := rfl

theorem find_put_self (key : String) (value : α) (entries : List (String × α)) :
    find key (put key value entries) = some value := by
  induction entries with
  | nil => simp [put, find]
  | cons e rest ih =>
    obtain ⟨k, v⟩ := e
    rw [put]
    split
    · simp [find]
    · split
      · simp [find]
      · rename_i ne; simpa [find, ne] using ih

theorem find_put_of_ne {key other : String} (ne : key ≠ other) (value : α)
    (entries : List (String × α)) :
    find other (put key value entries) = find other entries := by
  induction entries with
  | nil => simp [put, find, ne]
  | cons e rest ih =>
    obtain ⟨k, v⟩ := e
    rw [put]
    split
    · simp [find, ne]
    · split
      · rename_i eq; simp [find, ne, eq]
      · simp only [find, ih]

/-- A key is bound to the value that was set for it. -/
@[simp] theorem get?_insert_self (m : TextMap α) (key : String) (value : α) :
    (m.insert key value).get? key = some value :=
  find_put_self key value m.entries

/-- Setting a binding leaves the other keys alone. -/
theorem get?_insert_of_ne {key other : String} (ne : key ≠ other) (m : TextMap α) (value : α) :
    (m.insert key value).get? other = m.get? other :=
  find_put_of_ne ne value m.entries

theorem get?_insert (m : TextMap α) (key other : String) (value : α) :
    (m.insert key value).get? other = if key = other then some value else m.get? other := by
  split
  · rename_i eq; subst eq; simp
  · rename_i ne; exact get?_insert_of_ne ne m value

theorem find_filter_ne (key other : String) (entries : List (String × α)) :
    find other (entries.filter (·.1 ≠ key)) = if key = other then none else find other entries := by
  induction entries with
  | nil => simp [find]
  | cons e rest ih =>
    obtain ⟨k, v⟩ := e
    by_cases hk : k = key
    · subst hk
      rw [List.filter_cons_of_neg (by simp), ih, find]
      split <;> rfl
    · rw [List.filter_cons_of_pos (by simpa using hk), find, find, ih]
      by_cases ho : k = other
      · rw [if_pos ho, if_pos ho, if_neg fun e => hk (ho.trans e.symm)]
      · rw [if_neg ho, if_neg ho]

/-- Without the binding of a key, the other keys are bound as before. -/
theorem get?_erase (m : TextMap α) (key other : String) :
    (m.erase key).get? other = if key = other then none else m.get? other :=
  find_filter_ne key other m.entries

/-! ## Keys and bindings -/

theorem mem_of_find {key : String} {value : α} {entries : List (String × α)}
    (h : find key entries = some value) : (key, value) ∈ entries := by
  induction entries with
  | nil => cases h
  | cons e rest ih =>
    obtain ⟨k, v⟩ := e
    rw [find] at h
    split at h
    · rename_i eq
      cases h
      exact eq ▸ List.mem_cons_self
    · exact List.mem_cons_of_mem _ (ih h)

/-- What a key is bound to stands among the bindings. -/
theorem mem_of_get? {m : TextMap α} {key : String} {value : α} (h : m.get? key = some value) :
    (key, value) ∈ m.entries :=
  mem_of_find h

theorem isSome_find_iff (key : String) (entries : List (String × α)) :
    (find key entries).isSome = true ↔ key ∈ entries.map (·.1) := by
  induction entries with
  | nil => simp [find]
  | cons e rest ih =>
    obtain ⟨k, v⟩ := e
    rw [find, List.map_cons, List.mem_cons, ← ih]
    by_cases hk : k = key
    · simp [hk]
    · rw [if_neg hk]
      exact ⟨.inr, fun h => h.resolve_left fun e => hk e.symm⟩

/-- The bound keys are the keys. -/
theorem mem_keys_iff {m : TextMap α} {key : String} : key ∈ m.keys ↔ m.contains key = true :=
  (isSome_find_iff key m.entries).symm

theorem contains_insert (m : TextMap α) (key other : String) (value : α) :
    (m.insert key value).contains other = true ↔ key = other ∨ m.contains other = true := by
  rw [contains, contains, get?_insert]
  split
  · rename_i eq
    simp [eq]
  · rename_i ne
    exact ⟨.inr, fun h => h.resolve_left ne⟩

theorem contains_erase (m : TextMap α) (key other : String) :
    (m.erase key).contains other = true ↔ key ≠ other ∧ m.contains other = true := by
  rw [contains, contains, get?_erase]
  split
  · rename_i eq
    simp [eq]
  · rename_i ne
    exact ⟨fun h => ⟨ne, h⟩, fun h => h.2⟩

/-! ## Equal maps -/

theorem find_eq_none_of_below {key : String} {entries : List (String × α)}
    (below : ∀ b ∈ entries, key < b.1) : find key entries = none := by
  induction entries with
  | nil => rfl
  | cons e rest ih =>
    obtain ⟨k, v⟩ := e
    have ne : k ≠ key := by
      rintro rfl
      exact String.lt_irrefl k (below (k, v) List.mem_cons_self)
    rw [find, if_neg ne]
    exact ih fun b hb => below b (List.mem_cons_of_mem _ hb)

/-- The least key of ascending bindings is not beyond a key that is bound. -/
theorem not_lt_of_find {key k : String} {v w : α} {rest : List (String × α)}
    (h : Ascending ((k, v) :: rest)) (bound : find key ((k, v) :: rest) = some w) : ¬key < k := by
  intro lt
  have below : ∀ b ∈ (k, v) :: rest, key < b.1 := by
    intro b hb
    rcases List.mem_cons.mp hb with rfl | hb
    · exact lt
    · exact String.lt_trans lt ((List.pairwise_cons.mp h).1 b hb)
  rw [find_eq_none_of_below below] at bound
  cases bound

/-- Ascending bindings are known by what they give to each key. -/
theorem eq_of_find {xs ys : List (String × α)} (hx : Ascending xs) (hy : Ascending ys)
    (same : ∀ key, find key xs = find key ys) : xs = ys := by
  induction xs generalizing ys with
  | nil =>
    cases ys with
    | nil => rfl
    | cons b ys => simpa [find] using same b.1
  | cons a xs ih =>
    cases ys with
    | nil => simpa [find] using same a.1
    | cons b ys =>
      obtain ⟨k, v⟩ := a
      obtain ⟨l, w⟩ := b
      have first : find k ((k, v) :: xs) = some v := by simp [find]
      have second : find l ((l, w) :: ys) = some w := by simp [find]
      obtain rfl : k = l := by
        refine String.le_antisymm ?_ ?_
        · exact String.not_lt.mp (not_lt_of_find hx ((same l).trans second))
        · exact String.not_lt.mp (not_lt_of_find hy ((same k).symm.trans first))
      obtain rfl : v = w := Option.some.inj ((first.symm.trans (same k)).trans second)
      obtain ⟨belowX, hx⟩ := List.pairwise_cons.mp hx
      obtain ⟨belowY, hy⟩ := List.pairwise_cons.mp hy
      rw [ih hx hy fun key => ?_]
      by_cases eq : k = key
      · subst eq
        rw [find_eq_none_of_below belowX, find_eq_none_of_below belowY]
      · simpa [find, eq] using same key

theorem eq_of_entries {m other : TextMap α} (same : m.entries = other.entries) : m = other := by
  cases m
  cases other
  cases same
  rfl

/-- Maps that bind the same keys to the same values are equal. -/
theorem ext {m other : TextMap α} (same : ∀ key, m.get? key = other.get? key) : m = other :=
  eq_of_entries (eq_of_find m.ascending other.ascending same)

/-! ## Maps with more keys, or fewer -/

/-- A binding says what its key is bound to. -/
theorem get?_of_mem {m : TextMap α} {key : String} {value : α} (h : (key, value) ∈ m.entries) :
    m.get? key = some value := by
  obtain ⟨entries, ascending⟩ := m
  show find key entries = some value
  induction entries with
  | nil => cases h
  | cons e rest ih =>
    obtain ⟨k, v⟩ := e
    obtain ⟨below, ascending⟩ := List.pairwise_cons.mp ascending
    rcases List.mem_cons.mp h with same | h
    · cases same
      rw [find, if_pos rfl]
    · have ne : k ≠ key := by
        rintro rfl
        exact String.lt_irrefl k (below (k, value) h)
      rw [find, if_neg ne]
      exact ih ascending h

/-- What is left of a map was there before. -/
theorem get?_of_filter {m : TextMap α} {p : String → α → Bool} {key : String} {value : α}
    (h : (m.filter p).get? key = some value) : m.get? key = some value :=
  get?_of_mem (List.mem_filter.mp (mem_of_get? h)).1

/-- Setting a binding that is there changes nothing. -/
theorem insert_of_get? {m : TextMap α} {key : String} {value : α} (h : m.get? key = some value) :
    m.insert key value = m := by
  refine ext fun other => ?_
  rw [get?_insert]
  split
  · rename_i same
    rw [← same, h]
  · rfl

/-- Of two bindings of one key the later one counts. -/
theorem insert_insert (m : TextMap α) (key : String) (first second : α) :
    (m.insert key first).insert key second = m.insert key second := by
  refine ext fun other => ?_
  rw [get?_insert, get?_insert, get?_insert]
  split <;> rfl

theorem get?_foldl_insert {entries : List (String × α)} (ascending : Ascending entries)
    (m : TextMap α) (key : String) :
    (entries.foldl (fun m b => m.insert b.1 b.2) m).get? key =
      (find key entries).or (m.get? key) := by
  induction entries generalizing m with
  | nil => rfl
  | cons e rest ih =>
    obtain ⟨k, v⟩ := e
    obtain ⟨below, ascending⟩ := List.pairwise_cons.mp ascending
    rw [List.foldl_cons, ih ascending, get?_insert, find]
    by_cases same : k = key
    · subst same
      rw [find_eq_none_of_below below, if_pos rfl, if_pos rfl]
      rfl
    · rw [if_neg same, if_neg same]

/-- In two maps together the second one decides. -/
theorem get?_union (m other : TextMap α) (key : String) :
    (m.union other).get? key = (other.get? key).or (m.get? key) :=
  get?_foldl_insert other.ascending m key

/-- A map is made of its bindings. -/
theorem ofList_entries (m : TextMap α) : ofList m.entries = m := by
  refine ext fun key => ?_
  rw [ofList, get?_foldl_insert m.ascending, get?_empty, Option.or_none]
  rfl

/-! ## What all bindings have -/

/-- All bindings have a property. -/
def Each (m : TextMap α) (P : String → α → Prop) : Prop :=
  ∀ key value, m.get? key = some value → P key value

section

variable {m : TextMap α} {P Q : String → α → Prop} {key : String} {value : α}

theorem Each.imp (h : m.Each P) (weaker : ∀ key value, P key value → Q key value) : m.Each Q :=
  fun key value bound => weaker key value (h key value bound)

theorem each_empty (P : String → α → Prop) : (empty : TextMap α).Each P := by
  intro key value bound
  cases bound

theorem Each.insert (h : m.Each P) (new : P key value) : (m.insert key value).Each P := by
  intro other v bound
  rw [get?_insert] at bound
  split at bound
  · rename_i same
    subst same
    cases bound
    exact new
  · exact h other v bound

theorem Each.foldl_insert {bindings : List (String × α)} (h : m.Each P)
    (new : ∀ b ∈ bindings, P b.1 b.2) :
    (bindings.foldl (fun m b => m.insert b.1 b.2) m).Each P := by
  induction bindings generalizing m with
  | nil => exact h
  | cons b rest ih =>
    obtain ⟨here, behind⟩ := List.forall_mem_cons.mp new
    exact ih (h.insert here) behind

theorem each_ofList {bindings : List (String × α)} (h : ∀ b ∈ bindings, P b.1 b.2) :
    (ofList bindings).Each P :=
  (each_empty P).foldl_insert h

theorem Each.filter (h : m.Each P) (p : String → α → Bool) : (m.filter p).Each P :=
  fun other v bound => h other v (get?_of_filter bound)

theorem Each.erase (h : m.Each P) (key : String) : (m.erase key).Each P :=
  h.filter fun k _ => k ≠ key

/-- What is bound, or else a value that has the property for every key. -/
theorem Each.getD (h : m.Each P) (key : String) {otherwise : α} (new : P key otherwise) :
    P key ((m.get? key).getD otherwise) := by
  cases bound : m.get? key with
  | none => exact new
  | some v => exact h key v bound

/-- A map whose values were replaced has a property that holds of what is made of each. -/
theorem each_map {β : Type} {f : α → β} {R : String → β → Prop} :
    (m.map f).Each R ↔ m.Each fun key value => R key (f value) := by
  constructor
  · intro h key value bound
    exact h key (f value) (get?_of_mem (List.mem_map.mpr ⟨(key, value), mem_of_get? bound, rfl⟩))
  · intro h key w bound
    obtain ⟨⟨k, v⟩, mem, same⟩ := List.mem_map.mp (mem_of_get? bound)
    cases same
    exact h k v (get?_of_mem mem)

/-- All bindings have a property when the list of bindings has it. -/
theorem each_iff : m.Each P ↔ ∀ b ∈ m.entries, P b.1 b.2 :=
  ⟨fun h b mem => h b.1 b.2 (get?_of_mem mem), fun h _ _ bound => h _ (mem_of_get? bound)⟩

end

/-! ## Maps without a key -/

section

variable {key other : String}

theorem erase_map (m : TextMap α) (f : α → β) (key : String) :
    (m.map f).erase key = (m.erase key).map f :=
  eq_of_entries List.filter_map

theorem filter_filter_comm (m : TextMap α) (p q : String → α → Bool) :
    (m.filter p).filter q = (m.filter q).filter p := by
  refine eq_of_entries ?_
  simp only [filter, List.filter_filter, Bool.and_comm]

theorem erase_filter (m : TextMap α) (p : String → α → Bool) (key : String) :
    (m.filter p).erase key = (m.erase key).filter p :=
  filter_filter_comm m p fun k _ => k ≠ key

theorem erase_erase_comm (m : TextMap α) (key other : String) :
    (m.erase key).erase other = (m.erase other).erase key :=
  filter_filter_comm m (fun k _ => k ≠ key) fun k _ => k ≠ other

theorem contains_erase_of_ne (ne : key ≠ other) (m : TextMap α) :
    (m.erase key).contains other = m.contains other := by
  rw [contains, get?_erase, if_neg ne, contains]

theorem erase_insert_of_ne (ne : key ≠ other) (m : TextMap α) (value : α) :
    (m.insert key value).erase other = (m.erase other).insert key value := by
  refine ext fun third => ?_
  rw [get?_erase, get?_insert, get?_insert, get?_erase]
  by_cases same : key = third
  · have apart : other ≠ third := fun h => ne (same.trans h.symm)
    rw [if_neg apart, if_pos same, if_pos same]
  · rw [if_neg same, if_neg same]

theorem erase_of_not_contains {m : TextMap α} (free : m.contains key = false) :
    m.erase key = m := by
  refine ext fun other => ?_
  rw [get?_erase]
  split
  · rename_i same
    rw [contains, ← Bool.not_eq_true, Option.not_isSome_iff_eq_none, same] at free
    exact free.symm
  · rfl

/-- What is bound first goes with the key. -/
theorem erase_insert (m : TextMap α) (key : String) (value : α) :
    (m.insert key value).erase key = m.erase key := by
  refine ext fun other => ?_
  rw [get?_erase, get?_erase, get?_insert]
  split <;> rfl

/-- What was bound anew is taken out again. -/
theorem erase_insert_self {m : TextMap α} (free : m.contains key = false) (value : α) :
    (m.insert key value).erase key = m :=
  (erase_insert m key value).trans (erase_of_not_contains free)

end

end TextMap

end Polystore
