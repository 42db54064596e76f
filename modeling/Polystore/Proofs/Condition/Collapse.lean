import Mathlib.Data.List.Nodup
import Polystore.Condition.Basic

/-!
# Conditions with one clause under each key

A condition is a list of clauses, its document a map. Every clause has a key there: the name of its
field, or the word that joins its conditions. What a map can keep of a condition is its *collapsed*
form, at every level: a clause whose key came before replaces the earlier clause and stands in its
place. A condition is its own collapsed form exactly when no level has two clauses under one key.
-/

namespace Polystore

/-- The key under which a clause stands in a document. -/
def Clause.key : Clause → String
  | .field name _ => name
  | .and _ => "$and"
  | .or _ => "$or"
  | .not _ => "$not"

namespace Condition

/-- The clauses with one more: in the place of the first under its key, else behind them all. -/
def settle (clause : Clause) : List Clause → List Clause
  | [] => [clause]
  | c :: rest => if c.key = clause.key then clause :: rest else c :: settle clause rest

mutual

/-- A clause with the conditions that it joins collapsed. -/
def collapseClause : Clause → Clause
  | .field name test => .field name test
  | .and conditions => .and (collapseEach conditions)
  | .or conditions => .or (collapseEach conditions)
  | .not condition => .not (collapseOnto [] condition)

/-- The settled clauses with further ones collapsed and settled, one after the other. -/
def collapseOnto (settled : List Clause) : List Clause → List Clause
  | [] => settled
  | clause :: rest => collapseOnto (settle (collapseClause clause) settled) rest

/-- Conditions, each of them collapsed. -/
def collapseEach : List (List Clause) → List (List Clause)
  | [] => []
  | condition :: rest => collapseOnto [] condition :: collapseEach rest

end

/-- A condition with one clause under each key, the last one. -/
def collapse (c : Condition) : Condition := collapseOnto [] c

mutual

/-- The conditions that a clause joins, at any depth. -/
def clauseLevels : Clause → List (List Clause)
  | .field _ _ => []
  | .and conditions => levelsOfAll conditions
  | .or conditions => levelsOfAll conditions
  | .not condition => condition :: innerLevels condition

/-- The conditions that the clauses of a condition join, at any depth. -/
def innerLevels : List Clause → List (List Clause)
  | [] => []
  | clause :: rest => clauseLevels clause ++ innerLevels rest

/-- The conditions of a list, and those inside them. -/
def levelsOfAll : List (List Clause) → List (List Clause)
  | [] => []
  | condition :: rest => condition :: innerLevels condition ++ levelsOfAll rest

end

/-- A condition and all conditions inside it. -/
def levels (c : Condition) : List Condition := c :: innerLevels c

/-- The clauses of a condition stand under different keys. -/
def KeysApart (c : Condition) : Prop := (c.map Clause.key).Nodup

instance (c : Condition) : Decidable c.KeysApart :=
  inferInstanceAs (Decidable (c.map Clause.key).Nodup)

/-- At every level of a condition the clauses stand under different keys. -/
def IsSingle (c : Condition) : Prop := ∀ d ∈ levels c, KeysApart d

instance (c : Condition) : Decidable c.IsSingle :=
  inferInstanceAs (Decidable (∀ d ∈ levels c, KeysApart d))

/-! ## Settling a clause -/

/-- A clause under a new key comes last. -/
theorem settle_of_not_mem {clause : Clause} {c : List Clause}
    (fresh : clause.key ∉ c.map Clause.key) : settle clause c = c ++ [clause] := by
  induction c with
  | nil => rfl
  | cons first rest ih =>
    rw [List.map_cons, List.mem_cons, not_or] at fresh
    rw [settle, if_neg (Ne.symm fresh.1), ih fresh.2, List.cons_append]

/-- A clause under a key that is there leaves the keys as they are. -/
theorem map_key_settle_of_mem {clause : Clause} {c : List Clause}
    (there : clause.key ∈ c.map Clause.key) :
    (settle clause c).map Clause.key = c.map Clause.key := by
  induction c with
  | nil => cases there
  | cons first rest ih =>
    rw [settle]
    split
    · rename_i same
      rw [List.map_cons, List.map_cons, same]
    · rename_i other
      have behind : clause.key ∈ rest.map Clause.key :=
        (List.mem_cons.mp there).resolve_left (Ne.symm other)
      rw [List.map_cons, List.map_cons, ih behind]

theorem KeysApart.settle {c : List Clause} (clause : Clause) (apart : KeysApart c) :
    KeysApart (settle clause c) := by
  -- a key that is there keeps its place among the keys, and a new one comes behind them
  by_cases there : clause.key ∈ c.map Clause.key
  · rw [KeysApart, map_key_settle_of_mem there]
    exact apart
  · rw [KeysApart, settle_of_not_mem there, List.map_append]
    exact List.nodup_append'.mpr ⟨apart, List.nodup_singleton _, by simpa using there⟩

theorem mem_innerLevels_settle {clause : Clause} {c : List Clause} {d : List Clause}
    (h : d ∈ innerLevels (settle clause c)) : d ∈ clauseLevels clause ∨ d ∈ innerLevels c := by
  induction c with
  | nil => exact .inl (by simpa [settle, innerLevels] using h)
  | cons first rest ih =>
    rw [settle] at h
    rw [innerLevels, List.mem_append]
    split at h
    · rw [innerLevels, List.mem_append] at h
      exact h.imp_right .inr
    · rw [innerLevels, List.mem_append] at h
      obtain h | h := h
      · exact .inr (.inl h)
      · exact (ih h).imp_right .inr

/-! ## What a collapsed condition is -/

theorem isSingle_iff {c : Condition} :
    c.IsSingle ↔ KeysApart c ∧ ∀ d ∈ innerLevels c, KeysApart d :=
  List.forall_mem_cons

theorem IsSingle.settle {clause : Clause} {c : Condition}
    (inside : ∀ d ∈ clauseLevels clause, KeysApart d) (single : c.IsSingle) :
    IsSingle (Condition.settle clause c) := by
  obtain ⟨apart, inner⟩ := isSingle_iff.mp single
  refine isSingle_iff.mpr ⟨apart.settle clause, fun d hd => ?_⟩
  exact (mem_innerLevels_settle hd).elim (inside d) (inner d)

mutual

theorem keysApart_collapseClause (clause : Clause) :
    ∀ d ∈ clauseLevels (collapseClause clause), KeysApart d := by
  cases clause with
  | field name test => exact fun d hd => absurd hd List.not_mem_nil
  | and conditions => exact keysApart_collapseEach conditions
  | or conditions => exact keysApart_collapseEach conditions
  | not condition => exact isSingle_collapseOnto (by decide) condition

/-- Settling collapsed clauses never puts two of them under one key. -/
theorem isSingle_collapseOnto {settled : List Clause} (single : IsSingle settled)
    (clauses : List Clause) : IsSingle (collapseOnto settled clauses) := by
  cases clauses with
  | nil => exact single
  | cons clause rest =>
    -- one clause settles before the rest does, so the settled ones are the invariant
    exact isSingle_collapseOnto (single.settle (keysApart_collapseClause clause)) rest

theorem keysApart_collapseEach (conditions : List (List Clause)) :
    ∀ d ∈ levelsOfAll (collapseEach conditions), KeysApart d := by
  cases conditions with
  | nil => exact fun d hd => absurd hd List.not_mem_nil
  | cons condition rest =>
    rw [collapseEach, levelsOfAll, List.forall_mem_append]
    exact ⟨isSingle_collapseOnto (by decide) condition, keysApart_collapseEach rest⟩

end

mutual

theorem collapseClause_eq {clause : Clause} (inside : ∀ d ∈ clauseLevels clause, KeysApart d) :
    collapseClause clause = clause := by
  cases clause with
  | field name test => rfl
  | and conditions => rw [collapseClause, collapseEach_eq inside]
  | or conditions => rw [collapseClause, collapseEach_eq inside]
  | not condition =>
    obtain ⟨apart, inner⟩ := List.forall_mem_cons.mp inside
    rw [collapseClause, collapseOnto_eq [] apart inner, List.nil_append]

/-- Clauses under new keys settle behind the earlier ones, in their order. -/
theorem collapseOnto_eq (settled : List Clause) {clauses : List Clause}
    (apart : KeysApart (settled ++ clauses)) (inner : ∀ d ∈ innerLevels clauses, KeysApart d) :
    collapseOnto settled clauses = settled ++ clauses := by
  cases clauses with
  | nil => rw [collapseOnto, List.append_nil]
  | cons clause rest =>
    rw [innerLevels, List.forall_mem_append] at inner
    have fresh : clause.key ∉ settled.map Clause.key := by
      rw [KeysApart, List.map_append, List.map_cons, List.nodup_append'] at apart
      exact fun there => apart.2.2 there List.mem_cons_self
    -- the first clause moves over to the settled ones, and the keys of all stay the same
    rw [List.append_cons] at apart ⊢
    rw [collapseOnto, collapseClause_eq inner.1, settle_of_not_mem fresh,
      collapseOnto_eq _ apart inner.2]

theorem collapseEach_eq {conditions : List (List Clause)}
    (inside : ∀ d ∈ levelsOfAll conditions, KeysApart d) :
    collapseEach conditions = conditions := by
  cases conditions with
  | nil => rfl
  | cons condition rest =>
    rw [levelsOfAll, List.forall_mem_append, List.forall_mem_cons] at inside
    rw [collapseEach, collapseOnto_eq [] inside.1.1 inside.1.2, collapseEach_eq inside.2,
      List.nil_append]

end

/-- A condition loses nothing when it is collapsed exactly when no level has two clauses under one
key. -/
theorem collapse_eq_self_iff (c : Condition) : c.collapse = c ↔ c.IsSingle := by
  constructor
  · intro same
    have single : IsSingle c.collapse := isSingle_collapseOnto (by decide) c
    rwa [same] at single
  · intro single
    obtain ⟨apart, inner⟩ := isSingle_iff.mp single
    exact collapseOnto_eq [] apart inner

end Condition

end Polystore
