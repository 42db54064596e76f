import Polystore.Proofs.Condition.Predicates
import Polystore.Proofs.Relational.Refusals

/-!
# The values that queries bind

A query holds values and its statement holds numbers, and the two meet again only when the statement
runs. So the number that stands at a place has to be the position at which the value of that place
was put down. The values of a query are listed here in the order in which the query is read: what is
written in front of what is compared, a condition from left to right, a list item by item. The
statement has the numbers from zero on at its places, from left to right, and its values are those
of the query in their order.

The induction goes along the compilation of conditions, which takes the first free number and gives
the values that it bound: behind it, the free numbers begin as many further on as there are values.
-/

namespace Polystore

/-! ## What is bound, in the order of reading -/

/-- The values that an operator on a field binds: the items of a list, and none for a comparison
with `null`, which is made without a value. -/
def Condition.Use.boundValues (u : Condition.Use) : List Value :=
  if u.op.takesList then u.operand.asList.getD []
  else if u.operand.isNull && (u.op == .eq || u.op == .ne) then []
  else [u.operand]

/-- The values that a condition binds, from left to right. -/
def Condition.boundValues (c : Condition) : List Value :=
  (Condition.uses c).flatMap Condition.Use.boundValues

/-- The values that a query binds: those that it writes, then those that it compares with. -/
def Query.boundValues : Query → List Value
  | .select s => (s.conditions.getD []).boundValues
  | .insert _ data => data.values
  | .update _ changes conditions => changes.values ++ (conditions.getD []).boundValues
  | .delete _ conditions => (conditions.getD []).boundValues
  | _ => []

namespace Relational

open Outcome Condition

/-! ## Numbered places -/

theorem parametersFrom_append (first : Nat) (xs ys : List Value) :
    parametersFrom first (xs ++ ys) =
      parametersFrom first xs ++ parametersFrom (first + xs.length) ys := by
  induction xs generalizing first with
  | nil => rfl
  | cons v xs ih =>
    have shifted : first + 1 + xs.length = first + (v :: xs).length := by
      rw [List.length_cons]
      omega
    rw [List.cons_append, parametersFrom, parametersFrom, ih, shifted, List.cons_append]

theorem parametersFrom_eq_range' (first : Nat) (vs : List Value) :
    parametersFrom first vs = (List.range' first vs.length).map .param := by
  induction vs generalizing first with
  | nil => rfl
  | cons v vs ih =>
    rw [parametersFrom, ih, List.length_cons, List.range'_succ, List.map_cons]

theorem parametersFrom_zero (vs : List Value) :
    parametersFrom 0 vs = (List.range vs.length).map .param := by
  rw [parametersFrom_eq_range', List.range_eq_range']

/-- Numbered places are places for single values. -/
theorem itemLeaves_parametersFrom (first : Nat) (vs : List Value) :
    Operand.itemLeaves (parametersFrom first vs) = parametersFrom first vs := by
  induction vs generalizing first with
  | nil => rfl
  | cons v vs ih =>
    rw [parametersFrom, Operand.itemLeaves, ih]
    rfl

theorem length_parametersFrom (first : Nat) (vs : List Value) :
    (parametersFrom first vs).length = vs.length := by
  rw [parametersFrom_eq_range', List.length_map, List.length_range']

/-- Under the values that were put down every number has its value. -/
theorem resolve_of_mem_parametersFrom (pre post : List Value) {items : List Value}
    {operand : Operand}
    (h : operand ∈ parametersFrom pre.length items) :
    ∃ v, operand.resolve (pre ++ items ++ post) = .ok v := by
  rw [parametersFrom_eq_range', List.mem_map] at h
  obtain ⟨i, range, rfl⟩ := h
  have inside : i < (pre ++ items ++ post).length := by
    have bounds := List.mem_range'_1.mp range
    rw [List.length_append, List.length_append]
    omega
  rw [Operand.resolve, List.getElem?_eq_getElem inside]
  exact ⟨_, rfl⟩

/-! ## Compiled conditions -/

theorem partOperands_append (ps qs : List Predicate) :
    Predicate.partOperands (ps ++ qs) =
      Predicate.partOperands ps ++ Predicate.partOperands qs := by
  rw [Predicate.partOperands_eq_flatMap, Predicate.partOperands_eq_flatMap,
    Predicate.partOperands_eq_flatMap, List.flatMap_append]

/-- Neither the conjunction that is made of parts nor the parts that are left alone add places. -/
theorem operands_allOf (ps : List Predicate) :
    (Predicate.allOf ps).operands = Predicate.partOperands ps := by
  match ps with
  | [] => rfl
  | [p] => exact (List.append_nil p.operands).symm
  | p :: q :: rest => rfl

theorem operands_nestedPredicate (ps : List Predicate) :
    (nestedPredicate ps).operands = Predicate.partOperands ps := by
  unfold nestedPredicate
  split
  · rename_i empty
    rw [List.isEmpty_iff.mp empty]
    rfl
  · exact operands_allOf ps

variable {first : Nat} {bound : List Value} {ps : List Predicate}

theorem compileOperator_binds {name : String} {op : Operator} {v : Value} {p : Predicate}
    (h : compileOperator first name op v = .ok (p, bound)) :
    bound = Use.boundValues ⟨name, op, v⟩ ∧ p.operands = parametersFrom first bound := by
  unfold compileOperator at h
  unfold Use.boundValues
  dsimp only
  split at h
  · rename_i takes
    rw [if_pos takes]
    split at h
    · cases h
    · -- an empty list is a constant
      rename_i items
      cases h
      rw [items]
      exact ⟨rfl, rfl⟩
    · rename_i items
      cases h
      rw [items]
      exact ⟨rfl, itemLeaves_parametersFrom first bound⟩
  · rename_i single
    rw [if_neg single]
    split at h
    · rename_i null
      cases h
      rw [if_pos null]
      exact ⟨rfl, rfl⟩
    · rename_i some
      cases h
      rw [if_neg some]
      exact ⟨rfl, rfl⟩

/-- The places of one part and then of the next are numbered through. -/
theorem operands_append {qs : List Predicate} {more : List Value}
    (here : Predicate.partOperands ps = parametersFrom first bound)
    (behind : Predicate.partOperands qs = parametersFrom (first + bound.length) more) :
    Predicate.partOperands (ps ++ qs) = parametersFrom first (bound ++ more) := by
  rw [partOperands_append, here, behind, parametersFrom_append]

theorem compileOperators_binds {name : String} {ops : List (Operator × Value)}
    (h : compileOperators first name ops = .ok (ps, bound)) :
    bound = (ops.map fun o => (⟨name, o.1, o.2⟩ : Use)).flatMap Use.boundValues ∧
      Predicate.partOperands ps = parametersFrom first bound := by
  induction ops generalizing first bound ps with
  | nil =>
    cases h
    exact ⟨rfl, rfl⟩
  | cons o ops ih =>
    obtain ⟨op, v⟩ := o
    rw [compileOperators] at h
    obtain ⟨⟨p, b⟩, hp, h⟩ := bind_eq_ok.mp h
    obtain ⟨⟨qs, more⟩, hq, h⟩ := bind_eq_ok.mp h
    cases h
    obtain ⟨rfl, here⟩ := compileOperator_binds hp
    obtain ⟨rfl, behind⟩ := ih hq
    have single : Predicate.partOperands [p] = parametersFrom first _ :=
      (List.append_nil p.operands).trans here
    exact ⟨rfl, operands_append single behind⟩

theorem compileTest_binds {name : String} {test : FieldTest}
    (h : compileTest first name test = .ok (ps, bound)) :
    bound = (usesOfTest name test).flatMap Use.boundValues ∧
      Predicate.partOperands ps = parametersFrom first bound := by
  cases test with
  | equals v => exact compileOperators_binds h
  | operators ops => exact compileOperators_binds h

mutual

theorem compileClause_binds {clause : Clause} {first : Nat} {bound : List Value}
    {ps : List Predicate} (h : compileClause first clause = .ok (ps, bound)) :
    bound = (clauseUses clause).flatMap Use.boundValues ∧
      Predicate.partOperands ps = parametersFrom first bound := by
  cases clause with
  | field name test => exact compileTest_binds h
  | and conditions =>
    obtain ⟨⟨parts, b⟩, hparts, h⟩ := bind_eq_ok.mp h
    cases h
    obtain ⟨values, places⟩ := compileConditions_binds hparts
    exact ⟨values, (List.append_nil _).trans places⟩
  | or conditions =>
    obtain ⟨⟨parts, b⟩, hparts, h⟩ := bind_eq_ok.mp h
    cases h
    obtain ⟨values, places⟩ := compileConditions_binds hparts
    exact ⟨values, (List.append_nil _).trans places⟩
  | not condition =>
    obtain ⟨⟨parts, b⟩, hparts, h⟩ := bind_eq_ok.mp h
    cases h
    obtain ⟨values, places⟩ := compileClauses_binds hparts
    rw [← operands_nestedPredicate] at places
    exact ⟨values, (List.append_nil _).trans places⟩

/-- Clauses bind their values from left to right and have their numbers at their places. -/
theorem compileClauses_binds {clauses : List Clause} {first : Nat} {bound : List Value}
    {ps : List Predicate} (h : compileClauses first clauses = .ok (ps, bound)) :
    bound = (uses clauses).flatMap Use.boundValues ∧
      Predicate.partOperands ps = parametersFrom first bound := by
  cases clauses with
  | nil =>
    cases h
    exact ⟨rfl, rfl⟩
  | cons clause rest =>
    rw [compileClauses] at h
    obtain ⟨⟨ps, b⟩, hp, h⟩ := bind_eq_ok.mp h
    obtain ⟨⟨qs, more⟩, hq, h⟩ := bind_eq_ok.mp h
    cases h
    obtain ⟨rfl, here⟩ := compileClause_binds hp
    obtain ⟨rfl, behind⟩ := compileClauses_binds hq
    rw [uses, List.flatMap_append]
    exact ⟨rfl, operands_append here behind⟩

theorem compileConditions_binds {conditions : List (List Clause)} {first : Nat}
    {bound : List Value} {ps : List Predicate}
    (h : compileConditions first conditions = .ok (ps, bound)) :
    bound = (usesOfAll conditions).flatMap Use.boundValues ∧
      Predicate.partOperands ps = parametersFrom first bound := by
  cases conditions with
  | nil =>
    cases h
    exact ⟨rfl, rfl⟩
  | cons condition rest =>
    rw [compileConditions] at h
    obtain ⟨⟨parts, b⟩, hp, h⟩ := bind_eq_ok.mp h
    obtain ⟨⟨qs, more⟩, hq, h⟩ := bind_eq_ok.mp h
    cases h
    obtain ⟨rfl, here⟩ := compileClauses_binds hp
    obtain ⟨rfl, behind⟩ := compileConditions_binds hq
    rw [← operands_nestedPredicate] at here
    have single : Predicate.partOperands [nestedPredicate parts] = parametersFrom first _ :=
      (List.append_nil _).trans here
    rw [usesOfAll, List.flatMap_append]
    exact ⟨rfl, operands_append single behind⟩

end

theorem compileFilter_binds {conditions : Option Condition} {p : Option Predicate}
    (h : compileFilter first conditions = .ok (p, bound)) :
    bound = (conditions.getD []).boundValues ∧
      Predicate.filterOperands p = parametersFrom first bound := by
  cases conditions with
  | none =>
    cases h
    exact ⟨rfl, rfl⟩
  | some c =>
    obtain ⟨⟨parts, b⟩, hparts, h⟩ := bind_eq_ok.mp h
    cases h
    obtain ⟨values, places⟩ := compileClauses_binds hparts
    refine ⟨values, ?_⟩
    split
    · rename_i empty
      rw [List.isEmpty_iff.mp empty] at places
      exact places
    · exact (operands_allOf parts).trans places

/-- A compiled filter is evaluated without an error under its values. -/
theorem compileFilter_evaluates (pre post : List Value) {conditions : Option Condition}
    {p : Option Predicate} (h : compileFilter pre.length conditions = .ok (p, bound))
    (caseSensitive : Bool) (row : Row) :
    ∃ held, meets (pre ++ bound ++ post) caseSensitive p row = .ok held := by
  cases conditions with
  | none =>
    cases h
    exact ⟨true, rfl⟩
  | some c => exact ⟨_, compileFrom_meets pre post caseSensitive row h⟩

/-! ## Compiled queries -/

variable {q : Query} {b : Bound Statement}

/-- An update that is compiled sets the numbers from zero on, and filters behind them. -/
theorem compile_update_eq_ok {table : String} {changes : Row} {conditions : Option Condition}
    (h : compile (.update table changes conditions) = .ok b) :
    ∃ filter bound, compileFilter changes.values.length conditions = .ok (filter, bound) ∧
      b = ⟨.update table (changes.keys.zip (parametersFrom 0 changes.values)) filter,
        changes.values ++ bound⟩ := by
  unfold compile at h
  dsimp only at h
  split at h
  · cases h
  · obtain ⟨⟨filter, bound⟩, compiled, h⟩ := bind_eq_ok.mp h
    exact ⟨filter, bound, compiled, (Except.ok.inj h).symm⟩

/-- Every column that is set has one number. -/
theorem given_update (table : String) (changes : Row) (filter : Option Predicate) :
    (Statement.update table (changes.keys.zip (parametersFrom 0 changes.values)) filter).given =
      parametersFrom 0 changes.values := by
  refine List.map_snd_zip ?_
  rw [length_parametersFrom, TextMap.keys, TextMap.values, List.length_map, List.length_map]

theorem compile_binds (h : compile q = .ok b) :
    b.params = q.boundValues ∧ b.query.operands = parametersFrom 0 b.params := by
  cases q with
  | create _ _ | dropTable _ | dropIndex _ _ | createIndex _ _ _ _ =>
    cases h
    exact ⟨rfl, rfl⟩
  | select s =>
    obtain ⟨⟨filter, bound⟩, compiled, h⟩ := bind_eq_ok.mp h
    cases h
    exact compileFilter_binds compiled
  | insert table data =>
    cases h
    exact ⟨rfl, (List.append_nil _).trans (itemLeaves_parametersFrom 0 data.values)⟩
  | update table changes conditions =>
    obtain ⟨filter, bound, compiled, rfl⟩ := compile_update_eq_ok h
    obtain ⟨rfl, places⟩ := compileFilter_binds compiled
    refine ⟨rfl, ?_⟩
    rw [Statement.operands, given_update, itemLeaves_parametersFrom, parametersFrom_append,
      Nat.zero_add]
    exact congrArg _ places
  | delete table conditions =>
    obtain ⟨⟨filter, bound⟩, compiled, h⟩ := bind_eq_ok.mp h
    cases h
    exact compileFilter_binds compiled
  | alter table alterations =>
    rw [compile] at h
    split at h
    · cases h
    · cases h
      exact ⟨rfl, rfl⟩

/-- The places that a compiled query writes and the filter of it need no value but those of it. -/
theorem compile_resolves (h : compile q = .ok b) :
    (∀ operand ∈ b.query.given, ∃ v, operand.resolve b.params = .ok v) ∧
      ∀ caseSensitive row, ∃ held,
        meets b.params caseSensitive b.query.filter row = .ok held := by
  have unfiltered (params : List Value) (caseSensitive : Bool) (row : Row) :
      ∃ held, meets params caseSensitive none row = .ok held := ⟨true, rfl⟩
  have nothing (params : List Value) :
      ∀ operand ∈ ([] : List Operand), ∃ v, operand.resolve params = .ok v := nofun
  have filtered {conditions : Option Condition} {filter : Option Predicate} {bound : List Value}
      (compiled : compileFilter 0 conditions = .ok (filter, bound)) (caseSensitive : Bool)
      (row : Row) : ∃ held, meets bound caseSensitive filter row = .ok held := by
    have evaluated := compileFilter_evaluates [] [] compiled caseSensitive row
    rw [List.nil_append, List.append_nil] at evaluated
    exact evaluated
  cases q with
  | create _ _ | dropTable _ | dropIndex _ _ | createIndex _ _ _ _ =>
    cases h
    exact ⟨nothing _, unfiltered _⟩
  | select s =>
    obtain ⟨⟨filter, bound⟩, compiled, h⟩ := bind_eq_ok.mp h
    cases h
    exact ⟨nothing _, filtered compiled⟩
  | insert table data =>
    cases h
    refine ⟨fun operand ho => ?_, unfiltered _⟩
    have resolved := resolve_of_mem_parametersFrom [] [] ho
    rw [List.nil_append, List.append_nil] at resolved
    exact resolved
  | update table changes conditions =>
    obtain ⟨filter, bound, compiled, rfl⟩ := compile_update_eq_ok h
    constructor
    · rw [given_update]
      exact fun operand ho => resolve_of_mem_parametersFrom [] bound ho
    · intro caseSensitive row
      have evaluated := compileFilter_evaluates changes.values [] compiled caseSensitive row
      rw [List.append_nil] at evaluated
      exact evaluated
  | delete table conditions =>
    obtain ⟨⟨filter, bound⟩, compiled, h⟩ := bind_eq_ok.mp h
    cases h
    exact ⟨nothing _, filtered compiled⟩
  | alter table alterations =>
    rw [compile] at h
    split at h
    · cases h
    · cases h
      exact ⟨nothing _, unfiltered _⟩

/-- An error that is not about the values that a statement was given. -/
def AboutOther (e : Error) : Prop :=
  (∀ i, e ≠ ExecutionError.missingParameter i) ∧ ∀ context, e ≠ ExecutionError.notAnArray context

theorem structural_aboutOther : Structural AboutOther where
  tableNotFound _ := ⟨nofun, nofun⟩
  tableExists _ := ⟨nofun, nofun⟩
  columnNotFound _ _ := ⟨nofun, nofun⟩
  columnExists _ _ := ⟨nofun, nofun⟩
  indexNotFound _ _ := ⟨nofun, nofun⟩
  indexExists _ _ := ⟨nofun, nofun⟩
  constraint _ _ := ⟨nofun, nofun⟩
  multipleAutoIncrement _ := ⟨nofun, nofun⟩
  columnCountMismatch _ _ := ⟨nofun, nofun⟩
  invalidStatement _ _ := ⟨nofun, nofun⟩

theorem compile_runs (h : compile q = .ok b) (s : Store) (config : Config) :
    FailsOnly AboutOther (s.run config b.query b.params).1 := by
  obtain ⟨resolved, evaluated⟩ := compile_resolves h
  refine Store.run_failsOnly
    (onShare_failsOnly structural_aboutOther (fun _ _ _ => ⟨nofun, nofun⟩) ?_ ?_)
  · intro operand ho
    obtain ⟨v, same⟩ := resolved operand ho
    rw [same]
    exact failsOnly_ok v
  · intro row
    obtain ⟨held, same⟩ := evaluated config.caseSensitiveLike row
    rw [same]
    exact failsOnly_ok held

/-- The texts of numbered places are what stands for their parameters. -/
theorem render_parameters (f : Formatter) (n : Nat) :
    ((List.range n).map Operand.param).mapM (Operand.render f) =
      .ok ((List.range n).map fun k => f.placeholder (k + 1)) := by
  rw [List.mapM_map]
  exact mapM_eq_ok fun _ _ => rfl

/-- **A compiled query binds its values in order.** The places of the statement for single values are
the parameters from zero on, from left to right, as many as there are values; the values are those
of the query in the order of reading. The text of the statement, in every formatter, has what stands
for these parameters in this order, between letters that do not depend on it. So the statement never
fails for a missing parameter or for a list that is none, on whatever store it runs. -/
theorem compile_binds_in_order (h : compile q = .ok b) :
    b.query.operands = (List.range b.params.length).map .param ∧
      b.params = q.boundValues ∧
      (∀ f : Formatter, ∃ t : Outcome Template,
        (∀ template, t = .ok template → template.gaps = b.params.length) ∧
        ∀ placeholder, b.query.render (f.withPlaceholder placeholder) = t.map fun template =>
          template.filled ((List.range b.params.length).map fun k => placeholder (k + 1))) ∧
      ∀ (s : Store) (config : Config) (e : Error), (s.run config b.query b.params).1 = .error e →
        (∀ i, e ≠ ExecutionError.missingParameter i) ∧
          ∀ context, e ≠ ExecutionError.notAnArray context := by
  obtain ⟨values, places⟩ := compile_binds h
  rw [parametersFrom_zero] at places
  refine ⟨places, values, fun f => ?_, fun s config e failed => compile_runs h s config e failed⟩
  obtain ⟨t, gaps, texts⟩ := b.query.isFilled f
  refine ⟨t, fun template made => ?_, fun placeholder => ?_⟩
  · rw [gaps template made, places, List.length_map, List.length_range]
  · rw [texts, places]
    cases t with
    | error e => rfl
    | ok template =>
      show Except.map _ (((List.range b.params.length).map Operand.param).mapM _) = _
      rw [render_parameters]
      rfl

/-- One item of a small stock is labelled anew: the first of those on some shelves that is not empty
and has one of two labels. -/
def relabelled : Query :=
  .update "items" (TextMap.ofList [("label", .text "bolt"), ("seen", .bool true)]) <| some
    [.field "shelf" (.operators [(.within, .list [.text "A", .text "B"]), (.ne, .null)]),
      .or [[.field "count" (.operators [(.gt, .int 0), (.within, .list [])])],
        [.not [.field "label" (.equals (.text "nut"))]]]]

/-- The values that are set come first, then the items of the list, and the comparisons with `null`
and with an empty list bind nothing. -/
theorem compile_binds_in_order_relabelled :
    ∃ b, compile relabelled = .ok b ∧
      b.params = [.text "bolt", .bool true, .text "A", .text "B", .int 0, .text "nut"] ∧
      b.query.operands = (List.range 6).map .param ∧
      ∀ (s : Store) (e : Error), (s.run .standard b.query b.params).1 = .error e →
        (∀ i, e ≠ ExecutionError.missingParameter i) ∧
          ∀ context, e ≠ ExecutionError.notAnArray context := by
  obtain ⟨b, made⟩ : ∃ b, compile relabelled = .ok b := ⟨_, rfl⟩
  obtain ⟨places, values, _, runs⟩ := compile_binds_in_order made
  have bound : b.params =
      [.text "bolt", .bool true, .text "A", .text "B", .int 0, .text "nut"] := by
    rw [values]
    cbv
  rw [bound] at places
  exact ⟨b, made, bound, places, fun s => runs s .standard⟩

end Relational

end Polystore
