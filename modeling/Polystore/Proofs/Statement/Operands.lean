import Polystore.Proofs.Outcome
import Polystore.Statement.Render

/-!
# The places of a statement and their order

A statement mentions places for single values: those of an insertion, those that an update assigns,
and those of a filter, with the items of lists one by one. They are listed here from left to right,
by the shape of the statement alone.

That this is the order of the text is a fact about rendering. The text of a statement is a
*template*, letters with gaps in between, and the texts of the places fill the gaps one after the
other. The template is the same whatever a formatter writes for a parameter, so there is no other
order in which the parameters could be read off the text.
-/

namespace Polystore

/-! ## Places from left to right -/

namespace Operand

mutual

/-- The places for single values at a place. -/
def leaves : Operand → List Operand
  | .param index => [.param index]
  | .literal v => [.literal v]
  | .list items => itemLeaves items

/-- The places for single values at the places of a list. -/
def itemLeaves : List Operand → List Operand
  | [] => []
  | item :: rest => leaves item ++ itemLeaves rest

end

end Operand

namespace Predicate

mutual

/-- The places of a predicate. -/
def operands : Predicate → List Operand
  | .compare _ _ operand => operand.leaves
  | .isNull _ _ => []
  | .between _ low high _ => low.leaves ++ high.leaves
  | .and parts => partOperands parts
  | .or parts => partOperands parts
  | .not inner => operands inner
  | .literal _ => []

/-- The places of the parts of a predicate. -/
def partOperands : List Predicate → List Operand
  | [] => []
  | p :: rest => operands p ++ partOperands rest

end

/-- The places of a filter that may be missing. -/
def filterOperands : Option Predicate → List Operand
  | none => []
  | some p => p.operands

end Predicate

namespace Statement

/-- The places of the values that a statement writes. -/
def given : Statement → List Operand
  | .insert _ _ values => values
  | .update _ assignments _ => assignments.map (·.2)
  | _ => []

/-- The filter of a statement. -/
def filter : Statement → Option Predicate
  | .select s => s.filter
  | .update _ _ filter => filter
  | .delete _ filter => filter
  | _ => none

/-- The places of a statement for single values, those that it writes in front of those that it
compares with. -/
def operands (s : Statement) : List Operand :=
  Operand.itemLeaves s.given ++ Predicate.filterOperands s.filter

end Statement

/-! ## The numbers of parameters -/

/-- The number of the parameter at a place. -/
def Operand.index? : Operand → Option Nat
  | .param index => some index
  | _ => none

/-- The numbers of the parameters of a predicate, from left to right. -/
def Predicate.indices (p : Predicate) : List Nat := p.operands.filterMap Operand.index?

/-- The numbers of the parameters of a statement, those of the values that it writes in front of
those of its filter. -/
def Statement.indices (s : Statement) : List Nat := s.operands.filterMap Operand.index?

/-- The numbers of the parameters among the values that a statement writes. -/
def Statement.givenIndices (s : Statement) : List Nat :=
  (Operand.itemLeaves s.given).filterMap Operand.index?

theorem Statement.indices_eq (s : Statement) :
    s.indices =
      s.givenIndices ++ (Predicate.filterOperands s.filter).filterMap Operand.index? := by
  rw [indices, operands, List.filterMap_append]
  rfl

/-- The numbers are those from the first one up to the second one, which is not among them, in their
order. -/
structure Consecutive (a b : Nat) (numbers : List Nat) : Prop where
  le : a ≤ b
  eq : numbers = List.range' a (b - a)

namespace Consecutive

variable {a b c n : Nat} {xs ys : List Nat}

theorem nil (a : Nat) : Consecutive a a [] := ⟨Nat.le_refl a, by rw [Nat.sub_self]; rfl⟩

theorem single (a : Nat) : Consecutive a (a + 1) [a] :=
  ⟨Nat.le_add_right a 1, by rw [Nat.add_sub_cancel_left]; rfl⟩

theorem append (h : Consecutive a b xs) (h' : Consecutive b c ys) : Consecutive a c (xs ++ ys) := by
  obtain ⟨le, rfl⟩ := h
  obtain ⟨le', rfl⟩ := h'
  have meet : b = a + (b - a) := by omega
  have whole : c - a = b - a + (c - b) := by omega
  refine ⟨Nat.le_trans le le', ?_⟩
  rw [whole, ← List.range'_append_1, ← meet]

/-- Where one part of the numbers ends the next one begins. -/
theorem split (h : Consecutive a c (xs ++ ys)) :
    ∃ b, Consecutive a b xs ∧ Consecutive b c ys := by
  obtain ⟨le, eq⟩ := h
  obtain ⟨k, inside, left, right⟩ := List.range'_eq_append_iff.mp eq.symm
  have rest : c - a - k = c - (a + k) := by omega
  rw [Nat.mul_one, rest] at right
  refine ⟨a + k, ⟨Nat.le_add_right a k, ?_⟩, ⟨by omega, right⟩⟩
  rw [left, Nat.add_sub_cancel_left]

theorem eq_of_nil (h : Consecutive a b []) : a = b := by
  obtain ⟨le, eq⟩ := h
  have none := List.range'_eq_nil_iff.mp eq.symm
  omega

theorem eq_of_single (h : Consecutive a b [n]) : n = a ∧ b = a + 1 := by
  obtain ⟨le, eq⟩ := h
  obtain ⟨k, count⟩ : ∃ k, b - a = k + 1 := by
    refine Nat.exists_eq_succ_of_ne_zero fun none => ?_
    rw [none] at eq
    cases eq
  rw [count, List.range'_succ] at eq
  obtain ⟨same, rest⟩ := List.cons.inj eq
  have none := List.range'_eq_nil_iff.mp rest.symm
  exact ⟨same, by omega⟩

/-- Numbers that begin with zero are all the numbers below the next one. -/
theorem eq_range (h : Consecutive 0 n xs) : xs = List.range n := by
  rw [h.eq, Nat.sub_zero, List.range_eq_range']

end Consecutive

/-! ## Templates -/

/-- A part of a template: letters, or a gap. -/
inductive TemplatePart where
  | letters (s : String)
  | gap

/-- A text with gaps. -/
abbrev Template := List TemplatePart

namespace Template

/-- The number of gaps. -/
def gaps : Template → Nat
  | [] => 0
  | .letters _ :: rest => gaps rest
  | .gap :: rest => gaps rest + 1

/-- The text with texts in the gaps, one after the other. -/
def filled : Template → List String → String
  | [], _ => ""
  | .letters s :: rest, texts => s ++ filled rest texts
  | .gap :: rest, texts => texts.headD "" ++ filled rest texts.tail

theorem gaps_append (t u : Template) : gaps (t ++ u) = gaps t + gaps u := by
  induction t with
  | nil => simp [gaps]
  | cons part rest ih =>
    cases part with
    | letters s => exact ih
    | gap =>
      rw [List.cons_append, gaps, gaps, ih]
      omega

theorem filled_append {t : Template} {texts : List String} (fits : t.gaps = texts.length)
    (u : Template) (more : List String) :
    filled (t ++ u) (texts ++ more) = filled t texts ++ filled u more := by
  induction t generalizing texts with
  | nil =>
    obtain rfl : texts = [] := List.length_eq_zero_iff.mp fits.symm
    rw [List.nil_append, List.nil_append, filled, String.empty_append]
  | cons part rest ih =>
    cases part with
    | letters s =>
      rw [List.cons_append, filled, filled, ih fits, String.append_assoc]
    | gap =>
      cases texts with
      | nil => cases fits
      | cons text texts =>
        have fits : gaps rest = texts.length := Nat.succ.inj fits
        rw [List.cons_append, List.cons_append, filled, filled, List.headD_cons, List.headD_cons,
          List.tail_cons, List.tail_cons, ih fits, String.append_assoc]

end Template

namespace Formatter

/-- The formatter with something else for a parameter. -/
def withPlaceholder (f : Formatter) (placeholder : Nat → String) : Formatter :=
  { f with placeholder }

/-! ## Texts that places fill -/

/-- A text is a template that the texts of places fill, whatever stands for a parameter. -/
def Fills (f : Formatter) (places : List Operand) (text : Formatter → Outcome String) : Prop :=
  ∃ t : Template, t.gaps = places.length ∧ ∀ placeholder,
    text (f.withPlaceholder placeholder) =
      (places.mapM (Operand.render (f.withPlaceholder placeholder))).map t.filled

namespace Fills

variable {f : Formatter} {xs ys : List Operand} {r q : Formatter → Outcome String}

theorem congr (h : Fills f xs r)
    (same : ∀ placeholder, q (f.withPlaceholder placeholder) = r (f.withPlaceholder placeholder)) :
    Fills f xs q := by
  obtain ⟨t, gaps, filled⟩ := h
  exact ⟨t, gaps, fun placeholder => (same placeholder).trans (filled placeholder)⟩

/-- A text without places is a template without gaps. -/
theorem letters {s : String} (same : ∀ placeholder, r (f.withPlaceholder placeholder) = .ok s) :
    Fills f [] r := by
  refine ⟨[.letters s], rfl, fun placeholder => (same placeholder).trans ?_⟩
  show _ = Except.ok (s ++ "")
  rw [String.append_empty]

/-- A place by itself fills a gap. -/
theorem gap (place : Operand) : Fills f [place] (place.render ·) := by
  refine ⟨[.gap], rfl, fun placeholder => ?_⟩
  rw [List.mapM_cons]
  dsimp only
  cases place.render (f.withPlaceholder placeholder) with
  | error e => rfl
  | ok text =>
    show _ = Except.ok (text ++ "")
    rw [String.append_empty]

/-- Templates one after the other take the places one after the other. -/
theorem append (hr : Fills f xs r) (hq : Fills f ys q) :
    Fills f (xs ++ ys) (fun g => do
      let first ← r g
      let second ← q g
      .ok (first ++ second)) := by
  obtain ⟨t, gaps, filled⟩ := hr
  obtain ⟨u, more, filled'⟩ := hq
  refine ⟨t ++ u, ?_, fun placeholder => ?_⟩
  · rw [Template.gaps_append, gaps, more, List.length_append]
  · dsimp only
    rw [filled, filled', Outcome.mapM_append]
    cases texts : xs.mapM (Operand.render (f.withPlaceholder placeholder)) with
    | error e => rfl
    | ok first =>
      cases ys.mapM (Operand.render (f.withPlaceholder placeholder)) with
      | error e => rfl
      | ok second =>
        have fits : t.gaps = first.length := gaps.trans (Outcome.length_of_mapM texts).symm
        exact congrArg Except.ok (Template.filled_append fits u second).symm

/-- Letters in front of a template make a template. -/
theorem behind (h : Fills f xs r) (before : String) :
    Fills f xs (fun g => (r g).map fun text => before ++ text) := by
  refine ((letters (f := f) (r := fun _ => .ok before) fun _ => rfl).append h).congr
    fun placeholder => ?_
  cases r (f.withPlaceholder placeholder) <;> rfl

/-- Letters around a template make a template. -/
theorem around (h : Fills f xs r) (before after : String) :
    Fills f xs (fun g => (r g).map fun text => before ++ text ++ after) := by
  have closed := (h.behind before).append (letters (f := f) (r := fun _ => .ok after) fun _ => rfl)
  rw [List.append_nil] at closed
  refine closed.congr fun placeholder => ?_
  cases r (f.withPlaceholder placeholder) <;> rfl

/-- Templates with a separator between them. -/
theorem joined {α : Type} {items : List α} {places : α → List Operand}
    {text : α → Formatter → Outcome String} (h : ∀ x ∈ items, Fills f (places x) (text x))
    (separator : String) :
    Fills f (items.flatMap places)
      (fun g => (items.mapM (text · g)).map (Text.joined separator)) := by
  induction items with
  | nil => exact letters fun _ => rfl
  | cons x rest ih =>
    have first := h x List.mem_cons_self
    -- the last item has no separator behind it
    cases rest with
    | nil =>
      rw [List.flatMap_cons, List.flatMap_nil, List.append_nil]
      refine first.congr fun placeholder => ?_
      rw [List.mapM_cons]
      cases text x (f.withPlaceholder placeholder) <;> rfl
    | cons y rest =>
      have behind := ih fun z hz => h z (List.mem_cons_of_mem x hz)
      rw [List.flatMap_cons]
      refine ((first.around "" separator).append behind).congr fun placeholder => ?_
      rw [List.mapM_cons]
      cases text x (f.withPlaceholder placeholder) with
      | error e => rfl
      | ok here =>
        cases others : (y :: rest).mapM (text · (f.withPlaceholder placeholder)) with
        | error e => rfl
        | ok texts =>
          -- the separator is there because another text is
          obtain ⟨_, _, _, _, rfl⟩ := Outcome.mapM_cons_eq_ok.mp others
          show _ = Except.ok ("" ++ here ++ separator ++ _)
          rw [String.empty_append]
          rfl

end Fills

end Formatter

open Formatter

/-! ## Places and predicates -/

namespace Operand

theorem itemLeaves_eq_flatMap (items : List Operand) : itemLeaves items = items.flatMap leaves := by
  induction items with
  | nil => rfl
  | cons item rest ih => rw [itemLeaves, ih, List.flatMap_cons]

theorem renderItems_eq_mapM (f : Formatter) (items : List Operand) :
    renderItems f items = items.mapM (render f) := by
  induction items with
  | nil => rfl
  | cons item rest ih =>
    rw [renderItems, ih, List.mapM_cons]
    rfl

mutual

/-- The text of a place is filled by its places for single values. -/
theorem render_fills (f : Formatter) (place : Operand) :
    Fills f place.leaves (place.render ·) := by
  cases place with
  | param index => exact Fills.gap _
  | literal v => exact Fills.gap _
  | list items =>
    rw [leaves, itemLeaves_eq_flatMap]
    refine ((Fills.joined (items_fill f items) ", ").around "(" ")").congr fun placeholder => ?_
    rw [render, renderItems_eq_mapM]
    cases items.mapM (render (f.withPlaceholder placeholder)) <;> rfl

theorem items_fill (f : Formatter) (items : List Operand) :
    ∀ item ∈ items, Fills f item.leaves (item.render ·) := by
  cases items with
  | nil => simp
  | cons item rest =>
    intro other ho
    rcases List.mem_cons.mp ho with same | ho
    · rw [same]
      exact render_fills f item
    · exact items_fill f rest other ho

end

end Operand

namespace Predicate

theorem partOperands_eq_flatMap (parts : List Predicate) :
    partOperands parts = parts.flatMap operands := by
  induction parts with
  | nil => rfl
  | cons p rest ih => rw [partOperands, ih, List.flatMap_cons]

theorem renderParts_eq_mapM (f : Formatter) (parts : List Predicate) :
    renderParts f parts = parts.mapM (render f) := by
  induction parts with
  | nil => rfl
  | cons p rest ih =>
    rw [renderParts, ih, List.mapM_cons]
    rfl

/-- An empty list has no places, and no text either. -/
theorem leaves_of_isEmptyList {operand : Operand} (h : operand.isEmptyList = true) :
    operand.leaves = [] := by
  cases operand with
  | param index => cases h
  | literal v => cases h
  | list items =>
    cases items with
    | nil => rfl
    | cons item rest => cases h

variable {f : Formatter}

theorem joinedParts_fills {parts : List Predicate}
    (h : ∀ p ∈ parts, Fills f p.operands (p.render ·)) (word : String) (truth : Bool) :
    Fills f (partOperands parts)
      (fun g => (renderParts g parts).map (joinedParts word truth)) := by
  cases parts with
  | nil => exact Fills.letters fun _ => rfl
  | cons p rest =>
    rw [partOperands_eq_flatMap]
    refine (Fills.joined (fun q hq => (h q hq).around "(" ")") word).congr fun placeholder => ?_
    rw [renderParts_eq_mapM, Outcome.mapM_map]
    cases texts : (p :: rest).mapM (render (f.withPlaceholder placeholder)) with
    | error e => rfl
    | ok texts =>
      obtain ⟨_, _, _, _, rfl⟩ := Outcome.mapM_cons_eq_ok.mp ‹_›
      rfl

mutual

/-- The text of a predicate is filled by its places. -/
theorem render_fills (f : Formatter) (p : Predicate) : Fills f p.operands (p.render ·) := by
  cases p with
  | compare column op operand =>
    rw [operands]
    simp only [render]
    split
    · rename_i empty
      rw [leaves_of_isEmptyList (Bool.and_eq_true_iff.mp empty).2]
      exact Fills.letters fun _ => rfl
    · split
      · rename_i empty
        rw [leaves_of_isEmptyList (Bool.and_eq_true_iff.mp empty).2]
        exact Fills.letters fun _ => rfl
      · refine ((operand.render_fills f).behind
          (f.quoteName column ++ " " ++ op.spelling ++ " ")).congr fun placeholder => ?_
        cases operand.render (f.withPlaceholder placeholder) <;> rfl
  | isNull column negated =>
    refine Fills.letters (s := f.quoteName column ++ (if negated then " IS NOT NULL" else " IS NULL"))
      fun _ => ?_
    rw [render]
    rfl
  | between column low high negated =>
    rw [operands]
    refine (((low.render_fills f).around (f.quoteName column ++
      (if negated then " NOT BETWEEN " else " BETWEEN ")) " AND ").append
        (high.render_fills f)).congr fun placeholder => ?_
    rw [render]
    cases low.render (f.withPlaceholder placeholder) with
    | error e => rfl
    | ok first => cases high.render (f.withPlaceholder placeholder) <;> rfl
  | and parts => exact joinedParts_fills (parts_fill f parts) " AND " true
  | or parts => exact joinedParts_fills (parts_fill f parts) " OR " false
  | not inner => exact (render_fills f inner).around "NOT (" ")"
  | literal truth => exact Fills.letters fun _ => rfl

theorem parts_fill (f : Formatter) (parts : List Predicate) :
    ∀ p ∈ parts, Fills f p.operands (p.render ·) := by
  cases parts with
  | nil => simp
  | cons p rest =>
    intro other ho
    rcases List.mem_cons.mp ho with same | ho
    · rw [same]
      exact render_fills f p
    · exact parts_fill f rest other ho

end

theorem whereClause_fills (f : Formatter) (filter : Option Predicate) :
    Fills f (filterOperands filter) (whereClause · filter) := by
  cases filter with
  | none => exact Fills.letters fun _ => rfl
  | some p =>
    exact (render_fills f p).behind " WHERE "

end Predicate

/-! ## Statements -/

namespace Formatter

variable (f : Formatter) (placeholder : Nat → String)

mutual

/-- A literal has no parameter in it. -/
theorem literal_withPlaceholder (v : Value) :
    (f.withPlaceholder placeholder).literal v = f.literal v := by
  cases v with
  | list items =>
    rw [literal, literal, literals_withPlaceholder items]
  | _ => rfl

theorem literals_withPlaceholder (items : List Value) :
    literals (f.withPlaceholder placeholder) items = literals f items := by
  cases items with
  | nil => rfl
  | cons v rest =>
    rw [literals, literals, literal_withPlaceholder v, literals_withPlaceholder rest]

end

theorem columnDef_withPlaceholder (d : ColumnDef) :
    (f.withPlaceholder placeholder).columnDef d = f.columnDef d := by
  have declared : (f.withPlaceholder placeholder).defaultValue = f.defaultValue := by
    funext v
    cases v with
    | list items => rfl
    | _ => exact literal_withPlaceholder f placeholder _
  unfold columnDef
  rw [declared]
  rfl

theorem createTable_withPlaceholder (table : String) (columns : List ColumnDef)
    (ifNotExists : Bool) :
    (f.withPlaceholder placeholder).createTable table columns ifNotExists =
      f.createTable table columns ifNotExists := by
  unfold createTable
  rw [funext (columnDef_withPlaceholder f placeholder)]
  rfl

theorem alterTable_withPlaceholder (table : String) (alterations : List Alteration) :
    (f.withPlaceholder placeholder).alterTable table alterations =
      f.alterTable table alterations := by
  have same (a : Alteration) :
      (f.withPlaceholder placeholder).alteration a = f.alteration a := by
    cases a with
    | add name column => rw [alteration, alteration, columnDef_withPlaceholder]
    | _ => rfl
  unfold alterTable
  rw [funext same]
  rfl

end Formatter

namespace Statement

/-- The text of a statement that writes or compares values is filled by its places. -/
theorem fills_insert (f : Formatter) (table : String) (columns : List String)
    (values : List Operand) :
    Fills f (insert table columns values).operands (render · (insert table columns values)) := by
  have texts := Fills.joined (fun o (_ : o ∈ values) => o.render_fills f) ", "
  show Fills f (Operand.itemLeaves values ++ []) _
  rw [List.append_nil, Operand.itemLeaves_eq_flatMap]
  refine (texts.around
    ("INSERT INTO " ++ f.quoteName table ++ " (" ++ f.names columns ++ ") VALUES (") ")").congr
      fun placeholder => ?_
  rw [render]
  cases values.mapM (Operand.render (f.withPlaceholder placeholder)) <;> rfl

theorem fills_update (f : Formatter) (table : String) (assignments : List (String × Operand))
    (condition : Option Predicate) :
    Fills f (update table assignments condition).operands
      (render · (update table assignments condition)) := by
  have sets : Fills f (assignments.flatMap fun a => a.2.leaves)
      (fun g => (assignments.mapM (assignmentText g)).map (Text.joined ", ")) := by
    refine Fills.joined (fun a _ => ?_) ", "
    refine ((a.2.render_fills f).behind (f.quoteName a.1 ++ " = ")).congr fun placeholder => ?_
    rw [assignmentText]
    cases a.2.render (f.withPlaceholder placeholder) <;> rfl
  show Fills f (Operand.itemLeaves (assignments.map (·.2)) ++ Predicate.filterOperands condition) _
  rw [Operand.itemLeaves_eq_flatMap, List.flatMap_map]
  refine ((sets.behind ("UPDATE " ++ f.quoteName table ++ " SET ")).append
    (Predicate.whereClause_fills f condition)).congr fun placeholder => ?_
  rw [render]
  cases assignments.mapM (assignmentText (f.withPlaceholder placeholder)) with
  | error e => rfl
  | ok texts => cases Predicate.whereClause (f.withPlaceholder placeholder) condition <;> rfl

theorem fills_delete (f : Formatter) (table : String) (condition : Option Predicate) :
    Fills f (delete table condition).operands (render · (delete table condition)) := by
  refine ((Predicate.whereClause_fills f condition).behind
    ("DELETE FROM " ++ f.quoteName table)).congr fun placeholder => ?_
  rw [render]
  cases Predicate.whereClause (f.withPlaceholder placeholder) condition <;> rfl

theorem fills_select (f : Formatter) (q : SelectStatement) :
    Fills f (select q).operands (render · (select q)) := by
  let fields := if q.fields.isEmpty then "*" else f.names q.fields
  let groups := if q.groupBy.isEmpty then "" else " GROUP BY " ++ f.names q.groupBy
  let orders := if q.orderBy.isEmpty then ""
    else " ORDER BY " ++ Text.joined ", " (q.orderBy.map (SelectStatement.sortKeyText f))
  let paging := if q.limit.isNone && q.offset.isNone then "" else " " ++ f.paging q.limit q.offset
  refine ((Predicate.whereClause_fills f q.filter).around
    ("SELECT " ++ fields ++ " FROM " ++ f.quoteName q.table) (groups ++ orders ++ paging)).congr
      fun placeholder => ?_
  rw [render, SelectStatement.render]
  cases Predicate.whereClause (f.withPlaceholder placeholder) q.filter with
  | error e => rfl
  | ok tail =>
    show _ = Except.ok (_ ++ (groups ++ orders ++ paging))
    rw [← String.append_assoc, ← String.append_assoc]
    rfl

/-- The text of a statement is a template that the texts of its places fill, one after the other.
The template, or the error of a default that has no text, is the same whatever stands for a
parameter. -/
def IsFilled (f : Formatter) (s : Statement) : Prop :=
  ∃ t : Outcome Template,
    (∀ template, t = .ok template → template.gaps = s.operands.length) ∧
    ∀ placeholder, s.render (f.withPlaceholder placeholder) = t.bind fun template =>
      (s.operands.mapM (Operand.render (f.withPlaceholder placeholder))).map template.filled

theorem isFilled_of_fills {f : Formatter} {s : Statement} (h : Fills f s.operands (render · s)) :
    IsFilled f s := by
  obtain ⟨t, gaps, texts⟩ := h
  refine ⟨.ok t, fun template same => ?_, texts⟩
  cases same
  exact gaps

/-- A statement without places has one text. -/
theorem isFilled_of_plain {f : Formatter} {s : Statement} (none : s.operands = [])
    (same : ∀ placeholder, s.render (f.withPlaceholder placeholder) = s.render f) :
    IsFilled f s := by
  rw [IsFilled, none]
  refine ⟨(s.render f).map fun text => [.letters text], fun template made => ?_,
    fun placeholder => ?_⟩
  · obtain ⟨text, _, rfl⟩ := Outcome.map_eq_ok.mp made
    rfl
  · rw [same]
    cases s.render f with
    | error e => rfl
    | ok text =>
      show _ = Except.ok (text ++ "")
      rw [String.append_empty]

/-- **The places of a statement fill its text in their order.** -/
theorem isFilled (f : Formatter) (s : Statement) : IsFilled f s := by
  cases s with
  | createTable table columns ifNotExists =>
    exact isFilled_of_plain rfl fun _ => createTable_withPlaceholder f _ table columns ifNotExists
  | createIndex table index columns unique ifNotExists => exact isFilled_of_plain rfl fun _ => rfl
  | insert table columns values => exact isFilled_of_fills (fills_insert f table columns values)
  | select q => exact isFilled_of_fills (fills_select f q)
  | update table assignments condition =>
    exact isFilled_of_fills (fills_update f table assignments condition)
  | delete table condition => exact isFilled_of_fills (fills_delete f table condition)
  | alterTable table alterations =>
    exact isFilled_of_plain rfl fun _ => alterTable_withPlaceholder f _ table alterations
  | dropTable table ifExists => exact isFilled_of_plain rfl fun _ => rfl
  | dropIndex table index ifExists => exact isFilled_of_plain rfl fun _ => rfl

end Statement

end Polystore
