import Polystore.Proofs.Sql.Values
import Polystore.Proofs.Sql.Written

/-!
# Changed and removed rows are read back

A filter is written as a clause behind the head of its statement, and an update shows its parameters
in front of those of its filter. Both kinds of statement read back with the filter as it is read
back by itself.
-/

namespace Polystore.Sql

/-- Finished texts with clauses behind them are finished. -/
theorem Finished.tail {cs : List Char} (h : Finished cs) {clauses : List (String × String)}
    (clausal : Clausal clauses) : Finished (cs ++ tailText clauses) := by
  induction clauses generalizing cs with
  | nil =>
    rw [tailText, List.flatMap_nil, List.append_nil]
    exact h
  | cons clause clauses ih =>
    obtain ⟨_, ts, phrase⟩ := clausal clause List.mem_cons_self
    have longer : Finished (cs ++ (' ' :: (clause.1.toList ++ [' ']) ++ clause.2.toList)) := by
      refine ⟨h.tight.append phrase.tight _, ?_⟩
      rw [← List.append_assoc, getLast?_append_of_tight phrase.tight]
      exact phrase.openEnded
    have whole := ih longer fun c hc => clausal c (List.mem_cons_of_mem clause hc)
    simpa [tailText] using whole

/-! ## Filters -/

/-- The clauses are those of the filter, whose first parameter has the number `a`; `b` is that of
the parameter behind its last. -/
inductive Filters : Nat → Option Predicate → List (String × String) → Nat → Prop
  | absent (a : Nat) : Filters a none [] a
  | present {a b : Nat} {p : Predicate} {body : String} {ts : List Token} :
    Phrase body.toList ts → parsePredicate a body.toList = .ok (p.reread, b) →
    Filters a (some p) [("WHERE", body)] b

theorem Filters.clausal {a b : Nat} {filter : Option Predicate} {clauses : List (String × String)}
    (h : Filters a filter clauses b) : Clausal clauses := by
  intro c hc
  cases h with
  | absent => exact nomatch hc
  | present phrase _ =>
    rw [List.mem_singleton.mp hc]
    exact ⟨List.mem_cons_self, _, phrase⟩

/-- A filter that can be written is written as a clause that reads back. -/
theorem exists_filters {a : Nat} {filter : Option Predicate}
    (h : ∀ p ∈ filter, ∃ b, p.Written a b) :
    ∃ text clauses b, Predicate.whereClause Formatter.memory filter = .ok text ∧
      text.toList = tailText clauses ∧ Filters a filter clauses b := by
  cases filter with
  | none => exact ⟨"", [], a, rfl, rfl, .absent a⟩
  | some p =>
    obtain ⟨b, written⟩ := h p rfl
    obtain ⟨body, rendered, ts, phrase, derives⟩ := exists_spells written
    refine ⟨" WHERE " ++ body, [("WHERE", body)], b, ?_, ?_, ?_⟩
    · rw [Predicate.whereClause, rendered]
      rfl
    · simp [tailText, String.toList_append]
    · exact .present phrase (parsePredicate_of_derives phrase.tokenize_eq derives)

/-- The clauses as the reader names them. -/
def namedClauses (clauses : List (String × String)) : List (String × List Char) :=
  clauses.map fun c => (Text.asciiLower c.1, c.2.toList)

theorem Filters.read {a b : Nat} {filter : Option Predicate} {clauses : List (String × String)}
    (h : Filters a filter clauses b) (statement : String) (text : List Char) :
    readFilterFrom statement text a none (namedClauses clauses) =
      .ok (filter.map Predicate.reread) := by
  cases h with
  | absent => rfl
  | @present _ p body ts phrase parsed =>
    have name : Text.asciiLower "WHERE" = "where" := by decide
    rw [namedClauses, List.map_singleton, name, readFilterFrom]
    show (parsePredicate a body.toList >>= _) = _
    rw [parsed]
    rfl

/-! ## Removed rows -/

variable {table : String}

/-- The removal of rows reads back. -/
theorem readStatement_delete (htable : Quotable table) {filter : Option Predicate}
    (h : ∀ p ∈ filter, ∃ b, p.Written 0 b) :
    ∃ text, (Statement.delete table filter).render Formatter.memory = .ok text ∧
      readStatement text = .ok (.delete table (filter.map Predicate.reread)) := by
  obtain ⟨tail, clauses, b, rendered, tailed, filters⟩ := exists_filters h
  refine ⟨"DELETE FROM " ++ Formatter.memory.quoteName table ++ tail, ?_, ?_⟩
  · rw [Statement.render, rendered]
    rfl
  · have shown : ("DELETE FROM " ++ Formatter.memory.quoteName table ++ tail).toList =
        "DELETE FROM ".toList ++
          ((Formatter.memory.quoteName table).toList ++ tailText clauses) := by
      rw [String.toList_append, String.toList_append, tailed, List.append_assoc]
    have finished : Finished ("DELETE FROM ".toList ++
        ((Formatter.memory.quoteName table).toList ++ tailText clauses)) :=
      ((phrase_name htable).finished.tail filters.clausal).behind (by decide) _
    have words : ∀ rest, lowerWords ("DELETE FROM ".toList ++ rest) =
        "delete" :: "from" :: lowerWords rest := fun _ => rfl
    have head : ∀ rest, afterPhrase ["delete", "from"] ("DELETE FROM ".toList ++ rest) =
        some (Text.trimStart rest) := fun _ => rfl
    have token := takeIdentifier_name table (tailText clauses)
      ((boundary_tailText clauses).apart rfl)
    rw [readStatement, shown, statementText_eq finished, words]
    rw [readDelete, head, (marked_name table _).trimStart]
    simp only [Option.bind_eq_bind, Option.bind_some, token, orInvalid, Outcome.ok_bind,
      splitClauses_tail filters.clausal, nameOf_name htable]
    rw [← namedClauses, filters.read]
    rfl

/-! ## Assignments -/

/-- A column with its new value reads back. -/
theorem readAssignment_text {name : String} (quotable : Quotable name) {value : List Char}
    (tight : Text.Tight value) :
    readAssignment ((Formatter.memory.quoteName name).toList ++ (" = ".toList ++ value)) =
      .ok (name, parseValue value) := by
  have token := takeIdentifier_name name (" = ".toList ++ value) (by simp)
  have mark : afterMark '=' (" = ".toList ++ value) = some (' ' :: value) := by rfl
  have front : Text.trimStart (' ' :: value) = value := tight.trimStart_eq
  have filled : value.isEmpty = false := List.isEmpty_eq_false_iff.mpr tight.ne_nil
  rw [readAssignment]
  simp only [Option.bind_eq_bind, Option.bind_some, token, mark, Option.map_some, front, filled,
    nameOf_name quotable]
  rfl

/-- Assignments are written as uncut items that read back. -/
theorem exists_assignments {a b : Nat} {assignments : List (String × Operand)}
    (quotable : ∀ s ∈ assignments, Quotable s.1)
    (written : Operand.AllWritten a (assignments.map (·.2)) b) :
    ∃ texts, assignments.mapM (Statement.assignmentText Formatter.memory) = .ok texts ∧
      (∀ s ∈ texts, Uncut s.toList ∧ ∃ ts, Phrase s.toList ts) ∧
      (texts.map String.toList).mapM readAssignment =
        .ok (assignments.map fun s => (s.1, s.2.value?)) := by
  induction assignments generalizing a with
  | nil => exact ⟨[], rfl, fun s hs => (nomatch hs), rfl⟩
  | cons first rest ih =>
    obtain ⟨name, o⟩ := first
    obtain _ | ⟨place, others⟩ := written
    obtain ⟨value, rendered, ⟨t, phrase, _⟩, uncut, parsed⟩ := stands_of_written place
    obtain ⟨texts, all, solid, read⟩ := ih
      (fun s hs => quotable s (List.mem_cons_of_mem _ hs)) others
    have hname : Quotable name := quotable _ List.mem_cons_self
    have text : (Formatter.memory.quoteName name ++ " = " ++ value).toList =
        (Formatter.memory.quoteName name).toList ++ (" = ".toList ++ value.toList) := by
      rw [String.toList_append, String.toList_append, List.append_assoc]
    have equals : Phrase ['='] [.symbol "="] := phrase_symbol (by decide)
    have sign : Uncut ['='] := uncut_inert (by decide)
    refine ⟨(Formatter.memory.quoteName name ++ " = " ++ value) :: texts, ?_, ?_, ?_⟩
    · rw [List.mapM_cons, Statement.assignmentText, rendered, all]
      rfl
    · intro s hs
      rcases List.mem_cons.mp hs with rfl | hs
      · rw [text]
        exact ⟨(uncut_name hname).blank (sign.blank uncut), _,
          (phrase_name hname).blank (equals.blank phrase)⟩
      · exact solid s hs
    · rw [List.map_cons, List.mapM_cons, text, readAssignment_text hname phrase.tight, read, parsed]
      rfl

/-! ## Changed rows -/

variable {assignments : List (String × Operand)} {b : Nat}

/-- What was read of assignments makes them again. -/
theorem zip_placesFrom {a : Nat} (written : Operand.AllWritten a (assignments.map (·.2)) b) :
    placesFrom a ((assignments.map fun s => (s.1, s.2.value?)).map (·.2)) =
      (assignments.map (·.2), b) ∧
    ((assignments.map fun s => (s.1, s.2.value?)).map (·.1)).zip (assignments.map (·.2)) =
      assignments := by
  have places := placesFrom_values written
  rw [List.map_map] at places
  constructor
  · rw [List.map_map]
    exact places
  · rw [List.map_map]
    exact (List.zip_of_prod rfl rfl).symm

/-- What stands behind `UPDATE` where rows are changed. -/
def changeText (table : String) (texts : List String) (clauses : List (String × String)) :
    List Char :=
  (Formatter.memory.quoteName table).toList ++ (" SET ".toList ++
    ((Text.joined ", " texts).toList ++ tailText clauses))

theorem readUpdate_text (htable : Quotable table) (filled : assignments ≠ [])
    (written : Operand.AllWritten 0 (assignments.map (·.2)) b) {texts : List String}
    {ts : List Token} (phrase : Phrase (Text.joined ", " texts).toList ts)
    (pieces : splitTopLevel ',' (Text.joined ", " texts).toList = .ok (texts.map String.toList))
    (read : (texts.map String.toList).mapM readAssignment =
      .ok (assignments.map fun s => (s.1, s.2.value?)))
    {filter : Option Predicate} {clauses : List (String × String)} {c : Nat}
    (filters : Filters b filter clauses c) :
    readUpdate ("UPDATE ".toList ++ changeText table texts clauses) =
      .ok (.update table assignments (filter.map Predicate.reread)) := by
  have marked : Marked (changeText table texts clauses) := marked_name table _
  have token := takeIdentifier_name table
    (" SET ".toList ++ ((Text.joined ", " texts).toList ++ tailText clauses)) (by simp)
  have head : ∀ rest, afterPhrase ["update"] ("UPDATE ".toList ++ rest) =
      some (Text.trimStart rest) := fun _ => rfl
  have set : ∀ rest, (afterBlanks (" SET ".toList ++ rest)).bind (afterPhrase ["set"]) =
      some (Text.trimStart rest) := fun _ => rfl
  have someSet : ¬(assignments.map fun s => (s.1, s.2.value?)).isEmpty = true := by
    rw [List.isEmpty_iff, List.map_eq_nil_iff]
    exact filled
  obtain ⟨places, whole⟩ := zip_placesFrom written
  rw [readUpdate, head, marked.trimStart, changeText]
  simp only [Option.bind_eq_bind, Option.bind_some, token, set, phrase.tight.trimStart_append,
    orInvalid, Outcome.ok_bind, splitClauses_phrase phrase filters.clausal, pieces, read,
    nameOf_name htable]
  rw [if_neg someSet, places, ← namedClauses, filters.read, Outcome.ok_bind, whole]

/-- The change of rows reads back. The parameters of the filter go on where those of the new values
end. -/
theorem readStatement_update (htable : Quotable table) (filled : assignments ≠ [])
    (quotable : ∀ s ∈ assignments, Quotable s.1)
    (written : Operand.AllWritten 0 (assignments.map (·.2)) b) {filter : Option Predicate}
    (h : ∀ p ∈ filter, ∃ c, p.Written b c) :
    ∃ text, (Statement.update table assignments filter).render Formatter.memory = .ok text ∧
      readStatement text = .ok (.update table assignments (filter.map Predicate.reread)) := by
  obtain ⟨tail, clauses, c, tailRendered, tailed, filters⟩ := exists_filters h
  obtain ⟨texts, rendered, solid, read⟩ := exists_assignments quotable written
  have listed : ∃ ts, Phrase (Text.joined ", " texts).toList ts := by
    cases texts with
    | nil =>
      -- nothing written reads as no assignments, but there are some
      obtain ⟨first, rest, rfl⟩ := List.exists_cons_of_ne_nil filled
      cases read
    | cons s ss => exact phrase_joined fun t ht => (solid t ht).2
  obtain ⟨ts, phrase⟩ := listed
  have pieces := splitTopLevel_joined (fun s hs => (solid s hs).1) fun s hs => by
    obtain ⟨us, item⟩ := (solid s hs).2
    exact item.tight
  refine ⟨"UPDATE " ++ Formatter.memory.quoteName table ++ " SET " ++ Text.joined ", " texts ++
    tail, ?_, ?_⟩
  · rw [Statement.render, rendered, tailRendered]
    rfl
  · have shown : ("UPDATE " ++ Formatter.memory.quoteName table ++ " SET " ++
        Text.joined ", " texts ++ tail).toList =
        "UPDATE ".toList ++ changeText table texts clauses := by
      simp only [String.toList_append, tailed, List.append_assoc, changeText]
    have finished : Finished ("UPDATE ".toList ++ changeText table texts clauses) := by
      rw [changeText, ← List.append_assoc, ← List.append_assoc]
      exact (phrase.finished.tail filters.clausal).behind (by decide) _
    have words : ∀ rest, lowerWords ("UPDATE ".toList ++ rest) = "update" :: lowerWords rest :=
      fun _ => rfl
    rw [readStatement, shown, statementText_eq finished, words]
    exact readUpdate_text htable filled written phrase pieces read filters

end Polystore.Sql
