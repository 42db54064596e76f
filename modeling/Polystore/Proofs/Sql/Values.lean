import Polystore.Proofs.Outcome
import Polystore.Proofs.Sql.Heads

/-!
# Added rows are read back

The values of an addition are plain values or parameters in their order. Its text reads back as the
same addition: no text in it ends its literal early, and every parameter gets its number again. The
columns must not hold a closing parenthesis, since the reader ends their list at the first one.
-/

namespace Polystore.Sql

/-! ## Places -/

/-- The places of a list get their numbers again. -/
theorem placesFrom_values {a b : Nat} {os : List Operand} (h : Operand.AllWritten a os b) :
    placesFrom a (os.map Operand.value?) = (os, b) := by
  induction h with
  | nil => rfl
  | cons first _ ih =>
    cases first with
    | param =>
      rw [List.map_cons, Operand.value?, placesFrom, ih]
      exact fun v e => nomatch e
    | literal =>
      rw [List.map_cons, Operand.value?, placesFrom, ih]

/-- Places are written as uncut items that stand for them. -/
theorem exists_texts {a b : Nat} {os : List Operand} (h : Operand.AllWritten a os b) :
    ∃ texts, os.mapM (Operand.render Formatter.memory) = .ok texts ∧
      (∀ s ∈ texts, Uncut s.toList ∧ Text.Tight s.toList) ∧
      texts.map (fun s => parseValue s.toList) = os.map Operand.value? := by
  induction h with
  | nil => exact ⟨[], rfl, fun s hs => (nomatch hs), rfl⟩
  | cons first _ ih =>
    obtain ⟨text, rendered, ⟨t, phrase, _⟩, uncut, parsed⟩ := stands_of_written first
    obtain ⟨texts, all, solid, values⟩ := ih
    refine ⟨text :: texts, ?_, ?_, ?_⟩
    · rw [List.mapM_cons, rendered, all]
      rfl
    · intro s hs
      rcases List.mem_cons.mp hs with rfl | hs
      · exact ⟨uncut, phrase.tight⟩
      · exact solid s hs
    · rw [List.map_cons, List.map_cons, parsed, values]

/-- A written list of places is read as the list of their values. -/
theorem exists_values {a b : Nat} {os : List Operand} (h : Operand.AllWritten a os b) :
    ∃ texts, os.mapM (Operand.render Formatter.memory) = .ok texts ∧
      parseValues (Text.joined ", " texts).toList = .ok (os.map Operand.value?) := by
  obtain ⟨texts, all, solid, values⟩ := exists_texts h
  refine ⟨texts, all, ?_⟩
  rw [parseValues, splitTopLevel_joined (fun s hs => (solid s hs).1) fun s hs => (solid s hs).2]
  show Except.ok ((texts.map String.toList).map parseValue) = _
  rw [List.map_map]
  exact congrArg Except.ok values

/-! ## Lists of columns -/

theorem mem_joined {separator : String} {c : Char} {ss : List String}
    (h : c ∈ (Text.joined separator ss).toList) :
    c ∈ separator.toList ∨ ∃ s ∈ ss, c ∈ s.toList := by
  match ss with
  | [] => exact absurd h List.not_mem_nil
  | [s] => exact .inr ⟨s, List.mem_cons_self, h⟩
  | s :: t :: rest =>
    rw [Text.toList_joined_cons, List.mem_append, List.mem_append] at h
    rcases h with h | h | h
    · exact .inr ⟨s, List.mem_cons_self, h⟩
    · exact .inl h
    · rcases mem_joined h with h | ⟨u, hu, h⟩
      · exact .inl h
      · exact .inr ⟨u, List.mem_cons_of_mem s hu, h⟩

theorem mem_quoteName {c : Char} {name : String}
    (h : c ∈ (Formatter.memory.quoteName name).toList) : c = '\x22' ∨ c ∈ name.toList := by
  rw [toList_quoteName, List.mem_append, List.mem_cons, List.mem_singleton] at h
  rcases h with (h | h) | h
  · exact .inl h
  · obtain ⟨d, hd, hc⟩ := List.mem_flatMap.mp h
    have same : c = d := by
      split at hc <;> simpa using hc
    exact .inr (same ▸ hd)
  · exact .inl h

/-- No parenthesis in its names ends a list of names. -/
theorem paren_not_mem_names {columns : List String} (h : ∀ name ∈ columns, ')' ∉ name.toList) :
    ')' ∉ (Formatter.memory.names columns).toList := by
  intro mem
  rcases mem_joined mem with mem | ⟨s, hs, mem⟩
  · exact absurd mem (by decide)
  · obtain ⟨name, hname, rfl⟩ := List.mem_map.mp hs
    rcases mem_quoteName mem with mem | mem
    · exact absurd mem (by decide)
    · exact h name hname mem

/-- A text is cut at the first occurrence of a character. -/
theorem takeWhile_first {c : Char} {cs : List Char} (h : c ∉ cs) (rest : List Char) :
    (cs ++ c :: rest).takeWhile (· ≠ c) = cs ∧ (cs ++ c :: rest).dropWhile (· ≠ c) = c :: rest := by
  induction cs with
  | nil => simp
  | cons d cs ih =>
    rw [List.mem_cons, not_or] at h
    obtain ⟨taken, left⟩ := ih h.2
    have other : d ≠ c := fun e => h.1 e.symm
    constructor
    · simpa [other] using taken
    · simpa [other] using left

/-! ## Additions -/

/-- What stands behind `INSERT INTO` where a row is added. -/
def rowText (table : String) (columns : List String) (texts : List String) : List Char :=
  (Formatter.memory.quoteName table).toList ++ (" (".toList ++
    ((Formatter.memory.names columns).toList ++ ')' :: (" VALUES".toList ++ (" (".toList ++
      ((Text.joined ", " texts).toList ++ [')'])))))

variable {table : String} {columns : List String} {values : List Operand} {b : Nat}

theorem readInsert_text (htable : Quotable table) (hcolumns : ∀ name ∈ columns, Quotable name)
    (unclosed : ∀ name ∈ columns, ')' ∉ name.toList) (written : Operand.AllWritten 0 values b)
    {texts : List String}
    (parsed : parseValues (Text.joined ", " texts).toList = .ok (values.map Operand.value?)) :
    readInsert ("INSERT INTO ".toList ++ rowText table columns texts) =
      .ok (.insert table columns values) := by
  have token := takeIdentifier_name table (" (".toList ++
    ((Formatter.memory.names columns).toList ++ ')' :: (" VALUES".toList ++ (" (".toList ++
      ((Text.joined ", " texts).toList ++ [')']))))) (by simp)
  have marked : Marked (rowText table columns texts) := marked_name table _
  have head : ∀ rest, afterPhrase ["insert", "into"] ("INSERT INTO ".toList ++ rest) =
      some (Text.trimStart rest) := fun _ => rfl
  have opening : ∀ rest, afterMark '(' (" (".toList ++ rest) = some rest := fun _ => rfl
  have closing : ∀ rest, afterMark ')' (')' :: rest) = some rest := fun _ => rfl
  have word : ∀ rest, afterWord "values".toList (Text.trimStart (" VALUES".toList ++ rest)) =
      some rest := fun _ => rfl
  obtain ⟨taken, left⟩ := takeWhile_first (paren_not_mem_names unclosed)
    (" VALUES".toList ++ (" (".toList ++ ((Text.joined ", " texts).toList ++ [')'])))
  rw [readInsert, head, marked.trimStart, rowText]
  simp only [Option.bind_eq_bind, Option.bind_some, token, opening, taken, left, closing, word,
    parenthesized_text, orInvalid, Outcome.ok_bind, parsed, nameList_names hcolumns,
    nameOf_name htable, placesFrom_values written]

/-- The addition of a row has a text, and what is read from it is what stands behind its head. -/
theorem exists_insertText (table : String) (columns : List String)
    (written : Operand.AllWritten 0 values b) :
    ∃ text texts, (Statement.insert table columns values).render Formatter.memory = .ok text ∧
      readStatement text = readInsert ("INSERT INTO ".toList ++ rowText table columns texts) ∧
      parseValues (Text.joined ", " texts).toList = .ok (values.map Operand.value?) := by
  obtain ⟨texts, rendered, parsed⟩ := exists_values written
  refine ⟨"INSERT INTO " ++ Formatter.memory.quoteName table ++ " (" ++
    Formatter.memory.names columns ++ ") VALUES (" ++ Text.joined ", " texts ++ ")", texts, ?_, ?_,
    parsed⟩
  · rw [Statement.render, rendered]
    rfl
  · have shown : ("INSERT INTO " ++ Formatter.memory.quoteName table ++ " (" ++
        Formatter.memory.names columns ++ ") VALUES (" ++ Text.joined ", " texts ++ ")").toList =
        "INSERT INTO ".toList ++ rowText table columns texts := by
      simp only [String.toList_append, List.append_assoc, rowText]
      rfl
    have finished : Finished ("INSERT INTO ".toList ++ rowText table columns texts) := by
      rw [rowText]
      simp only [← List.append_assoc, ← List.cons_append]
      exact finished_paren.behind (by decide) _
    have words : ∀ rest, lowerWords ("INSERT INTO ".toList ++ rest) =
        "insert" :: "into" :: lowerWords rest := fun _ => rfl
    rw [readStatement, shown, statementText_eq finished, words]
    rfl

/-- **The addition of a row reads back.** -/
theorem readStatement_insert (htable : Quotable table)
    (hcolumns : ∀ name ∈ columns, Quotable name) (unclosed : ∀ name ∈ columns, ')' ∉ name.toList)
    (written : Operand.AllWritten 0 values b) :
    ∃ text, (Statement.insert table columns values).render Formatter.memory = .ok text ∧
      readStatement text = .ok (.insert table columns values) := by
  obtain ⟨text, texts, rendered, read, parsed⟩ := exists_insertText table columns written
  refine ⟨text, rendered, ?_⟩
  rw [read]
  exact readInsert_text htable hcolumns unclosed written parsed

end Polystore.Sql
