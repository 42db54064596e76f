import Polystore.Proofs.Sql.Literals
import Polystore.Proofs.Sql.Names
import Polystore.Proofs.Sql.Tails
import Polystore.Sql.Read

/-!
# Statements without filters that are read back

The removal of a table or of an index, the making of an index and the addition of a row read back
from their texts as the same statements. Names have to be quotable, and the columns of an addition
must not hold a closing parenthesis, since the reader ends their list at the first one.
-/

namespace Polystore.Sql

/-! ## Whole texts -/

/-- The text has no blank at its ends and no semicolon behind. -/
structure Finished (cs : List Char) : Prop where
  tight : Text.Tight cs
  openEnded : cs.getLast? ≠ some ';'

theorem Phrase.finished {cs : List Char} {ts : List Token} (h : Phrase cs ts) : Finished cs :=
  ⟨h.tight, h.openEnded⟩

theorem finished_paren : Finished [')'] := ⟨Text.tight_singleton (by decide), by decide⟩

/-- Anything in front of a finished text is finished with it, unless it begins with a blank. -/
theorem Finished.behind {ds : List Char} (h : Finished ds) {c : Char} (hc : Text.isBlank c = false)
    (cs : List Char) : Finished (c :: cs ++ ds) where
  tight := by
    have first := Text.tight_singleton hc
    exact first.append h.tight cs
  openEnded := by
    rw [getLast?_append_of_tight h.tight]
    exact h.openEnded

theorem statementText_eq {cs : List Char} (h : Finished cs) : statementText cs = cs := by
  rw [statementText, h.tight.trim_eq]
  exact if_neg fun e => h.openEnded (beq_iff_eq.mp e)

/-! ## Texts that begin with a name -/

/-- The text begins with a double quote. -/
def Marked (cs : List Char) : Prop := ∃ rest, cs = '\x22' :: rest

theorem marked_name (name : String) (rest : List Char) :
    Marked ((Formatter.memory.quoteName name).toList ++ rest) := by
  rw [toList_quoteName]
  exact ⟨_, rfl⟩

theorem Marked.trimStart {cs : List Char} (h : Marked cs) : Text.trimStart cs = cs := by
  obtain ⟨rest, rfl⟩ := h
  rfl

/-- A name stands there, and no word of the phrase `IF EXISTS` or `IF NOT EXISTS`. -/
theorem Marked.afterPhrase {cs : List Char} (h : Marked cs) (words : List String) :
    afterPhrase ("if" :: words) cs = none := by
  obtain ⟨rest, rfl⟩ := h
  cases words <;> rfl

/-- What a flag adds to a text. -/
theorem toList_flag (flag : Bool) (phrase : String) :
    (if flag then phrase else "").toList = if flag then phrase.toList else [] := by
  cases flag <;> rfl

/-- A phrase in front of a text is there or not, and the rest is read. -/
theorem withOptional_text {α : Type} {words : List String} {phrase : String}
    {read : List Char → Option α} {cs : List Char} {a : α}
    (solid : ∀ rest, Text.trimStart (phrase.toList ++ rest) = phrase.toList ++ rest)
    (skips : ∀ rest, afterPhrase words (phrase.toList ++ rest) = some (Text.trimStart rest))
    (front : Text.trimStart cs = cs) (apart : afterPhrase words cs = none)
    (h : read cs = some a) (flag : Bool) :
    withOptional words read (Text.trimStart ((if flag then phrase.toList else []) ++ cs)) =
      some (flag, a) := by
  cases flag with
  | true => rw [if_pos rfl, solid, withOptional, skips, front, Option.bind_some, h]
  | false =>
    rw [if_neg Bool.false_ne_true, List.nil_append, front, withOptional, apart, Option.bind_none, h]
    rfl

/-! ## Removals -/

variable {table index : String}

/-- Nothing behind a name keeps its quotation open. -/
theorem takeIdentifier_last (name : String) :
    takeIdentifier (Formatter.memory.quoteName name).toList =
      some ((Formatter.memory.quoteName name).toList, []) := by
  have token := takeIdentifier_name name [] (Option.some_ne_none _).symm
  rw [List.append_nil] at token
  exact token

theorem readDropTable_text (quotable : Quotable table) (ifExists : Bool) :
    readDropTable ("DROP TABLE ".toList ++ ((if ifExists then "IF EXISTS ".toList else []) ++
        (Formatter.memory.quoteName table).toList)) = .ok (.dropTable table ifExists) := by
  have marked := marked_name table []
  rw [List.append_nil] at marked
  have head : ∀ rest, afterPhrase ["drop", "table"] ("DROP TABLE ".toList ++ rest) =
      some (Text.trimStart rest) := fun _ => rfl
  have found : ∀ read : List Char → Option (List Char),
      read (Formatter.memory.quoteName table).toList =
        some (Formatter.memory.quoteName table).toList →
      withOptional ["if", "exists"] read
        (Text.trimStart ((if ifExists then "IF EXISTS ".toList else []) ++
          (Formatter.memory.quoteName table).toList)) =
        some (ifExists, (Formatter.memory.quoteName table).toList) :=
    fun _ h => withOptional_text (fun _ => rfl) (fun _ => rfl) marked.trimStart
      (marked.afterPhrase _) h ifExists
  rw [readDropTable, head]
  show (orInvalid _ _ (withOptional ["if", "exists"] _ (Text.trimStart _)) >>= _) = _
  rw [found]
  · show Except.ok (Statement.dropTable (nameOf (Formatter.memory.quoteName table).toList) _) = _
    rw [nameOf_name quotable]
  · rw [takeIdentifier_last]
    rfl

/-- The removal of a table reads back. -/
theorem readStatement_dropTable (quotable : Quotable table) (ifExists : Bool) :
    readStatement (Formatter.memory.dropTable table ifExists) =
      .ok (.dropTable table ifExists) := by
  have text : (Formatter.memory.dropTable table ifExists).toList = "DROP TABLE ".toList ++
      ((if ifExists then "IF EXISTS ".toList else []) ++
        (Formatter.memory.quoteName table).toList) := by
    show ("DROP TABLE " ++ (if ifExists then "IF EXISTS " else "") ++
      Formatter.memory.quoteName table).toList = _
    rw [String.toList_append, String.toList_append, toList_flag, List.append_assoc]
  have finished : Finished (Formatter.memory.dropTable table ifExists).toList := by
    rw [text, ← List.append_assoc]
    exact (phrase_name quotable).finished.behind (by decide) _
  have words : ∀ rest, lowerWords ("DROP TABLE ".toList ++ rest) =
      "drop" :: "table" :: lowerWords rest := fun _ => rfl
  rw [readStatement, statementText_eq finished, text, words]
  exact readDropTable_text quotable ifExists

/-- An index and its table are taken off the front of a text. -/
theorem takeIndexOn_names (index table : String) (rest : List Char)
    (apart : rest.head? ≠ some '\x22') :
    takeIndexOn ((Formatter.memory.quoteName index).toList ++ (" ON ".toList ++
        ((Formatter.memory.quoteName table).toList ++ rest))) =
      some ((Formatter.memory.quoteName index).toList,
        (Formatter.memory.quoteName table).toList, rest) := by
  have blanks : ∀ cs, afterBlanks (" ON ".toList ++ cs) = some ("ON ".toList ++ cs) := fun _ => rfl
  have on : ∀ cs, afterPhrase ["on"] ("ON ".toList ++ cs) = some (Text.trimStart cs) := fun _ => rfl
  have first := takeIdentifier_name index
    (" ON ".toList ++ ((Formatter.memory.quoteName table).toList ++ rest)) (by simp)
  have second := takeIdentifier_name table rest apart
  rw [takeIndexOn, first]
  simp only [Option.bind_eq_bind, Option.bind_some, blanks, on,
    (marked_name table rest).trimStart, second]

theorem readDropIndex_text (hindex : Quotable index) (htable : Quotable table) (ifExists : Bool) :
    readDropIndex ("DROP INDEX ".toList ++ ((if ifExists then "IF EXISTS ".toList else []) ++
        ((Formatter.memory.quoteName index).toList ++ (" ON ".toList ++
          (Formatter.memory.quoteName table).toList)))) =
      .ok (.dropIndex table index ifExists) := by
  have marked := marked_name index (" ON ".toList ++ (Formatter.memory.quoteName table).toList)
  have token := takeIndexOn_names index table [] (Option.some_ne_none _).symm
  rw [List.append_nil] at token
  have head : ∀ rest, afterPhrase ["drop", "index"] ("DROP INDEX ".toList ++ rest) =
      some (Text.trimStart rest) := fun _ => rfl
  have found : ∀ read : List Char → Option (List Char × List Char),
      read ((Formatter.memory.quoteName index).toList ++ (" ON ".toList ++
          (Formatter.memory.quoteName table).toList)) =
        some ((Formatter.memory.quoteName index).toList,
          (Formatter.memory.quoteName table).toList) →
      withOptional ["if", "exists"] read
        (Text.trimStart ((if ifExists then "IF EXISTS ".toList else []) ++
          ((Formatter.memory.quoteName index).toList ++ (" ON ".toList ++
            (Formatter.memory.quoteName table).toList)))) =
        some (ifExists, (Formatter.memory.quoteName index).toList,
          (Formatter.memory.quoteName table).toList) :=
    fun _ h => withOptional_text (fun _ => rfl) (fun _ => rfl) marked.trimStart
      (marked.afterPhrase _) h ifExists
  rw [readDropIndex, head]
  show (orInvalid _ _ (withOptional ["if", "exists"] _ (Text.trimStart _)) >>= _) = _
  rw [found]
  · show Except.ok (Statement.dropIndex (nameOf (Formatter.memory.quoteName table).toList)
      (nameOf (Formatter.memory.quoteName index).toList) _) = _
    rw [nameOf_name htable, nameOf_name hindex]
  · rw [token]
    rfl

/-- The removal of an index reads back. -/
theorem readStatement_dropIndex (hindex : Quotable index) (htable : Quotable table)
    (ifExists : Bool) :
    readStatement (Formatter.memory.dropIndex table index ifExists) =
      .ok (.dropIndex table index ifExists) := by
  have text : (Formatter.memory.dropIndex table index ifExists).toList = "DROP INDEX ".toList ++
      ((if ifExists then "IF EXISTS ".toList else []) ++
        ((Formatter.memory.quoteName index).toList ++ (" ON ".toList ++
          (Formatter.memory.quoteName table).toList))) := by
    show ("DROP INDEX " ++ (if ifExists then "IF EXISTS " else "") ++
      Formatter.memory.quoteName index ++ " ON " ++ Formatter.memory.quoteName table).toList = _
    simp only [String.toList_append, List.append_assoc]
    rw [toList_flag]
  have finished : Finished (Formatter.memory.dropIndex table index ifExists).toList := by
    rw [text, ← List.append_assoc, ← List.append_assoc, ← List.append_assoc]
    exact (phrase_name htable).finished.behind (by decide) _
  have words : ∀ rest, lowerWords ("DROP INDEX ".toList ++ rest) =
      "drop" :: "index" :: lowerWords rest := fun _ => rfl
  rw [readStatement, statementText_eq finished, text, words]
  exact readDropIndex_text hindex htable ifExists

/-! ## The making of an index -/

/-- The text between parentheses behind a blank. -/
theorem parenthesized_text (cs : List Char) :
    parenthesized (" (".toList ++ (cs ++ [')'])) = some cs := by
  have mark : afterMark '(' (" (".toList ++ (cs ++ [')'])) = some (cs ++ [')']) := by rfl
  rw [parenthesized, mark]
  simp only [List.getLast?_concat, List.dropLast_concat]
  rfl

/-- What stands behind `INDEX` and `IF NOT EXISTS` where an index is made. -/
def indexText (table index : String) (columns : List String) : List Char :=
  (Formatter.memory.quoteName index).toList ++ (" ON ".toList ++
    ((Formatter.memory.quoteName table).toList ++ (" (".toList ++
      ((Formatter.memory.names columns).toList ++ [')']))))

theorem readCreateIndex_text (hindex : Quotable index) (htable : Quotable table)
    {columns : List String} (hcolumns : ∀ name ∈ columns, Quotable name)
    (unique ifNotExists : Bool) :
    readCreateIndex ("CREATE ".toList ++ ((if unique then "UNIQUE ".toList else []) ++
        ("INDEX ".toList ++ ((if ifNotExists then "IF NOT EXISTS ".toList else []) ++
          indexText table index columns)))) =
      .ok (.createIndex table index columns unique ifNotExists) := by
  have token := takeIndexOn_names index table
    (" (".toList ++ ((Formatter.memory.names columns).toList ++ [')'])) (by simp)
  have marked : Marked (indexText table index columns) := marked_name index _
  have head : ∀ rest, afterPhrase ["create"] ("CREATE ".toList ++ rest) =
      some (Text.trimStart rest) := fun _ => rfl
  have behind : ∀ rest, afterPhrase ["index"] ("INDEX ".toList ++ rest) =
      some (Text.trimStart rest) := fun _ => rfl
  have inner : ∀ read : List Char → Option (List Char × List Char × List Char),
      read (indexText table index columns) =
        some ((Formatter.memory.quoteName index).toList, (Formatter.memory.quoteName table).toList,
          (Formatter.memory.names columns).toList) →
      withOptional ["if", "not", "exists"] read
        (Text.trimStart ((if ifNotExists then "IF NOT EXISTS ".toList else []) ++
          indexText table index columns)) =
        some (ifNotExists, (Formatter.memory.quoteName index).toList,
          (Formatter.memory.quoteName table).toList, (Formatter.memory.names columns).toList) :=
    fun _ h => withOptional_text (fun _ => rfl) (fun _ => rfl) marked.trimStart
      (marked.afterPhrase _) h ifNotExists
  have outer : ∀ read : List Char → Option (Bool × List Char × List Char × List Char),
      read ("INDEX ".toList ++ ((if ifNotExists then "IF NOT EXISTS ".toList else []) ++
          indexText table index columns)) =
        some (ifNotExists, (Formatter.memory.quoteName index).toList,
          (Formatter.memory.quoteName table).toList, (Formatter.memory.names columns).toList) →
      withOptional ["unique"] read
        (Text.trimStart ((if unique then "UNIQUE ".toList else []) ++
          ("INDEX ".toList ++ ((if ifNotExists then "IF NOT EXISTS ".toList else []) ++
            indexText table index columns)))) =
        some (unique, ifNotExists, (Formatter.memory.quoteName index).toList,
          (Formatter.memory.quoteName table).toList, (Formatter.memory.names columns).toList) :=
    fun _ h => withOptional_text (fun _ => rfl) (fun _ => rfl) rfl rfl h unique
  rw [readCreateIndex, head]
  show (orInvalid _ _ (withOptional ["unique"] _ (Text.trimStart _)) >>= _) = _
  rw [outer]
  · show (nameList (Formatter.memory.names columns).toList >>= _) = _
    rw [nameList_names hcolumns]
    show Except.ok (Statement.createIndex (nameOf (Formatter.memory.quoteName table).toList)
      (nameOf (Formatter.memory.quoteName index).toList) columns unique ifNotExists) = _
    rw [nameOf_name htable, nameOf_name hindex]
  · rw [behind]
    simp only [Option.bind_eq_bind, Option.bind_some]
    refine inner _ ?_
    rw [indexText, token]
    simp only [Option.bind_some, parenthesized_text]

/-- The making of an index reads back. -/
theorem readStatement_createIndex (hindex : Quotable index) (htable : Quotable table)
    {columns : List String} (hcolumns : ∀ name ∈ columns, Quotable name)
    (unique ifNotExists : Bool) :
    readStatement (Formatter.memory.createIndex table index columns unique ifNotExists) =
      .ok (.createIndex table index columns unique ifNotExists) := by
  have text : (Formatter.memory.createIndex table index columns unique ifNotExists).toList =
      "CREATE ".toList ++ ((if unique then "UNIQUE ".toList else []) ++
        ("INDEX ".toList ++ ((if ifNotExists then "IF NOT EXISTS ".toList else []) ++
          indexText table index columns))) := by
    show ("CREATE " ++ (if unique then "UNIQUE " else "") ++ "INDEX " ++
      (if ifNotExists then "IF NOT EXISTS " else "") ++ Formatter.memory.quoteName index ++
      " ON " ++ Formatter.memory.quoteName table ++ " (" ++ Formatter.memory.names columns ++
      ")").toList = _
    simp only [String.toList_append, List.append_assoc, indexText]
    rw [toList_flag, toList_flag]
    rfl
  have finished : Finished
      (Formatter.memory.createIndex table index columns unique ifNotExists).toList := by
    rw [text, indexText]
    simp only [← List.append_assoc]
    exact finished_paren.behind (by decide) _
  rw [readStatement, statementText_eq finished, text]
  cases unique with
  | true =>
    have words : ∀ rest, lowerWords ("CREATE ".toList ++ ("UNIQUE ".toList ++
        ("INDEX ".toList ++ rest))) = "create" :: "unique" :: "index" :: lowerWords rest :=
      fun _ => rfl
    have found := readCreateIndex_text hindex htable hcolumns true ifNotExists
    rw [if_pos rfl] at found ⊢
    rw [words]
    exact found
  | false =>
    have words : ∀ rest, lowerWords ("CREATE ".toList ++ ([] ++ ("INDEX ".toList ++ rest))) =
        "create" :: "index" :: lowerWords rest := fun _ => rfl
    have found := readCreateIndex_text hindex htable hcolumns false ifNotExists
    rw [if_neg Bool.false_ne_true] at found ⊢
    rw [words]
    exact found

end Polystore.Sql
