import Mathlib.Data.List.Forall2
import Polystore.Proofs.Sql.Declared
import Polystore.Proofs.Sql.Faithful

/-!
# Tables that are read back

The making of a table reads back as it was, with every column in full. The change of a table does
not always: a column that is added is declared in full, but of a column that is modified only the
type and the length are written, so that all it says besides is lost with the text.
-/

namespace Polystore

/-- A list whose items are written one by one is written, and what holds of the items and their
texts holds along the list. -/
theorem Outcome.exists_mapM {α β : Type} {f : α → Outcome β} {P : α → β → Prop} {xs : List α}
    (h : ∀ x ∈ xs, ∃ y, f x = .ok y ∧ P x y) : ∃ ys, xs.mapM f = .ok ys ∧ List.Forall₂ P xs ys := by
  induction xs with
  | nil => exact ⟨[], rfl, .nil⟩
  | cons x xs ih =>
    obtain ⟨y, made, first⟩ := h x List.mem_cons_self
    obtain ⟨ys, all, rest⟩ := ih fun z hz => h z (List.mem_cons_of_mem x hz)
    exact ⟨y :: ys, mapM_cons_eq_ok.mpr ⟨y, ys, made, all, rfl⟩, .cons first rest⟩

namespace Sql

open Outcome

/-! ## The making of a table -/

/-- The text is an item of the declaration of a table, and declares the column. -/
structure Declares (d : ColumnDef) (s : String) : Prop where
  item : Item s.toList
  marked : Marked s.toList
  read : ∀ statement, parseColumnDef statement s.toList = .ok d

/-- No constraint on the table begins with a quotation mark. -/
theorem constraintBody_marked {piece : List Char} (h : Marked piece) :
    constraintBody ["primary", "key"] piece = none ∧ constraintBody ["unique"] piece = none := by
  obtain ⟨rest, rfl⟩ := h
  exact ⟨rfl, rfl⟩

/-- The pieces of a declaration bring their columns one after the other. -/
theorem foldlM_addPiece {ds : List ColumnDef} {texts : List String}
    (h : List.Forall₂ Declares ds texts) (parts : TableParts) :
    (texts.map String.toList).foldlM TableParts.addPiece parts =
      .ok { parts with columns := parts.columns ++ ds } := by
  induction h generalizing parts with
  | nil =>
    rw [List.append_nil]
    rfl
  | @cons d s ds texts first _ ih =>
    obtain ⟨primary, unique⟩ := constraintBody_marked first.marked
    have added : parts.addPiece s.toList = .ok { parts with columns := parts.columns ++ [d] } := by
      rw [TableParts.addPiece, primary]
      simp only [unique, first.read, ok_bind]
    rw [List.map_cons, List.foldlM_cons, added, ok_bind, ih, List.append_assoc,
      List.singleton_append]

/-- The texts of a list are items when each of them is one. -/
theorem items_of_forall₂ {α : Type} {P : α → String → Prop}
    (items : ∀ {a s}, P a s → Item s.toList) {xs : List α} {texts : List String}
    (h : List.Forall₂ P xs texts) : ∀ s ∈ texts, Item s.toList := by
  intro s hs
  induction h with
  | nil => cases hs
  | cons first _ ih =>
    rcases List.mem_cons.mp hs with rfl | hs
    · exact items first
    · exact ih hs

/-- A list that is written item by item is cut into its items. -/
theorem splitTopLevel_items {texts : List String} (h : ∀ s ∈ texts, Item s.toList) :
    splitTopLevel ',' (Text.joined ", " texts).toList = .ok (texts.map String.toList) :=
  splitTopLevel_joined (fun s hs => (h s hs).uncut) fun s hs => (h s hs).tight

variable {table : String} {columns : List ColumnDef} {texts : List String}

/-- What stands behind `CREATE TABLE` and `IF NOT EXISTS` where a table is made. -/
def tableText (table : String) (texts : List String) : List Char :=
  (Formatter.memory.quoteName table).toList ++ (" (".toList ++
    ((Text.joined ", " texts).toList ++ [')']))

theorem readCreateTable_text (quotable : Quotable table)
    (declared : List.Forall₂ Declares columns texts) (ifNotExists : Bool) :
    readCreateTable ("CREATE TABLE ".toList ++
        ((if ifNotExists then "IF NOT EXISTS ".toList else []) ++ tableText table texts)) =
      .ok (.createTable table columns ifNotExists) := by
  have marked : Marked (tableText table texts) := marked_name table _
  have token := takeIdentifier_name table
    (" (".toList ++ ((Text.joined ", " texts).toList ++ [')'])) (by simp)
  have head : ∀ rest, afterPhrase ["create", "table"] ("CREATE TABLE ".toList ++ rest) =
      some (Text.trimStart rest) := fun _ => rfl
  have found : ∀ read : List Char → Option (List Char × List Char),
      read (tableText table texts) =
        some ((Formatter.memory.quoteName table).toList, (Text.joined ", " texts).toList) →
      withOptional ["if", "not", "exists"] read
        (Text.trimStart ((if ifNotExists then "IF NOT EXISTS ".toList else []) ++
          tableText table texts)) =
        some (ifNotExists, (Formatter.memory.quoteName table).toList,
          (Text.joined ", " texts).toList) :=
    fun _ h => withOptional_text (fun _ => rfl) (fun _ => rfl) marked.trimStart
      (marked.afterPhrase _) h ifNotExists
  rw [readCreateTable, head]
  show (orInvalid _ _ (withOptional ["if", "not", "exists"] _ (Text.trimStart _)) >>= _) = _
  rw [found]
  · show (splitTopLevel ',' (Text.joined ", " texts).toList >>= _) = _
    rw [splitTopLevel_items (items_of_forall₂ Declares.item declared), ok_bind,
      foldlM_addPiece declared, ok_bind, List.nil_append]
    show Except.ok
      (Statement.createTable (nameOf (Formatter.memory.quoteName table).toList) _ _) = _
    rw [nameOf_name quotable]
  · rw [tableText, token]
    simp only [Option.bind_eq_bind, Option.bind_some, parenthesized_text]

/-- The making of a table reads back. -/
theorem readStatement_createTable (quotable : Quotable table)
    (names : ∀ d ∈ columns, Quotable d.name) (declarable : ∀ d ∈ columns, d.column.Declarable)
    (ifNotExists : Bool) :
    ∃ text,
      (Statement.createTable table columns ifNotExists).render Formatter.memory = .ok text ∧
        readStatement text = .ok (.createTable table columns ifNotExists) := by
  obtain ⟨texts, rendered, declared⟩ := exists_mapM (P := Declares) fun d hd => by
    obtain ⟨s, made, item, marked, read⟩ := exists_declaration d (names d hd) (declarable d hd)
    exact ⟨s, made, item, marked, read⟩
  refine ⟨"CREATE TABLE " ++ (if ifNotExists then "IF NOT EXISTS " else "") ++
    Formatter.memory.quoteName table ++ " (" ++ Text.joined ", " texts ++ ")", ?_, ?_⟩
  · rw [Statement.render, Formatter.createTable, rendered]
    rfl
  · have shown : ("CREATE TABLE " ++ (if ifNotExists then "IF NOT EXISTS " else "") ++
        Formatter.memory.quoteName table ++ " (" ++ Text.joined ", " texts ++ ")").toList =
        "CREATE TABLE ".toList ++ ((if ifNotExists then "IF NOT EXISTS ".toList else []) ++
          tableText table texts) := by
      have paren : ")".toList = [')'] := rfl
      simp only [String.toList_append, toList_flag, paren, List.append_assoc, tableText]
    have finished : Finished ("CREATE TABLE ".toList ++
        ((if ifNotExists then "IF NOT EXISTS ".toList else []) ++ tableText table texts)) := by
      rw [tableText]
      simp only [← List.append_assoc]
      exact finished_paren.behind (by decide) _
    have words : ∀ rest, lowerWords ("CREATE TABLE ".toList ++ rest) =
        "create" :: "table" :: lowerWords rest := fun _ => rfl
    rw [readStatement, shown, statementText_eq finished, words]
    exact readCreateTable_text quotable declared ifNotExists

/-- **The making of a table reads back as it was.** -/
theorem declared_table_read_back (plainTable : isPlainName table = true)
    (plainColumns : ∀ d ∈ columns, isPlainName d.name = true)
    (declarable : ∀ d ∈ columns, d.column.Declarable) (ifNotExists : Bool) :
    ∃ text,
      (Statement.createTable table columns ifNotExists).render Formatter.memory = .ok text ∧
        readStatement text = .ok (.createTable table columns ifNotExists) :=
  readStatement_createTable (quotable_of_plain plainTable)
    (fun d hd => quotable_of_plain (plainColumns d hd)) declarable ifNotExists

/-- A table whose defaults hold the words and marks of declarations, with a column of every length
of type text and with every flag. -/
def ledger : List ColumnDef :=
  [⟨"id", (Column.ofType .integer).asPrimary.counting⟩,
    ⟨"default", ((Column.ofType .text).withLength 4294967295).notNull.withDefault
      (.text "it's, (\\) UNIQUE \" default 'x' NOT NULL")⟩,
    ⟨"primary", (Column.ofType .json).asUnique.withDefault (.int (-5))⟩,
    ⟨"unique", (Column.ofType .boolean).counting.asUnique.notNull.withDefault (.bool false)⟩,
    ⟨"day", ((Column.ofType .date).withLength 0).withDefault .null⟩, ⟨"x", Column.ofType .float⟩]

theorem ledger_declarable : ∀ d ∈ ledger, d.column.Declarable := by
  simp only [ledger, List.forall_mem_cons, List.not_mem_nil, false_imp_iff, implies_true, and_true]
  refine ⟨⟨?_, ?_⟩, ⟨?_, ?_⟩, ⟨?_, ?_⟩, ⟨?_, ?_⟩, ⟨?_, ?_⟩, ⟨?_, ?_⟩⟩ <;>
    simp [Column.ofType, Column.asPrimary, Column.counting, Column.withLength, Column.notNull,
      Column.withDefault, Column.asUnique, Value.isPlain]

theorem declared_table_read_back_ledger :
    ∃ text, (Statement.createTable "table" ledger true).render Formatter.memory = .ok text ∧
      readStatement text = .ok (.createTable "table" ledger true) :=
  declared_table_read_back (by decide) (by decide) ledger_declarable true

end Sql

/-! ## The change of a table -/

/-- The column with its type and length and nothing besides. -/
def Column.bare (c : Column) : Column := { Column.ofType c.type with length := c.length }

theorem Column.bare_declarable (c : Column) : c.bare.Declarable where
  primary := by
    intro h
    cases h
  default := by
    intro v h
    cases h

namespace Alteration

/-- The columns of the alteration can be declared. -/
def Declarable : Alteration → Prop
  | .add _ column => column.Declarable
  | .drop _ => True
  | .modify _ column => column.Declarable

/-- The alteration as it is read back from its text. -/
def reread : Alteration → Alteration
  | .modify name column => .modify name column.bare
  | a => a

theorem reread_eq_self {a : Alteration} :
    a.reread = a ↔ ∀ name column, a = .modify name column → column.bare = column := by
  cases a with
  | modify name column =>
    constructor
    · rintro h _ _ ⟨⟩
      exact (Alteration.modify.inj h).2
    · intro h
      rw [reread, h name column rfl]
  | add name column => simp [reread]
  | drop name => simp [reread]

end Alteration

namespace Sql

open Outcome

/-- The type of a column declares the column without all else. -/
theorem specText_bare (c : Column) : specText c.bare [] = (Formatter.plainType c).toList := by
  show (Formatter.plainType c).toList ++ ([] ++ []) = _
  rw [List.append_nil, List.append_nil]

/-- The text is an item of the change of a table, and reads as the alteration does. -/
structure Alters (a : Alteration) (s : String) : Prop where
  item : Item s.toList
  read : ∀ text, readAlteration text s.toList = .ok a.reread

/-- An added column is written in full and reads back. -/
theorem exists_added (name : String) {c : Column} (quotable : Quotable name) (h : c.Declarable) :
    ∃ s, Formatter.memory.alteration (.add name c) = .ok s ∧ Alters (.add name c) s := by
  obtain ⟨s, made, item, marked, read⟩ := exists_declaration ⟨name, c⟩ quotable h
  have words : Item "ADD COLUMN".toList := .words (by decide) (by decide) (by decide)
  have text : ("ADD COLUMN " ++ s).toList = "ADD COLUMN".toList ++ ' ' :: s.toList := by
    rw [String.toList_append]
    rfl
  have add : afterPhrase ["add"] ("ADD COLUMN".toList ++ ' ' :: s.toList) =
      some ("COLUMN".toList ++ ' ' :: s.toList) := rfl
  have column : afterPhrase ["column"] ("COLUMN".toList ++ ' ' :: s.toList) = some s.toList :=
    congrArg some marked.trimStart
  have filled : s.toList.isEmpty = false := List.isEmpty_eq_false_iff.mpr item.tight.ne_nil
  have added : addedColumn ("ADD COLUMN".toList ++ ' ' :: s.toList) = some s.toList := by
    rw [addedColumn, add]
    simp only [Option.bind_eq_bind, Option.bind_some, withOptional, column, filled]
    rfl
  refine ⟨"ADD COLUMN " ++ s, ?_, ?_, fun whole => ?_⟩
  · rw [Formatter.alteration, made]
    rfl
  · rw [text]
    exact words.blank item
  · rw [text, readAlteration, added]
    simp only [read]
    rfl

theorem exists_dropped (name : String) (quotable : Quotable name) :
    ∃ s, Formatter.memory.alteration (.drop name) = .ok s ∧ Alters (.drop name) s := by
  have words : Item "DROP COLUMN".toList := .words (by decide) (by decide) (by decide)
  have text : ("DROP COLUMN " ++ Formatter.memory.quoteName name).toList =
      "DROP COLUMN".toList ++ ' ' :: (Formatter.memory.quoteName name).toList := by
    rw [String.toList_append]
    rfl
  have notAdded : ∀ rest, addedColumn ("DROP COLUMN".toList ++ rest) = none := fun _ => rfl
  have drop : ∀ rest, afterPhrase ["drop"] ("DROP COLUMN".toList ++ ' ' :: rest) =
      some ("COLUMN".toList ++ ' ' :: rest) := fun _ => rfl
  have column : afterPhrase ["column"]
      ("COLUMN".toList ++ ' ' :: (Formatter.memory.quoteName name).toList) =
        some (Formatter.memory.quoteName name).toList :=
    congrArg some (phrase_name quotable).tight.trimStart_eq
  have dropped : droppedColumn
      ("DROP COLUMN".toList ++ ' ' :: (Formatter.memory.quoteName name).toList) =
        some (Formatter.memory.quoteName name).toList := by
    rw [droppedColumn, drop]
    simp only [Option.bind_eq_bind, Option.bind_some, withOptional, column, takeIdentifier_last]
    rfl
  refine ⟨"DROP COLUMN " ++ Formatter.memory.quoteName name, rfl, ?_, fun whole => ?_⟩
  · rw [text]
    exact words.blank (.name quotable)
  · rw [text, readAlteration, notAdded, dropped]
    simp only [nameOf_name quotable]
    rfl

/-- A type alone declares a column that says nothing else. -/
theorem parseColumn_type (statement : String) (c : Column) :
    parseColumn statement (Formatter.plainType c).toList = .ok c.bare := by
  have tight := (item_type c).tight
  rw [← specText_bare] at tight ⊢
  exact parseColumn_text statement (Column.bare_declarable c) .absent tight

/-- What stands behind `ALTER COLUMN` where a column is modified. -/
def typeChange (name : String) (c : Column) : List Char :=
  (Formatter.memory.quoteName name).toList ++
    ' ' :: ("TYPE".toList ++ ' ' :: (Formatter.plainType c).toList)

theorem typeText_type (c : Column) :
    typeText ("TYPE".toList ++ ' ' :: (Formatter.plainType c).toList) =
      some (Formatter.plainType c).toList := by
  have tight := (item_type c).tight
  have phrase : afterPhrase ["type"] ("TYPE".toList ++ ' ' :: (Formatter.plainType c).toList) =
      some (Formatter.plainType c).toList := congrArg some tight.trimStart_eq
  have filled : (Formatter.plainType c).toList.isEmpty = false :=
    List.isEmpty_eq_false_iff.mpr tight.ne_nil
  have notSet : afterPhrase ["set", "data", "type"]
      ("TYPE".toList ++ ' ' :: (Formatter.plainType c).toList) = none := rfl
  simp only [typeText, phrase, notSet, Option.filter, filled]
  rfl

/-- The name and the type of a modified column are found behind `ALTER COLUMN`. -/
theorem modifiedColumn_text (name : String) (c : Column) :
    modifiedColumn ("ALTER COLUMN".toList ++ ' ' :: typeChange name c) =
      some ((Formatter.memory.quoteName name).toList, (Formatter.plainType c).toList) := by
  have alter : ∀ rest, afterPhrase ["alter"] ("ALTER COLUMN".toList ++ ' ' :: rest) =
      some ("COLUMN".toList ++ ' ' :: rest) := fun _ => rfl
  have column : afterPhrase ["column"] ("COLUMN".toList ++ ' ' :: typeChange name c) =
      some (typeChange name c) := congrArg some (marked_name name _).trimStart
  have token := takeIdentifier_name name
    (' ' :: ("TYPE".toList ++ ' ' :: (Formatter.plainType c).toList)) (by simp)
  rw [← typeChange] at token
  have behind : ∀ rest, afterBlanks (' ' :: ("TYPE".toList ++ rest)) =
      some ("TYPE".toList ++ rest) := fun _ => rfl
  rw [modifiedColumn, alter]
  simp only [Option.bind_eq_bind, Option.some_or, Option.bind_some, withOptional, column, token,
    behind, typeText_type]

/-- Of a modified column the type and the length are written and read back. -/
theorem exists_modified (name : String) (c : Column) (quotable : Quotable name) :
    ∃ s, Formatter.memory.alteration (.modify name c) = .ok s ∧ Alters (.modify name c) s := by
  have words : Item "ALTER COLUMN".toList := .words (by decide) (by decide) (by decide)
  have keyword : Item "TYPE".toList := .words (by decide) (by decide) (by decide)
  have text : ("ALTER COLUMN " ++ Formatter.memory.quoteName name ++ " TYPE " ++
      Formatter.plainType c).toList = "ALTER COLUMN".toList ++ ' ' :: typeChange name c := by
    have front : "ALTER COLUMN ".toList = "ALTER COLUMN".toList ++ [' '] := rfl
    have middle : " TYPE ".toList = ' ' :: ("TYPE".toList ++ [' ']) := rfl
    simp only [String.toList_append, front, middle, List.append_assoc, List.cons_append,
      List.nil_append, typeChange]
  have notAdded : ∀ rest, addedColumn ("ALTER COLUMN".toList ++ rest) = none := fun _ => rfl
  have notDropped : ∀ rest, droppedColumn ("ALTER COLUMN".toList ++ rest) = none := fun _ => rfl
  refine ⟨"ALTER COLUMN " ++ Formatter.memory.quoteName name ++ " TYPE " ++
    Formatter.plainType c, rfl, ?_, fun whole => ?_⟩
  · rw [text]
    exact words.blank ((Item.name quotable).blank (keyword.blank (item_type c)))
  · rw [text, readAlteration, notAdded, notDropped, modifiedColumn_text]
    simp only [parseColumn_type, nameOf_name quotable]
    rfl

/-- An alteration is written as one item that reads back but for what is left out. -/
theorem exists_alteration (a : Alteration) (quotable : Quotable a.columnName)
    (declarable : a.Declarable) : ∃ s, Formatter.memory.alteration a = .ok s ∧ Alters a s := by
  cases a with
  | add name column => exact exists_added name quotable declarable
  | drop name => exact exists_dropped name quotable
  | modify name column => exact exists_modified name column quotable

variable {alterations : List Alteration}

theorem mapM_readAlteration (whole : List Char) (h : List.Forall₂ Alters alterations texts) :
    (texts.map String.toList).mapM (readAlteration whole) =
      .ok (alterations.map Alteration.reread) := by
  induction h with
  | nil => rfl
  | cons first _ ih =>
    rw [List.map_cons]
    exact mapM_cons_eq_ok.mpr ⟨_, _, first.read whole, ih, rfl⟩

/-- A list of items ends as its last item does. -/
theorem finished_joined {s : String} {ss : List String} (h : ∀ t ∈ s :: ss, Item t.toList) :
    Finished (Text.joined ", " (s :: ss)).toList := by
  induction ss generalizing s with
  | nil => exact (h s List.mem_cons_self).finished
  | cons t ss ih =>
    have others := ih fun u hu => h u (List.mem_cons_of_mem s hu)
    have first := (h s List.mem_cons_self).tight
    rw [Text.toList_joined_cons]
    refine ⟨first.append others.tight _, ?_⟩
    rw [← List.append_assoc, getLast?_append_of_tight others.tight]
    exact others.openEnded

theorem readAlterTable_text (quotable : Quotable table) (filled : alterations ≠ [])
    (written : List.Forall₂ Alters alterations texts)
    (tight : Text.Tight (Text.joined ", " texts).toList) :
    readAlterTable ("ALTER TABLE ".toList ++ ((Formatter.memory.quoteName table).toList ++
        ' ' :: (Text.joined ", " texts).toList)) =
      .ok (.alterTable table (alterations.map Alteration.reread)) := by
  have token := takeIdentifier_name table (' ' :: (Text.joined ", " texts).toList) (by simp)
  have head : ∀ rest, afterPhrase ["alter", "table"] ("ALTER TABLE ".toList ++ rest) =
      some (Text.trimStart rest) := fun _ => rfl
  have marked := marked_name table (' ' :: (Text.joined ", " texts).toList)
  have behind : afterBlanks (' ' :: (Text.joined ", " texts).toList) =
      some (Text.joined ", " texts).toList := congrArg some tight.trimStart_eq
  have someLeft : ¬(alterations.map Alteration.reread).isEmpty = true := by
    rw [List.isEmpty_iff, List.map_eq_nil_iff]
    exact filled
  rw [readAlterTable, head, marked.trimStart]
  simp only [Option.bind_eq_bind, Option.bind_some, token, behind, orInvalid, ok_bind,
    splitTopLevel_items (items_of_forall₂ Alters.item written), mapM_readAlteration _ written,
    nameOf_name quotable]
  rw [if_neg someLeft]

/-- The change of a table reads back, and of its modified columns the type and the length. -/
theorem readStatement_alterTable (quotable : Quotable table) (filled : alterations ≠ [])
    (names : ∀ a ∈ alterations, Quotable a.columnName)
    (declarable : ∀ a ∈ alterations, a.Declarable) :
    ∃ text, (Statement.alterTable table alterations).render Formatter.memory = .ok text ∧
      readStatement text = .ok (.alterTable table (alterations.map Alteration.reread)) := by
  obtain ⟨texts, rendered, written⟩ := exists_mapM (P := Alters) fun a ha =>
    exists_alteration a (names a ha) (declarable a ha)
  have finished : Finished (Text.joined ", " texts).toList := by
    have items := items_of_forall₂ Alters.item written
    cases written with
    | nil => exact absurd rfl filled
    | cons _ _ => exact finished_joined items
  refine ⟨"ALTER TABLE " ++ Formatter.memory.quoteName table ++ " " ++ Text.joined ", " texts,
    ?_, ?_⟩
  · rw [Statement.render, Formatter.alterTable, rendered]
    rfl
  · have shown : ("ALTER TABLE " ++ Formatter.memory.quoteName table ++ " " ++
        Text.joined ", " texts).toList =
        "ALTER TABLE ".toList ++ ((Formatter.memory.quoteName table).toList ++
          ' ' :: (Text.joined ", " texts).toList) := by
      have blank : " ".toList = [' '] := rfl
      simp only [String.toList_append, blank, List.append_assoc, List.singleton_append]
    have whole : Finished ("ALTER TABLE ".toList ++
        ((Formatter.memory.quoteName table).toList ++ ' ' :: (Text.joined ", " texts).toList)) := by
      rw [← List.singleton_append, ← List.append_assoc, ← List.append_assoc]
      exact finished.behind (by decide) _
    have words : ∀ rest, lowerWords ("ALTER TABLE ".toList ++ rest) =
        "alter" :: "table" :: lowerWords rest := fun _ => rfl
    rw [readStatement, shown, statementText_eq whole, words]
    exact readAlterTable_text quotable filled written finished.tight

/-- **The change of a table reads back with every added and dropped column, and with the type and
the length of every modified one.** It reads back as it was exactly when no modified column says
more than that. -/
theorem altered_table_read_back (filled : alterations ≠ []) (plainTable : isPlainName table = true)
    (plainColumns : ∀ a ∈ alterations, isPlainName a.columnName = true)
    (declarable : ∀ a ∈ alterations, a.Declarable) :
    ∃ text, (Statement.alterTable table alterations).render Formatter.memory = .ok text ∧
      readStatement text = .ok (.alterTable table (alterations.map Alteration.reread)) ∧
      (readStatement text = .ok (.alterTable table alterations) ↔
        ∀ name column, Alteration.modify name column ∈ alterations → column.bare = column) := by
  obtain ⟨text, rendered, read⟩ := readStatement_alterTable (quotable_of_plain plainTable) filled
    (fun a ha => quotable_of_plain (plainColumns a ha)) declarable
  refine ⟨text, rendered, read, ?_⟩
  calc
    readStatement text = .ok (.alterTable table alterations)
    _ ↔ alterations.map Alteration.reread = alterations.map id := by
      rw [read, List.map_id, Except.ok.injEq, Statement.alterTable.injEq]
      exact and_iff_right rfl
    _ ↔ ∀ a ∈ alterations, a.reread = a := List.map_inj_left
    _ ↔ ∀ name column, .modify name column ∈ alterations → column.bare = column := by
      constructor
      · intro same name column mem
        exact Alteration.reread_eq_self.mp (same _ mem) name column rfl
      · intro bare a mem
        exact Alteration.reread_eq_self.mpr fun name column e => bare name column (e ▸ mem)

/-- A column is added in full, one is dropped, and two are modified: one in its type alone and one
with a default that is lost. -/
def revision : List Alteration :=
  [.add "note" ((Column.ofType .text).notNull.withDefault (.text "', DROP COLUMN \"x\"")),
    .drop "day", .modify "x" ((Column.ofType .text).withLength 20),
    .modify "unique" ((Column.ofType .boolean).asUnique.withDefault (.bool true))]

theorem altered_table_read_back_revision :
    ∃ text, (Statement.alterTable "table" revision).render Formatter.memory = .ok text ∧
      readStatement text = .ok (.alterTable "table" (revision.map Alteration.reread)) ∧
      (readStatement text = .ok (.alterTable "table" revision) ↔
        ∀ name column, Alteration.modify name column ∈ revision → column.bare = column) := by
  have declarable : ∀ a ∈ revision, a.Declarable := by
    simp only [revision, List.forall_mem_cons, List.not_mem_nil, false_imp_iff, implies_true,
      and_true]
    refine ⟨⟨?_, ?_⟩, trivial, ⟨?_, ?_⟩, ⟨?_, ?_⟩⟩ <;>
      simp [Column.ofType, Column.withLength, Column.notNull, Column.withDefault, Column.asUnique,
        Value.isPlain]
  exact altered_table_read_back (List.cons_ne_nil _ _) (by decide) (by decide) declarable

/-- The change after which a column refuses `null`. -/
def refusal : Alteration := .modify "count" (Column.ofType .integer).notNull

/-- **A modified column no longer refuses `null`.** The text of the change that makes a column
refuse `null` is accepted, and reads as the change that makes it accept `null`. -/
theorem modified_column_loses_refusal :
    isPlainName "items" = true ∧ isPlainName refusal.columnName = true ∧ refusal.Declarable ∧
      ∃ text, (Statement.alterTable "items" [refusal]).render Formatter.memory = .ok text ∧
        text = "ALTER TABLE \"items\" ALTER COLUMN \"count\" TYPE integer" ∧
        readStatement text = .ok (.alterTable "items" [.modify "count" (Column.ofType .integer)]) ∧
        readStatement text ≠ .ok (.alterTable "items" [refusal]) := by
  have declarable : refusal.Declarable :=
    ⟨by simp [Column.ofType, Column.notNull], by simp [Column.ofType, Column.notNull]⟩
  have names : ∀ a ∈ [refusal], Quotable a.columnName := by
    rw [List.forall_mem_singleton]
    exact quotable_of_plain (by decide)
  have table : Quotable "items" := quotable_of_plain (by decide)
  obtain ⟨text, rendered, read⟩ := readStatement_alterTable table
    (List.cons_ne_nil refusal []) names (List.forall_mem_singleton.mpr declarable)
  have spelled : text = "ALTER TABLE \"items\" ALTER COLUMN \"count\" TYPE integer" :=
    Except.ok.inj (rendered.symm.trans (by rfl))
  refine ⟨by decide, by decide, declarable, text, rendered, spelled, read, ?_⟩
  rw [read]
  simp [refusal, Alteration.reread, Column.bare, Column.ofType, Column.notNull]

end Sql

end Polystore
