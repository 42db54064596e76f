import Polystore.Proofs.Outcome
import Polystore.Proofs.Sql.Filtered

/-!
# Reads are read back

A read shows its fields in front of its table and its clauses behind it: the filter, the fields to
group by and to sort by, and the page. It reads back with the filter as it is read back by itself.
The names of its fields must hold no blanks, since the reader looks for `FROM` behind every blank.
-/

namespace Polystore.Sql

/-! ## The head -/

/-- The name holds no blanks. -/
def Unbroken (name : String) : Prop := ∀ c ∈ name.toList, Text.isBlank c = false

theorem takeFields_cons (c : Char) (seen rest : List Char) :
    takeFields seen (c :: rest) =
      match afterFrom (c :: rest) with
      | some (token, tail) => some (seen.reverse, token, tail)
      | none => takeFields (c :: seen) rest := by
  rfl

theorem afterFrom_solid {c : Char} (h : Text.isBlank c = false) (rest : List Char) :
    afterFrom (c :: rest) = none := by
  have apart : afterBlanks (c :: rest) = none := by
    simp [afterBlanks, h]
  rw [afterFrom, apart]
  rfl

/-- Where no blank stands, no table is looked for. -/
theorem takeFields_solid {cs : List Char} (h : ∀ c ∈ cs, Text.isBlank c = false)
    (seen rest : List Char) :
    takeFields seen (cs ++ rest) = takeFields (cs.reverse ++ seen) rest := by
  induction cs generalizing seen with
  | nil => rfl
  | cons c cs ih =>
    rw [List.cons_append, takeFields_cons, afterFrom_solid (h c List.mem_cons_self)]
    show takeFields (c :: seen) (cs ++ rest) = _
    rw [ih fun d hd => h d (List.mem_cons_of_mem c hd), List.reverse_cons, List.append_assoc,
      List.singleton_append]

/-- Behind a comma a quoted name goes on, and no table. -/
theorem takeFields_comma {cs : List Char} (h : Marked cs) (seen : List Char) :
    takeFields seen (", ".toList ++ cs) = takeFields (", ".toList.reverse ++ seen) cs := by
  obtain ⟨rest, rfl⟩ := h
  rfl

theorem takeFields_from (seen : List Char) {table : String} {tail : List Char}
    (apart : tail.head? ≠ some '\x22') :
    takeFields seen (" FROM ".toList ++ ((Formatter.memory.quoteName table).toList ++ tail)) =
      some (seen.reverse, (Formatter.memory.quoteName table).toList, tail) := by
  have token := takeIdentifier_name table tail apart
  have marked := marked_name table tail
  generalize (Formatter.memory.quoteName table).toList ++ tail = body at token marked ⊢
  have found : afterFrom (" FROM ".toList ++ body) = takeIdentifier (Text.trimStart body) := by rfl
  rw [marked.trimStart, token] at found
  -- the table is found at the blank in front of `FROM` already
  have text : " FROM ".toList ++ body = ' ' :: ("FROM ".toList ++ body) := by rfl
  rw [text] at found ⊢
  rw [takeFields_cons, found]

theorem isBlank_quoteName {name : String} (h : Unbroken name) :
    ∀ c ∈ (Formatter.memory.quoteName name).toList, Text.isBlank c = false := by
  intro c hc
  rcases mem_quoteName hc with rfl | hc
  · decide
  · exact h c hc

theorem marked_names (name : String) (names : List String) (rest : List Char) :
    Marked ((Formatter.memory.names (name :: names)).toList ++ rest) := by
  cases names with
  | nil => exact marked_name name rest
  | cons other names =>
    rw [Formatter.names, List.map_cons, List.map_cons, Text.toList_joined_cons, List.append_assoc]
    exact marked_name name _

/-- A list of names is passed over until the table. -/
theorem takeFields_names {names : List String} (h : ∀ name ∈ names, Unbroken name)
    (seen rest : List Char) :
    takeFields seen ((Formatter.memory.names names).toList ++ rest) =
      takeFields ((Formatter.memory.names names).toList.reverse ++ seen) rest := by
  match names with
  | [] => rfl
  | [name] => exact takeFields_solid (isBlank_quoteName (h name List.mem_cons_self)) seen rest
  | name :: other :: names =>
    have first := isBlank_quoteName (h name List.mem_cons_self)
    have others := takeFields_names (fun n hn => h n (List.mem_cons_of_mem name hn))
      (", ".toList.reverse ++ ((Formatter.memory.quoteName name).toList.reverse ++ seen)) rest
    have text : (Formatter.memory.names (name :: other :: names)).toList =
        (Formatter.memory.quoteName name).toList ++ (", ".toList ++
          (Formatter.memory.names (other :: names)).toList) := Text.toList_joined_cons _ _ _ _
    rw [text, List.append_assoc, List.append_assoc, takeFields_solid first,
      takeFields_comma (marked_names other names rest), others]
    simp only [List.reverse_append, List.append_assoc]

/-- How the fields of a read are written. -/
def fieldsText (fields : List String) : String :=
  if fields.isEmpty then "*" else Formatter.memory.names fields

/-- The fields of a read are passed over until the table. -/
theorem takeFields_fields {fields : List String} (h : ∀ name ∈ fields, Unbroken name)
    (rest : List Char) :
    takeFields [] ((fieldsText fields).toList ++ rest) =
      takeFields (fieldsText fields).toList.reverse rest := by
  cases fields with
  | nil =>
    have solid : ∀ c ∈ "*".toList, Text.isBlank c = false := by
      intro c hc
      rw [List.mem_singleton.mp hc]
      rfl
    exact takeFields_solid solid [] rest
  | cons name names =>
    have whole := takeFields_names h [] rest
    rw [List.append_nil] at whole
    exact whole

theorem trimStart_fields (fields : List String) (rest : List Char) :
    Text.trimStart ((fieldsText fields).toList ++ rest) = (fieldsText fields).toList ++ rest := by
  cases fields with
  | nil => rfl
  | cons name names => exact (marked_names name names rest).trimStart

/-- The head of a read is found again. -/
theorem takeSelectHead_text {fields : List String} (table : String)
    (h : ∀ name ∈ fields, Unbroken name) {tail : List Char} (apart : tail.head? ≠ some '\x22') :
    takeSelectHead ("SELECT ".toList ++ ((fieldsText fields).toList ++ (" FROM ".toList ++
        ((Formatter.memory.quoteName table).toList ++ tail)))) =
      some ((fieldsText fields).toList, (Formatter.memory.quoteName table).toList, tail) := by
  have word : ∀ rest, afterWord "select".toList ("SELECT ".toList ++ rest) = some (' ' :: rest) :=
    fun _ => rfl
  have blanks : ∀ rest, afterBlanks (' ' :: rest) = some (Text.trimStart rest) := fun _ => rfl
  have found := takeFields_fields h (" FROM ".toList ++
    ((Formatter.memory.quoteName table).toList ++ tail))
  rw [takeFields_from _ apart, List.reverse_reverse] at found
  rw [takeSelectHead, word]
  simp only [Option.bind_eq_bind, Option.bind_some, blanks, trimStart_fields, found, Option.some_or]

/-- The fields of a read are a star, or a list that reads back. -/
theorem fields_cases {fields : List String} (h : ∀ name ∈ fields, Quotable name) :
    (fields = [] ∧ Text.trim (fieldsText fields).toList = ['*']) ∨
    (Text.trim (fieldsText fields).toList ≠ ['*'] ∧
      nameList (Text.trim (fieldsText fields).toList) = .ok fields) := by
  cases fields with
  | nil => exact .inl ⟨rfl, rfl⟩
  | cons name names =>
    obtain ⟨ts, phrase⟩ := phrase_names (List.cons_ne_nil name names) h
    obtain ⟨rest, marked⟩ := marked_names name names []
    rw [List.append_nil] at marked
    have shown : Text.trim (fieldsText (name :: names)).toList =
        (Formatter.memory.names (name :: names)).toList := phrase.tight.trim_eq
    rw [shown]
    refine .inr ⟨?_, nameList_names h⟩
    rw [marked]
    exact fun e => absurd (List.cons.inj e).1 (by decide)

/-! ## Clauses -/

/-- The clause of the fields to group by. -/
def groupClauses (groupBy : List String) : List (String × String) :=
  if groupBy.isEmpty then [] else [("GROUP BY", Formatter.memory.names groupBy)]

/-- The clause of the fields to sort by. -/
def orderClauses (orderBy : List SortKey) : List (String × String) :=
  if orderBy.isEmpty then []
  else [("ORDER BY", Text.joined ", " (orderBy.map (SelectStatement.sortKeyText Formatter.memory)))]

/-- The clause of a number of rows. -/
def countClauses (keyword : String) (n : Option UInt64) : List (String × String) :=
  (n.map fun n => (keyword, Formatter.natText n.toNat)).toList

variable {a : Nat} {s : SelectStatement} {rest : List (String × List Char)}

theorem namedClauses_cons {keyword name : String} (h : Text.asciiLower keyword = name)
    (body : String) : namedClauses [(keyword, body)] ++ rest = (name, body.toList) :: rest := by
  rw [namedClauses, List.map_singleton, h]
  rfl

theorem clausal_groupClauses {groupBy : List String} (h : ∀ name ∈ groupBy, Quotable name) :
    Clausal (groupClauses groupBy) := by
  intro c hc
  cases groupBy with
  | nil => exact nomatch hc
  | cons name names =>
    rw [List.mem_singleton.mp hc]
    have keyword : "GROUP BY" ∈ writtenKeywords := by decide
    exact ⟨keyword, phrase_names (List.cons_ne_nil name names) h⟩

theorem read_groupClauses {groupBy : List String} (h : ∀ name ∈ groupBy, Quotable name)
    (text : List Char) (unset : s.groupBy = []) :
    readSelectClauses text a s (namedClauses (groupClauses groupBy) ++ rest) =
      readSelectClauses text a { s with groupBy } rest := by
  cases groupBy with
  | nil =>
    show readSelectClauses text a s rest = _
    rw [← unset]
  | cons name names =>
    have clause : namedClauses (groupClauses (name :: names)) ++ rest =
        ("group by", (Formatter.memory.names (name :: names)).toList) :: rest :=
      namedClauses_cons (by decide) _
    rw [clause, readSelectClauses, if_neg (by decide), if_pos rfl, nameList_names h]
    rfl

/-! ## Fields to sort by -/

theorem phrase_direction (d : Direction) : Phrase d.keyword.toList [.word d.keyword] := by
  cases d <;> exact phrase_plainWord (by decide) (by decide) (by decide) (by decide)

theorem uncut_direction (d : Direction) : Uncut d.keyword.toList := by
  cases d <;> exact uncut_inert (by decide)

theorem toList_sortKeyText (k : SortKey) :
    (SelectStatement.sortKeyText Formatter.memory k).toList =
      (Formatter.memory.quoteName k.field).toList ++ ' ' :: k.direction.keyword.toList := by
  rw [SelectStatement.sortKeyText, String.toList_append, String.toList_append, List.append_assoc]
  rfl

/-- A field to sort by reads back. -/
theorem readSortKey_text {k : SortKey} (h : Quotable k.field) :
    readSortKey (SelectStatement.sortKeyText Formatter.memory k).toList = .ok k := by
  obtain ⟨field, direction⟩ := k
  have token := takeIdentifier_name field (' ' :: direction.keyword.toList) (by simp)
  rw [toList_sortKeyText, readSortKey, token]
  simp only [Option.bind_eq_bind, Option.bind_some, nameOf_name h]
  cases direction <;> rfl

theorem mapM_readSortKey {ks : List SortKey} (h : ∀ k ∈ ks, Quotable k.field) :
    (ks.map (String.toList ∘ SelectStatement.sortKeyText Formatter.memory)).mapM readSortKey =
      .ok ks := by
  induction ks with
  | nil => rfl
  | cons k ks ih =>
    rw [List.map_cons, List.mapM_cons, Function.comp_apply,
      readSortKey_text (h k List.mem_cons_self), ih fun k' hk => h k' (List.mem_cons_of_mem k hk)]
    rfl

theorem phrase_sortKey {k : SortKey} (h : Quotable k.field) :
    ∃ ts, Phrase (SelectStatement.sortKeyText Formatter.memory k).toList ts := by
  rw [toList_sortKeyText]
  exact ⟨_, (phrase_name h).blank (phrase_direction k.direction)⟩

theorem uncut_sortKey {k : SortKey} (h : Quotable k.field) :
    Uncut (SelectStatement.sortKeyText Formatter.memory k).toList := by
  rw [toList_sortKeyText]
  exact (uncut_name h).blank (uncut_direction k.direction)

theorem clausal_orderClauses {orderBy : List SortKey} (h : ∀ k ∈ orderBy, Quotable k.field) :
    Clausal (orderClauses orderBy) := by
  intro c hc
  cases orderBy with
  | nil => exact nomatch hc
  | cons k ks =>
    rw [List.mem_singleton.mp hc]
    have keyword : "ORDER BY" ∈ writtenKeywords := by decide
    refine ⟨keyword, phrase_joined fun t ht => ?_⟩
    rw [← List.map_cons] at ht
    obtain ⟨other, hother, rfl⟩ := List.mem_map.mp ht
    exact phrase_sortKey (h other hother)

theorem read_orderClauses {orderBy : List SortKey} (h : ∀ k ∈ orderBy, Quotable k.field)
    (text : List Char) (unset : s.orderBy = []) :
    readSelectClauses text a s (namedClauses (orderClauses orderBy) ++ rest) =
      readSelectClauses text a { s with orderBy } rest := by
  cases orderBy with
  | nil =>
    show readSelectClauses text a s rest = _
    rw [← unset]
  | cons k ks =>
    have items : ∀ t ∈ (k :: ks).map (SelectStatement.sortKeyText Formatter.memory),
        Uncut t.toList ∧ Text.Tight t.toList := by
      intro t ht
      obtain ⟨other, hother, rfl⟩ := List.mem_map.mp ht
      obtain ⟨ts, phrase⟩ := phrase_sortKey (h other hother)
      exact ⟨uncut_sortKey (h other hother), phrase.tight⟩
    have pieces := splitTopLevel_joined (fun t ht => (items t ht).1) fun t ht => (items t ht).2
    have keys : (((k :: ks).map (SelectStatement.sortKeyText Formatter.memory)).map
        String.toList).mapM readSortKey = .ok (k :: ks) := by
      rw [List.map_map]
      exact mapM_readSortKey h
    have clause : namedClauses (orderClauses (k :: ks)) ++ rest =
        ("order by", (Text.joined ", "
          ((k :: ks).map (SelectStatement.sortKeyText Formatter.memory))).toList) :: rest :=
      namedClauses_cons (by decide) _
    rw [clause, readSelectClauses, if_neg (by decide), if_neg (by decide), if_pos rfl, pieces,
      Outcome.ok_bind, keys, Outcome.ok_bind, unset, List.nil_append]

/-! ## Numbers of rows -/

theorem phrase_natText (n : Nat) : ∃ ts, Phrase (Formatter.natText n).toList ts := by
  obtain ⟨c, cs, digits, _⟩ := Text.exists_cons_natDigits n
  rw [Formatter.natText, String.toList_ofList, digits]
  refine ⟨_, phrase_number fun d hd => ?_⟩
  rw [← digits] at hd
  exact List.mem_cons_of_mem '-' (Text.mem_of_isDigit (Text.isDigit_of_mem_natDigits hd))

theorem clausal_countClauses {keyword : String} (h : keyword ∈ writtenKeywords)
    (n : Option UInt64) : Clausal (countClauses keyword n) := by
  intro c hc
  cases n with
  | none => exact nomatch hc
  | some n =>
    rw [List.mem_singleton.mp hc]
    exact ⟨h, phrase_natText n.toNat⟩

/-- A number of rows reads back. -/
theorem readCount_natText (text : List Char) (n : UInt64) :
    readCount text (Formatter.natText n.toNat).toList = .ok n := by
  obtain ⟨ts, phrase⟩ := phrase_natText n.toNat
  have bounded : n.toNat < 2 ^ 64 := n.toNat_lt
  rw [readCount, phrase.tight.trim_eq, Formatter.natText, String.toList_ofList,
    Text.readNatBelow_natDigits bounded]
  show Except.ok (UInt64.ofNat n.toNat) = _
  rw [UInt64.ofNat_toNat]

theorem read_limitClauses (limit : Option UInt64) (text : List Char) (unset : s.limit = none) :
    readSelectClauses text a s (namedClauses (countClauses "LIMIT" limit) ++ rest) =
      readSelectClauses text a { s with limit } rest := by
  cases limit with
  | none =>
    show readSelectClauses text a s rest = _
    rw [← unset]
  | some n =>
    have clause : namedClauses (countClauses "LIMIT" (some n)) ++ rest =
        ("limit", (Formatter.natText n.toNat).toList) :: rest :=
      namedClauses_cons (by decide) _
    rw [clause, readSelectClauses, if_neg (by decide), if_neg (by decide), if_neg (by decide),
      if_pos rfl, readCount_natText]
    rfl

theorem read_offsetClauses (offset : Option UInt64) (text : List Char) (unset : s.offset = none) :
    readSelectClauses text a s (namedClauses (countClauses "OFFSET" offset) ++ rest) =
      readSelectClauses text a { s with offset } rest := by
  cases offset with
  | none =>
    show readSelectClauses text a s rest = _
    rw [← unset]
  | some n =>
    have clause : namedClauses (countClauses "OFFSET" (some n)) ++ rest =
        ("offset", (Formatter.natText n.toNat).toList) :: rest :=
      namedClauses_cons (by decide) _
    rw [clause, readSelectClauses, if_neg (by decide), if_neg (by decide), if_neg (by decide),
      if_neg (by decide), if_pos rfl, readCount_natText]
    rfl

theorem Filters.readSelect {b : Nat} {filter : Option Predicate}
    {clauses : List (String × String)} (h : Filters a filter clauses b) (text : List Char)
    (unset : s.filter = none) :
    readSelectClauses text a s (namedClauses clauses ++ rest) =
      readSelectClauses text b { s with filter := filter.map Predicate.reread } rest := by
  cases h with
  | absent =>
    show readSelectClauses text a s rest = _
    rw [Option.map_none, ← unset]
  | @present _ p body ts phrase parsed =>
    have clause : namedClauses [("WHERE", body)] ++ rest = ("where", body.toList) :: rest :=
      namedClauses_cons (by decide) _
    rw [clause, readSelectClauses, if_pos rfl, parsed]
    rfl

/-! ## Reads -/

theorem tailText_append (cs ds : List (String × String)) :
    tailText (cs ++ ds) = tailText cs ++ tailText ds := List.flatMap_append

theorem toList_groups (groupBy : List String) :
    (if groupBy.isEmpty then "" else " GROUP BY " ++ Formatter.memory.names groupBy).toList =
      tailText (groupClauses groupBy) := by
  cases groupBy with
  | nil => rfl
  | cons name names => simp [groupClauses, tailText, String.toList_append]

theorem toList_orders (orderBy : List SortKey) :
    (if orderBy.isEmpty then "" else " ORDER BY " ++
        Text.joined ", " (orderBy.map (SelectStatement.sortKeyText Formatter.memory))).toList =
      tailText (orderClauses orderBy) := by
  cases orderBy with
  | nil => rfl
  | cons k ks => simp [orderClauses, tailText, String.toList_append]

theorem toList_paging (limit offset : Option UInt64) :
    (if limit.isNone && offset.isNone then "" else " " ++
        Formatter.memory.paging limit offset).toList =
      tailText (countClauses "LIMIT" limit ++ countClauses "OFFSET" offset) := by
  cases limit <;> cases offset <;>
    simp [countClauses, tailText, Formatter.paging, Formatter.limit, Formatter.offset, Text.joined,
      String.toList_append]

/-- The clauses of a read behind its filter. -/
def readClauses (s : SelectStatement) : List (String × String) :=
  groupClauses s.groupBy ++ orderClauses s.orderBy ++
    (countClauses "LIMIT" s.limit ++ countClauses "OFFSET" s.offset)

theorem Clausal.append {cs ds : List (String × String)} (hc : Clausal cs) (hd : Clausal ds) :
    Clausal (cs ++ ds) := by
  intro c h
  rcases List.mem_append.mp h with h | h
  · exact hc c h
  · exact hd c h

/-- The names of a read are quotable, and those of its fields unbroken. -/
structure WellNamed (s : SelectStatement) : Prop where
  table : Quotable s.table
  fields : ∀ name ∈ s.fields, Quotable name ∧ Unbroken name
  groupBy : ∀ name ∈ s.groupBy, Quotable name
  orderBy : ∀ k ∈ s.orderBy, Quotable k.field

theorem clausal_readClauses (h : WellNamed s) : Clausal (readClauses s) :=
  ((clausal_groupClauses h.groupBy).append (clausal_orderClauses h.orderBy)).append
    ((clausal_countClauses (by decide) s.limit).append (clausal_countClauses (by decide) s.offset))

/-- The clauses of a read fill in what its head leaves open. -/
theorem readSelectClauses_text (h : WellNamed s) {b : Nat} {clauses : List (String × String)}
    (filters : Filters a s.filter clauses b) (text : List Char) :
    readSelectClauses text a
        { table := s.table, fields := s.fields, filter := none, groupBy := [], orderBy := []
          limit := none, offset := none }
        (namedClauses (clauses ++ readClauses s)) =
      .ok { s with filter := s.filter.map Predicate.reread } := by
  have parts : namedClauses (clauses ++ readClauses s) =
      namedClauses clauses ++ (namedClauses (groupClauses s.groupBy) ++
        (namedClauses (orderClauses s.orderBy) ++ (namedClauses (countClauses "LIMIT" s.limit) ++
          (namedClauses (countClauses "OFFSET" s.offset) ++ [])))) := by
    simp only [namedClauses, readClauses, List.map_append, List.append_assoc, List.append_nil]
  rw [parts, filters.readSelect text rfl, read_groupClauses h.groupBy text rfl,
    read_orderClauses h.orderBy text rfl, read_limitClauses s.limit text rfl,
    read_offsetClauses s.offset text rfl]
  rfl

/-- What stands behind `SELECT` in a read. -/
def readText (s : SelectStatement) (clauses : List (String × String)) : List Char :=
  (fieldsText s.fields).toList ++ (" FROM ".toList ++
    ((Formatter.memory.quoteName s.table).toList ++ tailText (clauses ++ readClauses s)))

theorem readSelect_text (h : WellNamed s) {b : Nat} {clauses : List (String × String)}
    (filters : Filters 0 s.filter clauses b) :
    readSelect ("SELECT ".toList ++ readText s clauses) =
      .ok (.select { s with filter := s.filter.map Predicate.reread }) := by
  have clausal := filters.clausal.append (clausal_readClauses h)
  have head := takeSelectHead_text s.table (fun name hn => (h.fields name hn).2)
    ((boundary_tailText (clauses ++ readClauses s)).apart rfl)
  have rest := readSelectClauses_text h filters ("SELECT ".toList ++ readText s clauses)
  rw [namedClauses] at rest
  rw [readSelect, readText, head]
  simp only [orInvalid, Outcome.ok_bind, splitClauses_tail clausal, nameOf_name h.table]
  rw [← readText]
  rcases fields_cases fun name hn => (h.fields name hn).1 with ⟨empty, star⟩ | ⟨other, names⟩
  · rw [empty] at rest
    rw [if_pos star, if_neg (by decide), rest, Outcome.ok_bind, empty]
  · rw [if_neg other, names, Outcome.ok_bind, if_neg (by decide), rest]
    rfl

/-- **A read reads back.** -/
theorem readStatement_select (h : WellNamed s) (written : ∀ p ∈ s.filter, ∃ b, p.Written 0 b) :
    ∃ text, (Statement.select s).render Formatter.memory = .ok text ∧
      readStatement text = .ok (.select { s with filter := s.filter.map Predicate.reread }) := by
  obtain ⟨tail, clauses, b, rendered, tailed, filters⟩ := exists_filters written
  have clausal := filters.clausal.append (clausal_readClauses h)
  refine ⟨"SELECT " ++ fieldsText s.fields ++ " FROM " ++ Formatter.memory.quoteName s.table ++
    tail ++
    (if s.groupBy.isEmpty then "" else " GROUP BY " ++ Formatter.memory.names s.groupBy) ++
    (if s.orderBy.isEmpty then "" else " ORDER BY " ++
      Text.joined ", " (s.orderBy.map (SelectStatement.sortKeyText Formatter.memory))) ++
    (if s.limit.isNone && s.offset.isNone then "" else " " ++
      Formatter.memory.paging s.limit s.offset), ?_, ?_⟩
  · rw [Statement.render, SelectStatement.render, rendered]
    rfl
  · have words : ∀ rest, lowerWords ("SELECT ".toList ++ rest) = "select" :: lowerWords rest :=
      fun _ => rfl
    have finished : Finished ("SELECT ".toList ++ readText s clauses) := by
      rw [readText, ← List.append_assoc, ← List.append_assoc]
      exact ((phrase_name h.table).finished.tail clausal).behind (by decide) _
    have shown : ∀ text : String, text.toList = "SELECT ".toList ++ readText s clauses →
        readStatement text = .ok (.select { s with filter := s.filter.map Predicate.reread }) := by
      intro text e
      rw [readStatement, e, statementText_eq finished, words]
      exact readSelect_text h filters
    refine shown _ ?_
    simp only [String.toList_append, toList_groups, toList_orders, toList_paging, tailed, readText,
      readClauses, tailText_append, List.append_assoc]

end Polystore.Sql
