import Polystore.Proofs.Sql.Cutting
import Polystore.Sql.Words

/-!
# Names that read back

Names stand in double quotes. A name without backslashes reads back from its quotation, whatever
else it holds, in a predicate, in a list of names and at the front of a text.
-/

namespace Polystore.Sql

/-- The name holds nothing that its quotation would take for an escape. -/
def Quotable (name : String) : Prop := '\\' ∉ name.toList

/-- The characters of a name with its double quotes written twice. -/
def doubledMarks (cs : List Char) : List Char :=
  cs.flatMap fun d => if d == '\x22' then [d, d] else [d]

theorem doubledMarks_cons {c : Char} (other : c ≠ '\x22') (cs : List Char) :
    doubledMarks (c :: cs) = c :: doubledMarks cs := by
  simp [doubledMarks, other]

theorem doubledMarks_mark (cs : List Char) :
    doubledMarks ('\x22' :: cs) = '\x22' :: '\x22' :: doubledMarks cs := rfl

/-- In front of a closing mark something is written, if only the mark. -/
theorem exists_cons_marks (cs rest : List Char) :
    ∃ d tail, doubledMarks cs ++ '\x22' :: rest = d :: tail := by
  cases doubledMarks cs with
  | nil => exact ⟨_, _, rfl⟩
  | cons d ds => exact ⟨_, _, rfl⟩

theorem length_le_doubledMarks (cs : List Char) : cs.length ≤ (doubledMarks cs).length := by
  induction cs with
  | nil => exact Nat.le_refl 0
  | cons c cs ih =>
    have both : doubledMarks (c :: cs) =
        (if c == '\x22' then [c, c] else [c]) ++ doubledMarks cs := List.flatMap_cons
    rw [both, List.length_append, List.length_cons]
    split <;> simp only [List.length_cons, List.length_nil] <;> omega

theorem doubledMarks_append (cs ds : List Char) :
    doubledMarks (cs ++ ds) = doubledMarks cs ++ doubledMarks ds := List.flatMap_append

theorem mem_doubledMarks {c : Char} {cs : List Char} : c ∈ doubledMarks cs ↔ c ∈ cs := by
  constructor
  · intro mem
    obtain ⟨d, hd, hc⟩ := List.mem_flatMap.mp mem
    have same : c = d := by
      split at hc <;> simpa using hc
    exact same ▸ hd
  · intro mem
    refine List.mem_flatMap.mpr ⟨c, mem, ?_⟩
    split <;> exact List.mem_cons_self

/-- A text without marks is written as it is. -/
theorem doubledMarks_clean {xs : List Char} (clean : '\x22' ∉ xs) : doubledMarks xs = xs := by
  induction xs with
  | nil => rfl
  | cons x xs ih =>
    rw [List.mem_cons, not_or] at clean
    rw [doubledMarks_cons fun e => clean.1 e.symm, ih clean.2]

/-- What is written of a text without backslashes means the text. -/
theorem content_marks {cs : List Char} (h : '\\' ∉ cs) : Content '\x22' (doubledMarks cs) cs :=
  content_doubled h

theorem toList_quoteName (name : String) :
    (Formatter.memory.quoteName name).toList = '\x22' :: doubledMarks name.toList ++ ['\x22'] := by
  show ("\"" ++ Formatter.doubled '\x22' name ++ "\"").toList = _
  simp [Formatter.doubled, doubledMarks]

variable {name : String}

theorem phrase_name (h : Quotable name) :
    Phrase (Formatter.memory.quoteName name).toList [.quoted name] := by
  have phrase := phrase_quotation rfl (content_marks h)
  rw [String.ofList_toList] at phrase
  rw [toList_quoteName]
  exact phrase

theorem uncut_name (h : Quotable name) : Uncut (Formatter.memory.quoteName name).toList := by
  rw [toList_quoteName]
  exact uncut_quotation rfl (content_marks h)

theorem nameOf_name (h : Quotable name) :
    nameOf (Formatter.memory.quoteName name).toList = name := by
  have unquoted := unquote_content rfl (content_marks h)
  rw [nameOf, (phrase_name h).tight.trim_eq, toList_quoteName, unquoted]
  exact String.ofList_toList

/-! ## Lists of names -/

variable {names : List String}

theorem splitTopLevel_names (h : ∀ name ∈ names, Quotable name) :
    splitTopLevel ',' (Formatter.memory.names names).toList =
      .ok (names.map fun name => (Formatter.memory.quoteName name).toList) := by
  have quoted : ∀ s ∈ names.map Formatter.memory.quoteName,
      Uncut s.toList ∧ Text.Tight s.toList := by
    intro s hs
    obtain ⟨name, hname, rfl⟩ := List.mem_map.mp hs
    exact ⟨uncut_name (h name hname), (phrase_name (h name hname)).tight⟩
  rw [Formatter.names, splitTopLevel_joined (fun s hs => (quoted s hs).1)
    (fun s hs => (quoted s hs).2), List.map_map]
  rfl

/-- A written list of names reads back. -/
theorem nameList_names (h : ∀ name ∈ names, Quotable name) :
    nameList (Formatter.memory.names names).toList = .ok names := by
  rw [nameList, splitTopLevel_names h]
  show Except.ok ((names.map fun name => (Formatter.memory.quoteName name).toList).map nameOf) = _
  rw [List.map_map]
  congr 1
  calc
    names.map (nameOf ∘ fun name => (Formatter.memory.quoteName name).toList)
    _ = names.map id := List.map_congr_left fun name hname => by
      rw [Function.comp_apply, nameOf_name (h name hname), id]
    _ = names := List.map_id names

theorem phrase_names (filled : names ≠ []) (h : ∀ name ∈ names, Quotable name) :
    ∃ ts, Phrase (Formatter.memory.names names).toList ts := by
  cases names with
  | nil => exact absurd rfl filled
  | cons name names =>
    rw [Formatter.names, List.map_cons]
    refine phrase_joined fun t ht => ?_
    rw [← List.map_cons] at ht
    obtain ⟨other, hother, rfl⟩ := List.mem_map.mp ht
    exact ⟨_, phrase_name (h other hother)⟩

/-! ## Names at the front of a text -/

theorem takeDoubleQuoted_marks (cs seen : List Char) (fallback : Option (List Char × List Char))
    {rest : List Char} (apart : rest.head? ≠ some '\x22') :
    takeDoubleQuoted seen fallback (doubledMarks cs ++ '\x22' :: rest) =
      some (seen.reverse ++ (doubledMarks cs ++ ['\x22']), rest) := by
  induction cs generalizing seen fallback with
  | nil =>
    cases rest with
    | nil => simp [doubledMarks, takeDoubleQuoted]
    | cons c tail =>
      have hc : c ≠ '\x22' := fun e => apart (congrArg some e)
      simp [doubledMarks, takeDoubleQuoted, hc]
  | cons c cs ih =>
    by_cases hc : c = '\x22'
    · subst hc
      rw [doubledMarks_mark, List.cons_append, List.cons_append, takeDoubleQuoted,
        if_pos (beq_self_eq_true '\x22'), if_pos (beq_self_eq_true '\x22'), ih]
      simp
    · have more := ih (c :: seen) fallback
      obtain ⟨d, tail, e⟩ := exists_cons_marks cs rest
      rw [e] at more
      rw [doubledMarks_cons hc, List.cons_append, e, takeDoubleQuoted, if_neg (by simpa using hc),
        more]
      simp

/-- A quoted name is taken off the front of a text. -/
theorem takeIdentifier_name (name : String) (rest : List Char)
    (apart : rest.head? ≠ some '\x22') :
    takeIdentifier ((Formatter.memory.quoteName name).toList ++ rest) =
      some ((Formatter.memory.quoteName name).toList, rest) := by
  rw [toList_quoteName, List.append_assoc, List.cons_append, takeIdentifier,
    if_pos (beq_self_eq_true '\x22'), List.singleton_append,
    takeDoubleQuoted_marks name.toList ['\x22'] none apart]
  rfl

end Polystore.Sql
