import Polystore.Proofs.Sql.Phrase

/-!
# Clauses that are found again

Behind its head a statement goes on with clauses, each of them a keyword and a body with blanks
between them. Main statement: where the bodies are phrases, the reader cuts the text into just these
clauses.
-/

namespace Polystore.Sql

/-- The keywords of clauses as they are written. -/
def writtenKeywords : List String := ["WHERE", "GROUP BY", "ORDER BY", "LIMIT", "OFFSET"]

/-- The text of clauses, given by their keywords and bodies. -/
def tailText (clauses : List (String × String)) : List Char :=
  clauses.flatMap fun c => ' ' :: (c.1.toList ++ ' ' :: c.2.toList)

theorem boundary_tailText (clauses : List (String × String)) : Boundary (tailText clauses) := by
  cases clauses with
  | nil => exact boundary_nil
  | cons c clauses => exact boundary_blank _

/-! ## One keyword -/

/-- Characters that belong to a keyword are passed over. -/
theorem clausesFrom_skip (s : Standing) (cs rest : List Char) :
    clausesFrom s cs.length (cs ++ rest) = clausesFrom (cs.foldl Standing.after s) 0 rest := by
  induction cs generalizing s with
  | nil => rfl
  | cons c cs ih =>
    rw [List.cons_append, List.length_cons, clausesFrom, ih]
    rfl

/-- What the reader makes of a keyword in front of a blank. -/
theorem keyword_facts {w : String} (h : w ∈ writtenKeywords) :
    (∃ c cs, w.toList = c :: cs) ∧
    (∀ rest, afterKeyword (w.toList ++ ' ' :: rest) clauseKeywords = some (' ' :: rest)) ∧
    clauseName w.toList = Text.asciiLower w ∧
    ∃ inWord, w.toList.foldl Standing.after (Standing.at 0) = ⟨.outside, 0, inWord⟩ := by
  simp only [writtenKeywords, List.mem_cons, List.not_mem_nil, or_false] at h
  rcases h with rfl | rfl | rfl | rfl | rfl <;>
    exact ⟨⟨_, _, rfl⟩, fun _ => rfl, by decide, ⟨_, rfl⟩⟩

theorem keywordLength_keyword {w : String} (h : w ∈ writtenKeywords) (rest : List Char) :
    keywordLength (Standing.at 0) (w.toList ++ ' ' :: rest) = some w.toList.length := by
  obtain ⟨_, found, _, _⟩ := keyword_facts h
  show (afterKeyword (w.toList ++ ' ' :: rest) clauseKeywords).map _ = _
  rw [found, Option.map_some, List.length_append, Nat.add_sub_cancel]

/-- A keyword begins a clause. -/
theorem clausesFrom_keyword {w : String} (h : w ∈ writtenKeywords) (rest : List Char) :
    clausesFrom (Standing.at 0) 0 (w.toList ++ ' ' :: rest) =
      ([], (Text.asciiLower w, (clausesFrom (Standing.at 0) 0 (' ' :: rest)).1) ::
        (clausesFrom (Standing.at 0) 0 (' ' :: rest)).2) := by
  have length := keywordLength_keyword h rest
  obtain ⟨⟨c, cs, e⟩, _, name, ⟨inWord, after⟩⟩ := keyword_facts h
  have taken : (w.toList ++ ' ' :: rest).take w.toList.length = w.toList := List.take_left
  have body : clausesFrom ((Standing.at 0).after c) cs.length (cs ++ ' ' :: rest) =
      clausesFrom (Standing.at 0) 0 (' ' :: rest) := by
    rw [e, List.foldl_cons] at after
    rw [clausesFrom_skip, after, clausesFrom_boundary (boundary_blank rest)]
  rw [e, List.cons_append] at length taken
  rw [e, List.cons_append, clausesFrom, length]
  show ([], (clauseName ((c :: (cs ++ ' ' :: rest)).take (c :: cs).length),
      (clausesFrom ((Standing.at 0).after c) cs.length (cs ++ ' ' :: rest)).1) ::
    (clausesFrom ((Standing.at 0).after c) cs.length (cs ++ ' ' :: rest)).2) = _
  rw [taken, body, ← e, name]

/-! ## All clauses -/

variable {clauses : List (String × String)}

/-- The clauses are written with keywords, and their bodies are phrases. -/
def Clausal (clauses : List (String × String)) : Prop :=
  ∀ c ∈ clauses, c.1 ∈ writtenKeywords ∧ ∃ ts, Phrase c.2.toList ts

/-- Blanks aside, nothing stands in front of the clauses and around their bodies. -/
theorem clausesFrom_tail (h : Clausal clauses) :
    (∀ c ∈ (clausesFrom (Standing.at 0) 0 (tailText clauses)).1, Text.isBlank c = true) ∧
    (clausesFrom (Standing.at 0) 0 (tailText clauses)).2.map (fun c => (c.1, Text.trim c.2)) =
      clauses.map fun c => (Text.asciiLower c.1, c.2.toList) := by
  induction clauses with
  | nil => exact ⟨fun c hc => (nomatch hc), rfl⟩
  | cons clause clauses ih =>
    obtain ⟨keyword, ts, phrase⟩ := h clause List.mem_cons_self
    obtain ⟨blanks, found⟩ := ih fun c hc => h c (List.mem_cons_of_mem clause hc)
    have text : tailText (clause :: clauses) =
        ' ' :: (clause.1.toList ++ ' ' :: (clause.2.toList ++ tailText clauses)) := by
      simp [tailText]
    have body : clausesFrom (Standing.at 0) 0 (' ' :: (clause.2.toList ++ tailText clauses)) =
        behind (' ' :: clause.2.toList) (clausesFrom (Standing.at 0) 0 (tailText clauses)) := by
      rw [clausesFrom_quiet (by decide)]
      show behind [' '] (clausesFrom (Standing.at 0) 0 _) = _
      rw [phrase.quiet 0 (boundary_tailText clauses), behind_behind]
      rfl
    have trimmed := phrase.tight.trim_between
      (fun c (hc : c ∈ [' ']) => by rw [List.mem_singleton.mp hc]; decide) blanks
    rw [text, clausesFrom_quiet (by decide)]
    show (∀ c ∈ (behind [' '] (clausesFrom (Standing.at 0) 0 _)).1, _) ∧
      (behind [' '] (clausesFrom (Standing.at 0) 0 _)).2.map _ = _
    rw [clausesFrom_keyword keyword, body]
    refine ⟨fun c hc => ?_, ?_⟩
    · rw [List.mem_singleton.mp hc]
      decide
    · show (Text.asciiLower clause.1, Text.trim ([' '] ++ (clause.2.toList ++ _))) ::
        List.map _ _ = _
      rw [trimmed]
      exact congrArg _ found

/-- **The clauses behind a head are found again.** -/
theorem splitClauses_tail (h : Clausal clauses) :
    splitClauses (tailText clauses) =
      ([], clauses.map fun c => (Text.asciiLower c.1, c.2.toList)) := by
  obtain ⟨blanks, found⟩ := clausesFrom_tail h
  show (Text.trim (clausesFrom (Standing.at 0) 0 (tailText clauses)).1, _) = _
  rw [Text.trim_blanks blanks]
  exact congrArg _ found

/-- The clauses behind a phrase are found again, and so is the phrase. -/
theorem splitClauses_phrase {cs : List Char} {ts : List Token} (phrase : Phrase cs ts)
    (h : Clausal clauses) :
    splitClauses (cs ++ tailText clauses) =
      (cs, clauses.map fun c => (Text.asciiLower c.1, c.2.toList)) := by
  obtain ⟨blanks, found⟩ := clausesFrom_tail h
  have front := phrase.quiet 0 (boundary_tailText clauses)
  have trimmed := phrase.tight.trim_between (fun c (hc : c ∈ []) => nomatch hc) blanks
  rw [splitClauses]
  show (Text.trim (clausesFrom (Standing.at 0) 0 (cs ++ tailText clauses)).1,
    (clausesFrom (Standing.at 0) 0 (cs ++ tailText clauses)).2.map _) = _
  rw [front]
  show (Text.trim ([] ++ (cs ++ _)), List.map _ _) = _
  rw [trimmed]
  exact congrArg _ found

end Polystore.Sql
