import Polystore.Proofs.Relational.Share

/-!
# Statements keep to their tables

A command sees nothing of the store but the share of its table, and changes nothing else. Two stores
may therefore differ in all other tables, and in the counters of those, without a command telling
them apart; and two commands on different tables may be given in either order. Where the table is
missing not even the counters under its name are looked at: the command makes the table, with no
counters yet, or leaves the store alone.
-/

namespace Polystore.Relational

/-! ## Commands on shares -/

namespace Share

/-- What a command comes to on the share of its table. -/
def answer (x : Share) (c : Command) : Outcome Result :=
  (onShare c.config c.params x c.statement).map (·.1)

/-- The share of its table behind a command, whether it succeeds or fails. -/
def after (x : Share) (c : Command) : Share :=
  match onShare c.config c.params x c.statement with
  | .ok (_, y) => y
  | .error _ => x

end Share

namespace Store

variable {s other : Store} {c d : Command} {name : String}

theorem answer_eq (s : Store) (c : Command) :
    s.answer c = (s.share c.statement.table).answer c := by
  rw [answer, run_eq_settled, Share.answer]
  cases onShare c.config c.params (s.share c.statement.table) c.statement <;> rfl

theorem after_eq (s : Store) (c : Command) :
    s.after c = s.withShare c.statement.table ((s.share c.statement.table).after c) := by
  rw [after, run_eq_settled, Share.after]
  cases onShare c.config c.params (s.share c.statement.table) c.statement with
  | ok made => rfl
  | error e => exact (withShare_share s _).symm

theorem share_after_self (s : Store) (c : Command) :
    (s.after c).share c.statement.table = (s.share c.statement.table).after c := by
  rw [after_eq, share_withShare_self]

/-- The shares of other names stay. -/
theorem share_after_of_ne (ne : c.statement.table ≠ name) :
    (s.after c).share name = s.share name := by
  rw [after_eq, share_withShare_of_ne ne]

theorem withShare_comm {first second : String} (ne : first ≠ second) (s : Store) (x y : Share) :
    (s.withShare first x).withShare second y = (s.withShare second y).withShare first x := by
  refine ext_share fun name => ?_
  simp only [share_withShare]
  by_cases same : first = name
  · have apart : second ≠ name := fun h => ne (same.trans h.symm)
    rw [if_neg apart, if_pos same, if_pos same]
  · rw [if_neg same, if_neg same]

/-- Commands on different tables may change places. -/
theorem after_comm (ne : c.statement.table ≠ d.statement.table) :
    (s.after c).after d = (s.after d).after c := by
  rw [after_eq (s.after c), share_after_of_ne ne, after_eq (s.after d), share_after_of_ne ne.symm,
    after_eq s c, after_eq s d]
  exact withShare_comm ne s _ _

end Store

/-! ## Commands without their table -/

/-- Without the table, what a statement does has nothing to do with the share: it fails, or makes a
share of its own, or keeps the one that is there. -/
theorem onShare_of_missing (config : Config) (params : List Value) (statement : Statement) :
    ∃ o : Outcome (Result × Option Share), ∀ x : Share, x.table = none →
      onShare config params x statement = o.map fun made => (made.1, made.2.getD x) := by
  have refused : ∀ (x : Share) (name : String) (f : Table → Outcome (Result × Share)),
      x.table = none → (x.require name >>= f) = .error (tableNotFound name) := by
    intro x name f missing
    rw [Share.require, missing]
    rfl
  cases statement with
  | createTable name columns ifNotExists =>
    -- the one statement that does something: its share is made of the columns alone
    refine ⟨(newTable name columns).map fun t => (Result.done, some ⟨some t, none⟩),
      fun x missing => ?_⟩
    rw [onShare, missing]
    cases newTable name columns <;> rfl
  | createIndex table index columns unique ifNotExists =>
    exact ⟨.error (tableNotFound table), fun x missing => refused x table _ missing⟩
  | insert table columns values =>
    by_cases fits : columns.length = values.length
    · refine ⟨.error (tableNotFound table), fun x missing => ?_⟩
      rw [onShare, if_neg (not_not_intro fits)]
      exact refused x table _ missing
    · refine ⟨.error (ExecutionError.columnCountMismatch columns.length values.length),
        fun x missing => ?_⟩
      rw [onShare, if_pos fits]
      rfl
  | select q => exact ⟨.error (tableNotFound q.table), fun x missing => refused x q.table _ missing⟩
  | update table assignments filter =>
    exact ⟨.error (tableNotFound table), fun x missing => refused x table _ missing⟩
  | delete table filter =>
    exact ⟨.error (tableNotFound table), fun x missing => refused x table _ missing⟩
  | alterTable table alterations =>
    exact ⟨.error (tableNotFound table), fun x missing => refused x table _ missing⟩
  | dropTable name ifExists =>
    refine ⟨if ifExists then .ok (Result.done, none) else .error (tableNotFound name),
      fun x missing => ?_⟩
    rw [onShare, missing]
    cases ifExists <;> rfl
  | dropIndex table index ifExists =>
    refine ⟨if ifExists then .ok (Result.done, none) else .error (tableNotFound table),
      fun x missing => ?_⟩
    rw [onShare, missing]
    cases ifExists <;> rfl

namespace Store

variable {s other : Store} {c : Command} {name : String}

/-- The table of a name with the counters of its columns, if the table is there. -/
def held (s : Store) (name : String) : Option (Table × Option (TextMap Int64)) :=
  (s.tables.get? name).map fun t => (t, s.counters.get? name)

theorem held_eq_of_share (same : s.share name = other.share name) :
    s.held name = other.held name := by
  have tables : s.tables.get? name = other.tables.get? name := congrArg Share.table same
  have counters : s.counters.get? name = other.counters.get? name := congrArg Share.counters same
  rw [held, held, tables, counters]

theorem held_eq_none : s.held name = none ↔ s.tables.get? name = none := Option.map_eq_none_iff

/-- Stores that hold the same table with the same counters have one share of it. -/
theorem share_eq_of_held (same : s.held name = other.held name) (there : s.held name ≠ none) :
    s.share name = other.share name := by
  obtain ⟨⟨t, counters⟩, holds⟩ := Option.ne_none_iff_exists'.mp there
  obtain ⟨u, found, made⟩ := Option.map_eq_some_iff.mp holds
  obtain ⟨u', found', made'⟩ := Option.map_eq_some_iff.mp (same.symm.trans holds)
  obtain ⟨rfl, rfl⟩ := Prod.mk.inj made
  obtain ⟨rfl, counters⟩ := Prod.mk.inj made'
  rw [share, share, found, found', counters]

/-- Two stores that both lack the table of a command answer it alike, and hold the same table behind
it or none. -/
theorem alike_of_missing (missing : s.tables.get? c.statement.table = none)
    (missing' : other.tables.get? c.statement.table = none) :
    s.answer c = other.answer c ∧
      (s.after c).held c.statement.table = (other.after c).held c.statement.table := by
  obtain ⟨o, made⟩ := onShare_of_missing c.config c.params c.statement
  have here := made (s.share c.statement.table) missing
  have there := made (other.share c.statement.table) missing'
  have neither : s.held c.statement.table = other.held c.statement.table := by
    rw [held_eq_none.mpr missing, held_eq_none.mpr missing']
  rw [answer_eq, answer_eq, after_eq s, after_eq other, Share.answer, Share.answer, Share.after,
    Share.after, here, there]
  cases o with
  | error e =>
    dsimp only [Except.map]
    rw [withShare_share, withShare_share]
    exact ⟨rfl, neither⟩
  | ok next =>
    obtain ⟨r, share⟩ := next
    dsimp only [Except.map]
    cases share with
    | none =>
      rw [Option.getD_none, Option.getD_none, withShare_share, withShare_share]
      exact ⟨rfl, neither⟩
    | some x =>
      refine ⟨rfl, held_eq_of_share ?_⟩
      rw [share_withShare_self, share_withShare_self]
      rfl

end Store

/-! ## Commands on different tables -/

/-- **A command keeps to its table.** Two stores that hold the same table with the same counters
under its name, or that both lack the table, answer it alike and hold the same behind it, down to
the counters under the name if these were the same; every other table and its counters stay. So two
commands on different tables may be given in either order: each comes to the same, and both orders
lead to one store. -/
theorem commands_keep_to_their_table (c : Command) :
    (∀ s other : Store, s.held c.statement.table = other.held c.statement.table →
      s.answer c = other.answer c ∧
        (s.after c).held c.statement.table = (other.after c).held c.statement.table) ∧
    (∀ s other : Store, s.share c.statement.table = other.share c.statement.table →
      (s.after c).share c.statement.table = (other.after c).share c.statement.table) ∧
    (∀ (s : Store) (name : String), name ≠ c.statement.table →
      (s.after c).tables.get? name = s.tables.get? name ∧
        (s.after c).counters.get? name = s.counters.get? name) ∧
    ∀ (s : Store) (d : Command), c.statement.table ≠ d.statement.table →
      (s.after c).answer d = s.answer d ∧ (s.after d).answer c = s.answer c ∧
        (s.after c).after d = (s.after d).after c := by
  have determined : ∀ s other : Store, s.share c.statement.table = other.share c.statement.table →
      s.answer c = other.answer c ∧
        (s.after c).share c.statement.table = (other.after c).share c.statement.table := by
    intro s other same
    rw [Store.answer_eq, Store.answer_eq, Store.share_after_self, Store.share_after_self, same]
    exact ⟨rfl, rfl⟩
  -- where the table is there, one share is all that the two stores need to have in common
  refine ⟨fun s other same => ?_, fun s other same => (determined s other same).2,
    fun s name ne => ?_, fun s d ne => ⟨?_, ?_, Store.after_comm ne⟩⟩
  · by_cases there : s.held c.statement.table = none
    · exact Store.alike_of_missing (Store.held_eq_none.mp there)
        (Store.held_eq_none.mp (same.symm.trans there))
    · obtain ⟨answers, shares⟩ := determined s other (Store.share_eq_of_held same there)
      exact ⟨answers, Store.held_eq_of_share shares⟩
  · have kept := Store.share_after_of_ne (s := s) ne.symm
    exact ⟨congrArg Share.table kept, congrArg Share.counters kept⟩
  · rw [Store.answer_eq, Store.share_after_of_ne ne, ← Store.answer_eq]
  · rw [Store.answer_eq, Store.share_after_of_ne ne.symm, ← Store.answer_eq]

/-- An item without a number is put in. -/
def itemAdded : Command :=
  ⟨.standard, .insert "items" ["label"] [.literal (.text "nut")], []⟩

/-- A list of shelves is made. -/
def shelvesListed : Command :=
  ⟨.standard, .createTable "shelves" [⟨"label", Column.ofType .text⟩] false, []⟩

/-- The store with one table and that store with one more hold the same items, and there are no
shelves in it nor in the store without tables. -/
theorem commands_keep_to_their_table_items :
    (stocked.held "items" = (stocked.after shelvesListed).held "items" ∧
      stocked.answer itemAdded = (stocked.after shelvesListed).answer itemAdded ∧
      (stocked.after itemAdded).held "items" =
        ((stocked.after shelvesListed).after itemAdded).held "items") ∧
    (stocked.held "shelves" = Store.empty.held "shelves" ∧
      stocked.answer shelvesListed = Store.empty.answer shelvesListed ∧
      (stocked.after shelvesListed).share "shelves" =
        (Store.empty.after shelvesListed).share "shelves") ∧
    (stocked.after shelvesListed).tables.get? "items" = stocked.tables.get? "items" ∧
    (stocked.after shelvesListed).after itemAdded =
      (stocked.after itemAdded).after shelvesListed := by
  obtain ⟨alike, _, _, commute⟩ := commands_keep_to_their_table itemAdded
  obtain ⟨listed, shares, others, _⟩ := commands_keep_to_their_table shelvesListed
  have items : stocked.held "items" = (stocked.after shelvesListed).held "items" := by cbv
  have apart : "items" ≠ "shelves" := by decide
  exact ⟨⟨items, alike _ _ items⟩, ⟨rfl, (listed _ _ rfl).1, shares _ _ rfl⟩,
    (others stocked "items" apart).1, (commute stocked shelvesListed apart).2.2.symm⟩

end Polystore.Relational
