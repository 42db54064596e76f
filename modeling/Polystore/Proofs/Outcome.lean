import Polystore.Error

/-!
# Outcomes one after the other

What a sequence of fallible parts comes to, opened into what its parts come to. The *verdict* of an
outcome forgets its value and keeps whether it failed and how, which is all that two ways of making
different things from one input can have in common.
-/

namespace Polystore

/-- What remains of an outcome when its value is forgotten. -/
def Outcome.verdict {α : Type} (o : Outcome α) : Outcome Unit := o.map fun _ => ()

namespace Outcome

variable {α β : Type}

theorem ok_bind (a : α) (f : α → Outcome β) : ((.ok a : Outcome α) >>= f) = f a := by
  rfl

theorem bind_eq_ok {o : Outcome α} {f : α → Outcome β} {b : β} :
    (o >>= f) = .ok b ↔ ∃ a, o = .ok a ∧ f a = .ok b := by
  cases o with
  | ok a =>
    constructor
    · exact fun h => ⟨a, rfl, h⟩
    · rintro ⟨a', ha, h⟩
      obtain rfl : a = a' := Except.ok.inj ha
      exact h
  | error e =>
    constructor
    · intro h
      cases h
    · rintro ⟨_, h, _⟩
      cases h

theorem map_eq_ok {o : Outcome α} {f : α → β} {b : β} :
    o.map f = .ok b ↔ ∃ a, o = .ok a ∧ f a = b := by
  cases o with
  | ok a => simp [Except.map]
  | error e => simp [Except.map]

/-- What can be told of the value of an outcome tells that there is one. -/
theorem exists_of_toOption {o : Outcome α} {f : α → β} {b : β} (h : o.toOption.map f = some b) :
    ∃ a, o = .ok a ∧ f a = b := by
  cases o with
  | ok a => exact ⟨a, rfl, Option.some.inj h⟩
  | error e => cases h

/-- A function that succeeds on every item succeeds on the list. -/
theorem mapM_eq_ok {f : α → Outcome β} {g : α → β} {xs : List α}
    (h : ∀ x ∈ xs, f x = .ok (g x)) : xs.mapM f = .ok (xs.map g) := by
  induction xs with
  | nil => rfl
  | cons x xs ih =>
    rw [List.mapM_cons, h x List.mem_cons_self, ih fun y hy => h y (List.mem_cons_of_mem x hy)]
    rfl

theorem mapM_cons_eq_ok {f : α → Outcome β} {x : α} {xs : List α} {ys : List β} :
    (x :: xs).mapM f = .ok ys ↔
      ∃ y zs, f x = .ok y ∧ xs.mapM f = .ok zs ∧ ys = y :: zs := by
  rw [List.mapM_cons, bind_eq_ok]
  constructor
  · rintro ⟨y, hy, h⟩
    obtain ⟨zs, hzs, h⟩ := bind_eq_ok.mp h
    exact ⟨y, zs, hy, hzs, (Except.ok.inj h).symm⟩
  · rintro ⟨y, zs, hy, hzs, rfl⟩
    exact ⟨y, hy, bind_eq_ok.mpr ⟨zs, hzs, rfl⟩⟩

/-- Two functions on every item are one after the other on the list. -/
theorem mapM_map {γ : Type} (f : α → Outcome β) (g : β → γ) (xs : List α) :
    (xs.mapM fun x => (f x).map g) = (xs.mapM f).map (List.map g) := by
  induction xs with
  | nil => rfl
  | cons x xs ih =>
    rw [List.mapM_cons, List.mapM_cons, ih]
    cases f x with
    | error e => rfl
    | ok y => cases xs.mapM f <;> rfl

theorem mapM_append (f : α → Outcome β) (xs ys : List α) :
    (xs ++ ys).mapM f = (do
      let bs ← xs.mapM f
      let cs ← ys.mapM f
      .ok (bs ++ cs)) :=
  List.mapM_append

theorem length_of_mapM {f : α → Outcome β} {xs : List α} {ys : List β} (h : xs.mapM f = .ok ys) :
    ys.length = xs.length := by
  induction xs generalizing ys with
  | nil =>
    cases h
    rfl
  | cons x xs ih =>
    obtain ⟨y, zs, _, hzs, rfl⟩ := mapM_cons_eq_ok.mp h
    rw [List.length_cons, List.length_cons, ih hzs]

/-- Whatever comes out of a list came from an item of it. -/
theorem mem_of_mapM {f : α → Outcome β} {xs : List α} {ys : List β} (h : xs.mapM f = .ok ys) :
    ∀ y ∈ ys, ∃ x ∈ xs, f x = .ok y := by
  induction xs generalizing ys with
  | nil =>
    cases h
    simp
  | cons x xs ih =>
    obtain ⟨y, zs, hy, hzs, rfl⟩ := mapM_cons_eq_ok.mp h
    intro z hz
    rcases List.mem_cons.mp hz with rfl | hz
    · exact ⟨x, List.mem_cons_self, hy⟩
    · obtain ⟨x', hx', hz⟩ := ih hzs z hz
      exact ⟨x', List.mem_cons_of_mem x hx', hz⟩

/-- Where a list comes to something, every item of it does. -/
theorem exists_of_mapM {f : α → Outcome β} {xs : List α} {ys : List β} (h : xs.mapM f = .ok ys) :
    ∀ x ∈ xs, ∃ y, f x = .ok y := by
  induction xs generalizing ys with
  | nil => simp
  | cons x xs ih =>
    obtain ⟨y, zs, hy, hzs, _⟩ := mapM_cons_eq_ok.mp h
    intro z hz
    rcases List.mem_cons.mp hz with rfl | hz
    · exact ⟨y, hy⟩
    · exact ih hzs z hz

/-- A list comes to itself just when every item does. -/
theorem eq_self_iff_of_mapM {f : α → Outcome α} {xs ys : List α} (h : xs.mapM f = .ok ys) :
    ys = xs ↔ ∀ x ∈ xs, f x = .ok x := by
  induction xs generalizing ys with
  | nil =>
    cases h
    simp
  | cons x xs ih =>
    obtain ⟨y, zs, hy, hzs, rfl⟩ := mapM_cons_eq_ok.mp h
    rw [List.cons.injEq, ih hzs, List.forall_mem_cons, hy, Except.ok.injEq]

/-- A list in which every item is marked by a test that may fail: the test settles every item, and
the marks are what it comes to. -/
theorem exists_marks {f : α → Outcome Bool} {xs : List α} {ys : List (α × Bool)}
    (h : (xs.mapM fun x => (f x).map fun m => (x, m)) = .ok ys) :
    ∃ hit : α → Bool, (∀ x ∈ xs, f x = .ok (hit x)) ∧ ys = xs.map fun x => (x, hit x) := by
  let hit (x : α) : Bool := (f x).toOption.getD false
  have decides : ∀ x ∈ xs, f x = .ok (hit x) := by
    intro x there
    obtain ⟨_, marked⟩ := exists_of_mapM h x there
    obtain ⟨m, met, _⟩ := map_eq_ok.mp marked
    simp only [hit, met]
    rfl
  have all : (xs.mapM fun x => (f x).map fun m => (x, m)) =
      .ok (xs.map fun x => (x, hit x)) := by
    refine mapM_eq_ok fun x there => ?_
    rw [decides x there]
    rfl
  exact ⟨hit, decides, Except.ok.inj (h.symm.trans all)⟩

/-- What every item keeps is kept along the list. -/
theorem map_of_mapM {γ : Type} {f : α → Outcome β} {g : β → γ} {k : α → γ} {xs : List α}
    {ys : List β} (kept : ∀ x y, f x = .ok y → g y = k x) (h : xs.mapM f = .ok ys) :
    ys.map g = xs.map k := by
  induction xs generalizing ys with
  | nil =>
    cases h
    rfl
  | cons x xs ih =>
    obtain ⟨y, zs, hy, hzs, rfl⟩ := mapM_cons_eq_ok.mp h
    rw [List.map_cons, List.map_cons, kept x y hy, ih hzs]

/-- What one item after the other keeps, a run over a list keeps. -/
theorem foldlM_invariant {f : β → α → Outcome β} {P : β → Prop} {xs : List α} {b c : β}
    (kept : ∀ b x c, x ∈ xs → P b → f b x = .ok c → P c) (start : P b)
    (h : xs.foldlM f b = .ok c) : P c := by
  induction xs generalizing b with
  | nil =>
    cases h
    exact start
  | cons x xs ih =>
    rw [List.foldlM_cons] at h
    obtain ⟨d, hd, h⟩ := bind_eq_ok.mp h
    exact ih (fun b y c hy => kept b y c (List.mem_cons_of_mem x hy))
      (kept b x d List.mem_cons_self start hd) h

/-- What carries over one item after the other carries over a list. -/
theorem foldlM_map {f : β → α → Outcome β} {g : β → β}
    (carries : ∀ b x, f (g b) x = (f b x).map g) (xs : List α) (b : β) :
    xs.foldlM f (g b) = (xs.foldlM f b).map g := by
  induction xs generalizing b with
  | nil => rfl
  | cons x xs ih =>
    rw [List.foldlM_cons, List.foldlM_cons, carries]
    cases f b x with
    | error e => rfl
    | ok c => exact ih c

/-! ## Errors that may arise -/

/-- Whenever the outcome is an error, the error is one of some kind. -/
def FailsOnly (P : Error → Prop) (o : Outcome α) : Prop := ∀ e, o = .error e → P e

section FailsOnly

variable {P : Error → Prop}

theorem failsOnly_ok (a : α) : FailsOnly P (.ok a : Outcome α) := by
  intro e h
  cases h

theorem failsOnly_error {e : Error} (h : P e) : FailsOnly P (.error e : Outcome α) := by
  intro e' h'
  cases h'
  exact h

/-- What fails in a sequence fails in its first part, or behind a first part that succeeded. -/
theorem failsOnly_bind {o : Outcome α} {f : α → Outcome β} (ho : FailsOnly P o)
    (hf : ∀ a, o = .ok a → FailsOnly P (f a)) : FailsOnly P (o >>= f) := by
  cases o with
  | ok a => exact hf a rfl
  | error e => exact failsOnly_error (ho e rfl)

theorem failsOnly_map {o : Outcome α} (f : α → β) (ho : FailsOnly P o) :
    FailsOnly P (o.map f) := by
  cases o with
  | ok a => exact failsOnly_ok (f a)
  | error e => exact failsOnly_error (ho e rfl)

theorem failsOnly_mapM {f : α → Outcome β} {xs : List α} (h : ∀ x ∈ xs, FailsOnly P (f x)) :
    FailsOnly P (xs.mapM f) := by
  induction xs with
  | nil => exact failsOnly_ok []
  | cons x xs ih =>
    rw [List.mapM_cons]
    refine failsOnly_bind (h x List.mem_cons_self) fun y _ => ?_
    refine failsOnly_bind (ih fun z hz => h z (List.mem_cons_of_mem x hz)) fun zs _ => ?_
    exact failsOnly_ok (y :: zs)

theorem failsOnly_foldlM {f : β → α → Outcome β} (h : ∀ b x, FailsOnly P (f b x)) (xs : List α)
    (b : β) : FailsOnly P (xs.foldlM f b) := by
  induction xs generalizing b with
  | nil => exact failsOnly_ok b
  | cons x xs ih =>
    rw [List.foldlM_cons]
    exact failsOnly_bind (h b x) fun c _ => ih c

end FailsOnly

/-! ## Verdicts -/

theorem verdict_map (o : Outcome α) (f : α → β) : verdict (o.map f) = verdict o := by
  cases o <;> rfl

/-- Two parts one after the other fail as their verdicts do. -/
theorem verdict_bind {o : Outcome α} {f : α → Outcome β} {v w : Outcome Unit}
    (ho : verdict o = v) (hf : ∀ a, verdict (f a) = w) :
    verdict (o >>= f) = (do v; w) := by
  subst ho
  cases o with
  | ok a => exact hf a
  | error e => rfl

theorem eq_error_iff_verdict {o : Outcome α} {e : Error} :
    o = .error e ↔ verdict o = .error e := by
  cases o <;> simp [verdict, Except.map]

/-- Outcomes with one verdict fail together. -/
theorem eq_error_iff_of_verdict {o : Outcome α} {o' : Outcome β} {e : Error}
    (h : verdict o = verdict o') : o = .error e ↔ o' = .error e := by
  rw [eq_error_iff_verdict, h]
  exact eq_error_iff_verdict.symm

theorem exists_ok_of_verdict {o : Outcome α} (h : verdict o = .ok ()) : ∃ a, o = .ok a := by
  cases o with
  | ok a => exact ⟨a, rfl⟩
  | error e => cases h

end Outcome

end Polystore
