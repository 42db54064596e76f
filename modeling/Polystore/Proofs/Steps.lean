import Polystore.Error

/-!
# Steps that fail without a trace

A statement runs as a step that reads and writes a store and may fail on the way. Nothing rolls the
store back: what was written before a failure stays written. A failing step therefore leaves the
store alone when everything that can fail comes before the first write, and that is a property of
the shape of a step. Three notions carry it:

* a step that **reads** never writes, whether it fails or not;
* a step that **succeeds** never fails, whatever it writes;
* a step is **all or nothing** when it has written nothing once it has failed.

Steps of the first two kinds are all or nothing, and a step that reads may stand in front of one
that is all or nothing.
-/

namespace Polystore.Steps

variable {σ α β : Type}

/-- Something that reads and writes a state and may fail. -/
abbrev Stateful (σ α : Type) := ExceptT Error (StateM σ) α

/-- The state behind the step is the one in front of it. -/
def Reads (x : Stateful σ α) : Prop := ∀ s, (x.run.run s).2 = s

/-- The step does not fail. -/
def Succeeds (x : Stateful σ α) : Prop := ∀ s, ∃ a, (x.run.run s).1 = .ok a

/-- The step has written nothing when it fails. -/
def AllOrNothing (x : Stateful σ α) : Prop :=
  ∀ s e, (x.run.run s).1 = .error e → (x.run.run s).2 = s

theorem run_bind (x : Stateful σ α) (f : α → Stateful σ β) (s : σ) :
    (x >>= f).run.run s =
      match x.run.run s with
      | (.ok a, s') => (f a).run.run s'
      | (.error e, s') => (.error e, s') := by
  rw [ExceptT.run_bind, StateT.run_bind]
  cases x.run.run s with
  | mk r s' => cases r <;> rfl

theorem run_bind_ok {x : Stateful σ α} {f : α → Stateful σ β} {s s' : σ} {a : α}
    (h : x.run.run s = (.ok a, s')) : (x >>= f).run.run s = (f a).run.run s' := by
  rw [run_bind, h]

theorem run_get_bind (f : σ → Stateful σ β) (s : σ) : (get >>= f).run.run s = (f s).run.run s := by
  rfl

/-! ## What a step that succeeds has done -/

theorem run_bind_eq_ok {x : Stateful σ α} {f : α → Stateful σ β} {s s' : σ} {b : β} :
    (x >>= f).run.run s = (.ok b, s') ↔
      ∃ a t, x.run.run s = (.ok a, t) ∧ (f a).run.run t = (.ok b, s') := by
  rw [run_bind]
  cases x.run.run s with
  | mk r t =>
    cases r with
    | ok a =>
      constructor
      · exact fun h => ⟨a, t, rfl, h⟩
      · rintro ⟨_, _, h, hf⟩
        cases h
        exact hf
    | error e =>
      constructor
      · intro h
        cases h
      · rintro ⟨_, _, h, _⟩
        cases h

theorem run_pure_eq_ok {a b : α} {s s' : σ} :
    (pure a : Stateful σ α).run.run s = (.ok b, s') ↔ a = b ∧ s = s' := by
  constructor
  · intro h
    cases h
    exact ⟨rfl, rfl⟩
  · rintro ⟨rfl, rfl⟩
    rfl

theorem run_throw_eq_ok {e : Error} {b : α} {s s' : σ} :
    (throw e : Stateful σ α).run.run s = (.ok b, s') ↔ False := by
  constructor
  · intro h
    cases h
  · exact False.elim

theorem run_get_bind_eq_ok {f : σ → Stateful σ β} {s s' : σ} {b : β} :
    (get >>= f).run.run s = (.ok b, s') ↔ (f s).run.run s = (.ok b, s') := by
  rfl

theorem run_modify_bind_eq_ok {g : σ → σ} {f : Unit → Stateful σ β} {s s' : σ} {b : β} :
    (modify g >>= f).run.run s = (.ok b, s') ↔ (f ()).run.run (g s) = (.ok b, s') := by
  rfl

/-- A last write, and what is reported then. -/
theorem run_write_eq_ok {g : σ → σ} {a b : α} {s s' : σ} :
    (do modify g; pure a : Stateful σ α).run.run s = (.ok b, s') ↔ a = b ∧ g s = s' := by
  rw [run_modify_bind_eq_ok, run_pure_eq_ok]

/-! ## Reading -/

theorem reads_pure (a : α) : Reads (pure a : Stateful σ α) := fun _ => rfl

theorem reads_throw (e : Error) : Reads (throw e : Stateful σ α) := fun _ => rfl

theorem reads_get : Reads (get : Stateful σ σ) := fun _ => rfl

theorem reads_bind {x : Stateful σ α} {f : α → Stateful σ β}
    (hx : Reads x) (hf : ∀ a, Reads (f a)) : Reads (x >>= f) := by
  intro s
  have h := hx s
  rw [run_bind]
  generalize x.run.run s = o at h ⊢
  obtain ⟨r, s'⟩ := o
  obtain rfl : s' = s := h
  cases r with
  | ok a => exact hf a s'
  | error e => rfl

/-- What stands behind a failure is never reached. -/
theorem reads_throw_bind (e : Error) (f : α → Stateful σ β) : Reads (throw e >>= f) :=
  fun _ => rfl

/-! ## Succeeding -/

theorem succeeds_pure (a : α) : Succeeds (pure a : Stateful σ α) := fun _ => ⟨a, rfl⟩

theorem succeeds_modify (f : σ → σ) : Succeeds (modify f : Stateful σ Unit) := fun _ => ⟨(), rfl⟩

theorem succeeds_bind {x : Stateful σ α} {f : α → Stateful σ β}
    (hx : Succeeds x) (hf : ∀ a, Succeeds (f a)) : Succeeds (x >>= f) := by
  intro s
  obtain ⟨a, ha⟩ := hx s
  rw [run_bind]
  generalize x.run.run s = o at ha ⊢
  obtain ⟨r, s'⟩ := o
  obtain rfl : r = .ok a := ha
  exact hf a s'

/-- A write in front of steps that succeed. -/
theorem succeeds_modify_bind {g : σ → σ} {f : Unit → Stateful σ β} (hf : Succeeds (f ())) :
    Succeeds (modify g >>= f) := succeeds_bind (succeeds_modify g) fun _ => hf

/-! ## All or nothing -/

theorem Reads.allOrNothing {x : Stateful σ α} (h : Reads x) : AllOrNothing x := fun s _ _ => h s

theorem Succeeds.allOrNothing {x : Stateful σ α} (h : Succeeds x) : AllOrNothing x := by
  intro s e he
  obtain ⟨a, ha⟩ := h s
  rw [ha] at he
  cases he

/-- What only reads may come before what is all or nothing. -/
theorem allOrNothing_bind {x : Stateful σ α} {f : α → Stateful σ β}
    (hx : Reads x) (hf : ∀ a, AllOrNothing (f a)) : AllOrNothing (x >>= f) := by
  intro s e he
  have h := hx s
  rw [run_bind] at he ⊢
  generalize x.run.run s = o at h he ⊢
  obtain ⟨r, s'⟩ := o
  obtain rfl : s' = s := h
  cases r with
  | ok a => exact hf a s' e he
  | error e' => rfl

end Polystore.Steps
