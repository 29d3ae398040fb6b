import Mathlib

/-! Computations that may fail: guards, sequencing and their success conditions. -/
namespace Checked

variable {ε ε' α β : Type}

/-- The guard `if (c) revert e`. -/
def revertIf (c : Prop) [Decidable c] (e : ε) : Except ε Unit :=
  if c then .error e else .ok ()

@[simp] theorem revertIf_ok (c : Prop) [Decidable c] (e : ε) (u : Unit) :
    revertIf c e = .ok u ↔ ¬ c := by
  unfold revertIf
  split <;> simp_all

@[simp] theorem bind_ok (x : Except ε α) (f : α → Except ε β) (b : β) :
    (x >>= f) = .ok b ↔ ∃ a, x = .ok a ∧ f a = .ok b := by
  cases x with
  | error e => simp [bind, Except.bind]
  | ok a => simp [bind, Except.bind]

@[simp] theorem pure_ok (a b : α) : (pure a : Except ε α) = .ok b ↔ a = b := by
  simp [pure, Except.pure]

@[simp] theorem map_ok (f : α → β) (x : Except ε α) (b : β) :
    (f <$> x) = .ok b ↔ ∃ a, x = .ok a ∧ f a = b := by
  cases x with
  | error e => simp [Functor.map, Except.map]
  | ok a => simp [Functor.map, Except.map]

@[simp] theorem mapError_ok (f : ε → ε') (x : Except ε α) (a : α) :
    x.mapError f = .ok a ↔ x = .ok a := by
  cases x <;> simp [Except.mapError]

@[simp] theorem ite_ok (c : Prop) [Decidable c] (x y : Except ε α) (a : α) :
    (if c then x else y) = .ok a ↔ (c ∧ x = .ok a) ∨ (¬ c ∧ y = .ok a) := by
  by_cases h : c <;> simp [h]

/-- Unwrap a value that may be missing. -/
def demand (e : ε) : Option α → Except ε α
  | some a => .ok a
  | none => .error e

@[simp] theorem demand_ok (e : ε) (o : Option α) (a : α) : demand e o = .ok a ↔ o = some a := by
  cases o <;> simp [demand]

section Failures

theorem revertIf_error (c : Prop) [Decidable c] (e e' : ε) :
    (revertIf c e = .error e') ↔ c ∧ e = e' := by
  unfold revertIf
  split <;> simp_all

theorem bind_error (x : Except ε α) (f : α → Except ε β) (e : ε) :
    (x >>= f) = .error e ↔ x = .error e ∨ ∃ a, x = .ok a ∧ f a = .error e := by
  cases x with
  | error e' => simp [bind, Except.bind]
  | ok a => simp [bind, Except.bind]

theorem demand_error (e e' : ε) (o : Option α) : demand e o = .error e' ↔ o = none ∧ e = e' := by
  cases o <;> simp [demand]

end Failures

/-- Guards in a loop all have to pass. -/
theorem forM_ok (guards : List α) (f : α → Except ε Unit) :
    guards.forM f = .ok () ↔ ∀ a ∈ guards, f a = .ok () := by
  induction guards with
  | nil => simp [pure, Except.pure]
  | cons a rest ih =>
    rw [List.forall_mem_cons, ← ih]
    constructor
    · intro done
      obtain ⟨_, first, others⟩ := (bind_ok _ _ _).mp done
      exact ⟨first, others⟩
    · intro done
      exact (bind_ok _ _ _).mpr ⟨(), done⟩

end Checked
