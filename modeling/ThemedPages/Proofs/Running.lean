import ThemedPages.Failure

/-!
# Running operations

An operation changes a state and gives a result or a failure; a failure keeps the state that was
reached. Each lemma runs one way of putting operations together, for any kind of state and of
failure.

`Moves R` are the operations that go from any state to one that `R` relates to it. If `R` is
transitive, operations of this kind make up operations of this kind.
-/

namespace ThemedPages

variable {ε ρ α β : Type} {s s' : ρ} {x : ExceptT ε (StateM ρ) α} {f : α → ExceptT ε (StateM ρ) β}

theorem run_bind (x : ExceptT ε (StateM ρ) α) (f : α → ExceptT ε (StateM ρ) β) (s : ρ) :
    (x >>= f) s = match x s with
      | (.ok a, s') => f a s'
      | (.error failure, s') => (.error failure, s') := by
  simp only [Bind.bind, ExceptT.bind, ExceptT.mk, StateT.bind, ExceptT.bindCont]
  cases x s with
  | mk outcome next => cases outcome <;> rfl

theorem run_map (f : α → β) (x : ExceptT ε (StateM ρ) α) (s : ρ) :
    (f <$> x) s = ((x s).1.map f, (x s).2) := by
  simp only [Functor.map, ExceptT.map, ExceptT.mk, Bind.bind, StateT.bind]
  cases x s with
  | mk outcome next => cases outcome <;> rfl

theorem bind_ok {a : α} (h : x s = (.ok a, s')) : (x >>= f) s = f a s' := by
  rw [run_bind, h]

theorem bind_error {failure : ε} (h : x s = (.error failure, s')) :
    (x >>= f) s = (.error failure, s') := by
  rw [run_bind, h]

/-- What succeeds has succeeded at each step. -/
theorem run_bind_eq_ok_iff {b : β} : (x >>= f) s = (.ok b, s') ↔
    ∃ a s₁, x s = (.ok a, s₁) ∧ f a s₁ = (.ok b, s') := by
  rw [run_bind]
  constructor
  · intro h
    split at h
    · rename_i a s₁ hx
      exact ⟨a, s₁, hx, h⟩
    · cases h
  · rintro ⟨a, s₁, hx, hf⟩
    rw [hx]
    exact hf

/-- What fails has failed at one step, after others that succeeded. -/
theorem run_bind_eq_error_iff {failure : ε} : (x >>= f) s = (.error failure, s') ↔
    x s = (.error failure, s') ∨
      ∃ a s₁, x s = (.ok a, s₁) ∧ f a s₁ = (.error failure, s') := by
  rw [run_bind]
  constructor
  · intro h
    split at h
    · rename_i a s₁ hx
      exact .inr ⟨a, s₁, hx, h⟩
    · rename_i failure' s₁ hx
      cases h
      exact .inl hx
  · rintro (hx | ⟨a, s₁, hx, hf⟩)
    · rw [hx]
    · rw [hx]
      exact hf

theorem run_observing (x : ExceptT ε (StateM ρ) α) (s : ρ) :
    observing x s = (.ok (x s).1, (x s).2) := by
  simp only [observing, MonadExcept.tryCatch, tryCatchThe, MonadExceptOf.tryCatch,
    ExceptT.tryCatch, ExceptT.mk, Bind.bind, ExceptT.bind, ExceptT.bindCont, StateT.bind]
  cases x s with
  | mk outcome next => cases outcome <;> rfl

theorem run_discard (x : ExceptT ε (StateM ρ) α) (s : ρ) :
    Functor.discard x s = ((x s).1.map fun _ => PUnit.unit, (x s).2) :=
  run_map (fun _ => PUnit.unit) x s

@[simp] theorem run_pure (a : α) (s : ρ) :
    (pure a : ExceptT ε (StateM ρ) α) s = (.ok a, s) := rfl

@[simp] theorem run_throw (failure : ε) (s : ρ) :
    (throw failure : ExceptT ε (StateM ρ) α) s = (.error failure, s) := rfl

@[simp] theorem run_lift (x : Except ε α) (s : ρ) :
    (liftM x : ExceptT ε (StateM ρ) α) s = (x, s) := rfl

@[simp] theorem run_get (s : ρ) : (get : ExceptT ε (StateM ρ) _) s = (.ok s, s) := rfl

@[simp] theorem run_modify (f : ρ → ρ) (s : ρ) :
    (modify f : ExceptT ε (StateM ρ) _) s = (.ok (), f s) := rfl

/-! ## Where operations lead -/

/-- Whatever it gives, it goes to a state that is related to the one before. -/
def Moves (R : ρ → ρ → Prop) (x : ExceptT ε (StateM ρ) α) : Prop := ∀ s, R s (x s).2

namespace Moves

variable {R : ρ → ρ → Prop}

theorem bind (trans : ∀ {a b c}, R a b → R b c → R a c) (hx : Moves R x)
    (hf : ∀ a, Moves R (f a)) : Moves R (x >>= f) := by
  intro s
  have hfirst := hx s
  rw [run_bind]
  cases hrun : x s with
  | mk outcome next =>
    rw [hrun] at hfirst
    cases outcome with
    | error failure => exact hfirst
    | ok a => exact trans hfirst (hf a next)

theorem discard (hx : Moves R x) : Moves R (Functor.discard x) := by
  intro s
  rw [run_discard]
  exact hx s

theorem observing (hx : Moves R x) : Moves R (observing x) := by
  intro s
  rw [run_observing]
  exact hx s

theorem forM (refl : ∀ s, R s s) (trans : ∀ {a b c}, R a b → R b c → R a c)
    {f : α → ExceptT ε (StateM ρ) PUnit} (hf : ∀ a, Moves R (f a)) (as : List α) :
    Moves R (as.forM f) := by
  induction as with
  | nil => exact refl
  | cons a as ih => exact (hf a).bind trans fun _ => ih

end Moves

end ThemedPages
