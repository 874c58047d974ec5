import WebDispatch.Keeping

/-!
# Runs

A computation that succeeds is taken apart into the steps that it made: a sequence succeeds exactly
when its first part does and the rest does from the state that this reached. Any run ends in the
first part or goes through it (`bind_cases`). `Result` has the same for results of several steps.
-/

namespace WebDispatch

namespace Effect

variable {σ τ α β : Type} {s s' : σ}

theorem bind_ok_iff {x : Effect σ α} {f : α → Effect σ β} {b : β} :
    (x >>= f) s = (.ok b, s') ↔ ∃ a t, x s = (.ok a, t) ∧ f a t = (.ok b, s') := by
  rcases hx : x s with ⟨e | a, t⟩ <;> simp [hx, and_assoc]

/-- A run of a sequence ends in its first part, or goes through that. -/
theorem bind_cases {x : Effect σ α} {f : α → Effect σ β} {r : Except Error β}
    (h : (x >>= f) s = (r, s')) :
    (∃ e, x s = (.error e, s') ∧ r = .error e) ∨ ∃ a t, x s = (.ok a, t) ∧ f a t = (r, s') := by
  rw [bind_apply] at h
  split at h
  · next a t hx => exact Or.inr ⟨a, t, hx, h⟩
  · next e t hx =>
    cases h
    exact Or.inl ⟨e, hx, rfl⟩

theorem pure_ok_iff {a b : α} : (pure a : Effect σ α) s = (.ok b, s') ↔ a = b ∧ s = s' := by
  simp

theorem get_ok_iff {t : σ} : (get : Effect σ σ) s = (.ok t, s') ↔ s = t ∧ s = s' := by
  simp

theorem modify_ok_iff {f : σ → σ} {u : PUnit} :
    (modify f : Effect σ PUnit) s = (.ok u, s') ↔ f s = s' := by
  simp

theorem ofExcept_ok_iff {r : Except Error α} {a : α} :
    (ofExcept r : Effect σ α) s = (.ok a, s') ↔ r = .ok a ∧ s = s' := by
  simp

theorem within_iff {get : σ → τ} {put : σ → τ → σ} {act : Effect τ α} {r : Except Error α} :
    within get put act s = (r, s') ↔ ∃ t, act (get s) = (r, t) ∧ put s t = s' := by
  rcases hact : act (get s) with ⟨q, t⟩
  simp [hact, and_assoc]

theorem outcome_ok_iff {act : Effect σ α} {r : Except Error α} :
    outcome act s = (.ok r, s') ↔ act s = (r, s') := by
  rcases hact : act s with ⟨q, t⟩
  simp [hact]

end Effect

/-! ## Results -/

namespace Result

variable {α β : Type}

theorem map_ok {f : α → β} {x : Except Error α} {b : β} (h : f <$> x = .ok b) :
    ∃ a, x = .ok a ∧ f a = b := by
  cases x with
  | error e => cases h
  | ok a => exact ⟨a, rfl, Except.ok.inj h⟩

/-- A step that succeeds for an option succeeds for its value, if there is one. -/
theorem mapM_option_ok {f : α → Except Error β} {x : Option α} {y : Option β}
    (h : x.mapM f = .ok y) :
    x = none ∧ y = none ∨ ∃ a b, x = some a ∧ f a = .ok b ∧ y = some b := by
  cases x with
  | none =>
      cases h
      exact Or.inl ⟨rfl, rfl⟩
  | some a =>
      obtain ⟨b, hb, hy⟩ := map_ok h
      exact Or.inr ⟨a, b, rfl, hb, hy.symm⟩

theorem mapM_cons_ok {f : α → Except Error β} {x : α} {xs : List α} {ys : List β}
    (h : (x :: xs).mapM f = .ok ys) :
    ∃ y rest, f x = .ok y ∧ xs.mapM f = .ok rest ∧ ys = y :: rest := by
  rw [List.mapM_cons] at h
  cases hx : f x with
  | error e =>
      rw [hx] at h
      cases h
  | ok y =>
      rw [hx] at h
      obtain ⟨rest, hrest, rfl⟩ := map_ok h
      exact ⟨y, rest, rfl, hrest, rfl⟩

theorem mapM_list_ok {f : α → Except Error β} {xs : List α} {ys : List β}
    (h : xs.mapM f = .ok ys) : xs.filterMap (fun x => (f x).toOption) = ys := by
  induction xs generalizing ys with
  | nil => exact Except.ok.inj h
  | cons x xs ih =>
      obtain ⟨y, rest, hx, hrest, rfl⟩ := mapM_cons_ok h
      rw [List.filterMap_cons_some (by rw [hx]; rfl), ih hrest]

end Result

end WebDispatch
