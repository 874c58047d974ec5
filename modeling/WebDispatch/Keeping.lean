import WebDispatch.Journal

/-!
# What computations keep

A computation keeps a relation if each of its runs leads from a state to one that is so related to
it, whether the run succeeds or fails. Computations that keep a preorder may be put together at
will.
-/

namespace WebDispatch

namespace Effect

variable {σ τ α β : Type} {R : σ → σ → Prop}

/-- Every run leads from a state to a related one. -/
def Keeps (R : σ → σ → Prop) (act : Effect σ α) : Prop := ∀ s, R s (act s).2

namespace Keeps

section Refl

variable [Std.Refl R]

theorem pure (a : α) : Keeps R (pure a) := fun s => Std.Refl.refl s

theorem throw (e : Error) : Keeps R (throw e : Effect σ α) := fun s => Std.Refl.refl s

theorem get : Keeps R (get : Effect σ σ) := fun s => Std.Refl.refl s

theorem ofExcept (r : Except Error α) : Keeps R (ofExcept r) := fun s => Std.Refl.refl s

end Refl

theorem modify {f : σ → σ} (h : ∀ s, R s (f s)) : Keeps R (modify f : Effect σ PUnit) := h

theorem outcome {act : Effect σ α} (h : act.Keeps R) : act.outcome.Keeps R := h

theorem within {get : σ → τ} {put : σ → τ → σ} (act : Effect τ α) (h : ∀ s t, R s (put s t)) :
    (within get put act).Keeps R := fun s => h s (act (get s)).2

theorem bind [Trans R R R] {act : Effect σ α} {f : α → Effect σ β} (hact : act.Keeps R)
    (hf : ∀ a, (f a).Keeps R) : (act >>= f).Keeps R := by
  intro s
  have hs := hact s
  rw [bind_apply]
  rcases hrun : act s with ⟨e | a, t⟩
  · rwa [hrun] at hs
  · rw [hrun] at hs
    exact Trans.trans hs (hf a t)

/-- Computations one after another, up to the first that fails. -/
theorem forM [Std.Refl R] [Trans R R R] {f : α → Effect σ PUnit} {as : List α}
    (h : ∀ a ∈ as, (f a).Keeps R) : (as.forM f).Keeps R := by
  induction as with
  | nil => exact Keeps.pure PUnit.unit
  | cons a as ih =>
      change (f a >>= fun _ => as.forM f).Keeps R
      exact (h a List.mem_cons_self).bind fun _ => ih fun b hb => h b (List.mem_cons_of_mem a hb)

end Keeps

end Effect

end WebDispatch
