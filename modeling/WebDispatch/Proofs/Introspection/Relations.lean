import Mathlib.Data.List.Nodup
import WebDispatch.Introspection

/-!
# Relations of descriptions

The relations of a store are kept as a list of targets for each key, so that every relation stands
in two lists. A change ties two keys or unties them, whichever of the two it is carried out for.
So the two lists always agree, and a registration leaves two keys tied exactly if its last word on
them ties them, or it says nothing and they were tied.

* `targets`, `Related` — the keys that a key is related to;
* `Joins` — a change on behalf of one key, towards another, concerns a pair of keys;
* `related_foldl_change` — what a list of changes leaves of a relation;
* `related_remove`, `nodup_targets_remove` — what a removal leaves.
-/

namespace WebDispatch

/-! ## Properties that steps set and end -/

namespace Folding

variable {σ α : Type} {step : σ → α → σ} {P : σ → Prop} {sets ends : σ → α → Prop} {s : σ} {x : α}
  {xs : List α}

/-- None of the steps ends a property. -/
def Undisturbed (step : σ → α → σ) (ends : σ → α → Prop) (s : σ) (xs : List α) : Prop :=
  ∀ before x after, xs = before ++ x :: after → ¬ ends (before.foldl step s) x

/-- One of the steps sets a property, and none of those behind it ends it. -/
def SetLast (step : σ → α → σ) (sets ends : σ → α → Prop) (s : σ) (xs : List α) : Prop :=
  ∃ before x after, xs = before ++ x :: after ∧ sets (before.foldl step s) x ∧
    Undisturbed step ends (step (before.foldl step s) x) after

theorem undisturbed_nil : Undisturbed step ends s [] := by
  intro before x after h
  simp at h

theorem undisturbed_cons_iff :
    Undisturbed step ends s (x :: xs) ↔ ¬ ends s x ∧ Undisturbed step ends (step s x) xs := by
  constructor
  · intro h
    refine ⟨h [] x xs rfl, ?_⟩
    rintro before y after rfl
    exact h (x :: before) y after rfl
  · rintro ⟨hx, hxs⟩ (_ | ⟨b, before⟩) y after heq
    · obtain ⟨rfl, rfl⟩ := List.cons.inj heq
      exact hx
    · obtain ⟨rfl, rfl⟩ := List.cons.inj heq
      exact hxs before y after rfl

/-- Where it does not depend on the state whether a step ends the property, the steps can be asked
one by one. -/
theorem undisturbed_iff_forall {ends : α → Prop} :
    Undisturbed step (fun _ x => ends x) s xs ↔ ∀ x ∈ xs, ¬ ends x := by
  constructor
  · intro h x hx
    obtain ⟨before, after, hsplit⟩ := List.append_of_mem hx
    exact h before x after hsplit
  · rintro h before x after rfl
    exact h x (by simp)

theorem not_setLast_nil : ¬ SetLast step sets ends s [] := by
  rintro ⟨before, x, after, h, -⟩
  simp at h

theorem setLast_cons_iff :
    SetLast step sets ends s (x :: xs) ↔
      sets s x ∧ Undisturbed step ends (step s x) xs ∨ SetLast step sets ends (step s x) xs := by
  constructor
  · rintro ⟨_ | ⟨b, before⟩, y, after, heq, hsets, hafter⟩
    · obtain ⟨rfl, rfl⟩ := List.cons.inj heq
      exact Or.inl ⟨hsets, hafter⟩
    · obtain ⟨rfl, rfl⟩ := List.cons.inj heq
      exact Or.inr ⟨before, y, after, rfl, hsets, hafter⟩
  · rintro (⟨hsets, hafter⟩ | ⟨before, y, after, rfl, hsets, hafter⟩)
    · exact ⟨[], x, xs, rfl, hsets, hafter⟩
    · exact ⟨x :: before, y, after, rfl, hsets, hafter⟩

/-- A property that each step sets or ends or leaves as it is holds in the end if it has been set
and not ended since, or held from the beginning and was never ended. -/
theorem foldl_iff (hstep : ∀ s x, P (step s x) ↔ sets s x ∨ P s ∧ ¬ ends s x) :
    P (xs.foldl step s) ↔
      P s ∧ Undisturbed step ends s xs ∨ SetLast step sets ends s xs := by
  induction xs generalizing s with
  | nil => simp [undisturbed_nil, not_setLast_nil]
  | cons x xs ih =>
      rw [List.foldl_cons, ih, hstep, undisturbed_cons_iff, setLast_cons_iff]
      tauto

end Folding

namespace IntrospectionKey

def Joins (source target a b : IntrospectionKey) : Prop :=
  source = a ∧ target = b ∨ source = b ∧ target = a

theorem Joins.symm {source target a b : IntrospectionKey} (h : Joins source target a b) :
    Joins source target b a := Or.symm h

end IntrospectionKey

open IntrospectionKey (Joins)

namespace RelationChange

def Ties (source a b : IntrospectionKey) : RelationChange → Prop
  | .relate target => Joins source target a b
  | .unrelate _ => False

def Unties (source a b : IntrospectionKey) : RelationChange → Prop
  | .relate _ => False
  | .unrelate target => Joins source target a b

variable {source a b : IntrospectionKey} {change : RelationChange}

theorem Ties.symm (h : change.Ties source a b) : change.Ties source b a := by
  cases change with
  | relate target => exact Joins.symm h
  | unrelate target => exact h

theorem Unties.symm (h : change.Unties source a b) : change.Unties source b a := by
  cases change with
  | relate target => exact h
  | unrelate target => exact Joins.symm h

end RelationChange

namespace Introspector

variable {s : Introspector} {i : Introspectable} {a b k source target : IntrospectionKey}

def targets (s : Introspector) (k : IntrospectionKey) : List IntrospectionKey :=
  (s.relations.get? k).getD []

def Related (s : Introspector) (a b : IntrospectionKey) : Prop := b ∈ s.targets a

/-! ## One direction -/

@[simp] theorem targets_addTarget (k : IntrospectionKey) :
    (addTarget source target s).targets k =
      if source = k then
        if target ∈ s.targets k then s.targets k else s.targets k ++ [target]
      else s.targets k := by
  by_cases hk : source = k
  · subst hk
    by_cases hmem : target ∈ (s.relations.get? source).getD [] <;> simp [targets, addTarget, hmem]
  · simp [targets, addTarget, hk]

@[simp] theorem targets_dropTarget (k : IntrospectionKey) :
    (dropTarget source target s).targets k =
      if source = k then (s.targets k).filter (· ≠ target) else s.targets k := by
  unfold targets dropTarget
  split
  · next found hfound =>
      by_cases hk : source = k
      · subst hk
        simp [hfound]
      · simp [hk]
  · next hnone =>
      split
      · next hk => rw [← hk, hnone]; rfl
      · rfl

theorem related_addTarget :
    (addTarget source target s).Related a b ↔ s.Related a b ∨ source = a ∧ target = b := by
  unfold Related
  rw [targets_addTarget]
  by_cases ha : source = a
  · subst ha
    rw [if_pos rfl]
    split
    · next hmem =>
        constructor
        · exact Or.inl
        · rintro (h | ⟨-, rfl⟩)
          · exact h
          · exact hmem
    · simp [eq_comm]
  · simp [ha]

theorem related_dropTarget :
    (dropTarget source target s).Related a b ↔ s.Related a b ∧ ¬ (source = a ∧ target = b) := by
  unfold Related
  rw [targets_dropTarget]
  by_cases ha : source = a
  · rw [if_pos ha, List.mem_filter, decide_eq_true_eq]
    simp only [ha, true_and]
    exact and_congr_right fun _ => ne_comm
  · simp [ha]

theorem nodup_targets_addTarget (h : (s.targets k).Nodup) :
    ((addTarget source target s).targets k).Nodup := by
  rw [targets_addTarget]
  split
  · split
    · exact h
    · next hnew =>
        rw [← List.concat_eq_append]
        exact h.concat hnew
  · exact h

theorem nodup_targets_dropTarget (h : (s.targets k).Nodup) :
    ((dropTarget source target s).targets k).Nodup := by
  rw [targets_dropTarget]
  split
  · exact h.filter _
  · exact h

/-! ## Changes -/

/-- A change ties or unties a pair of keys, and has nothing to do with the others. -/
theorem related_change (s : Introspector) (change : RelationChange) :
    (Introspector.change source s change).Related a b ↔
      change.Ties source a b ∨ s.Related a b ∧ ¬ change.Unties source a b := by
  cases change with
  | relate target =>
      rw [Introspector.change, related_addTarget, related_addTarget]
      unfold RelationChange.Ties RelationChange.Unties Joins
      tauto
  | unrelate target =>
      rw [Introspector.change, related_dropTarget, related_dropTarget]
      unfold RelationChange.Ties RelationChange.Unties Joins
      tauto

theorem nodup_targets_change (change : RelationChange) (h : (s.targets k).Nodup) :
    ((Introspector.change source s change).targets k).Nodup := by
  cases change with
  | relate target => exact nodup_targets_addTarget (nodup_targets_addTarget h)
  | unrelate target => exact nodup_targets_dropTarget (nodup_targets_dropTarget h)

/-- Changes have a last word on a pair of keys, if any. -/
theorem related_foldl_change (changes : List RelationChange) :
    (changes.foldl (change source) s).Related a b ↔
      (∃ earlier last later, changes = earlier ++ last :: later ∧ last.Ties source a b ∧
        ∀ c ∈ later, ¬ c.Unties source a b) ∨
      s.Related a b ∧ ¬ ∃ c ∈ changes, c.Unties source a b := by
  have hlaw : (changes.foldl (change source) s).Related a b ↔
      s.Related a b ∧
          Folding.Undisturbed (change source) (fun _ c => c.Unties source a b) s changes ∨
        Folding.SetLast (change source) (fun _ c => c.Ties source a b)
          (fun _ c => c.Unties source a b) s changes :=
    Folding.foldl_iff (P := fun s : Introspector => s.Related a b) related_change
  rw [hlaw, Folding.undisturbed_iff_forall, or_comm]
  unfold Folding.SetLast
  simp only [Folding.undisturbed_iff_forall, not_exists, not_and]

theorem nodup_targets_foldl_change (changes : List RelationChange) (h : (s.targets k).Nodup) :
    ((changes.foldl (change source) s).targets k).Nodup := by
  induction changes generalizing s with
  | nil => exact h
  | cons first changes ih => exact ih (nodup_targets_change first h)

/-! ## Adding and removing -/

theorem targets_add (s : Introspector) (i : Introspectable) (k : IntrospectionKey) :
    (s.add i).targets k = s.targets k := rfl

theorem remove_of_absent (h : s.get? k = none) : s.remove k = (none, s) := by
  rw [remove, h]

theorem targets_remove (h : (s.get? k).isSome) (a : IntrospectionKey) :
    (s.remove k).2.targets a = if k = a then [] else (s.targets a).filter (· ≠ k) := by
  obtain ⟨i, hi⟩ := Option.isSome_iff_exists.mp h
  rw [remove, hi]
  simp only [targets, OrderedMap.get?_mapValues, OrderedMap.get?_erase]
  split
  · rfl
  · cases s.relations.get? a <;> rfl

/-- With a description all relations of its key are removed. -/
theorem related_remove :
    (s.remove k).2.Related a b ↔ s.Related a b ∧ ¬ ((s.get? k).isSome ∧ (k = a ∨ k = b)) := by
  cases hk : s.get? k with
  | none =>
      rw [remove_of_absent hk]
      simp
  | some i =>
      unfold Related
      rw [targets_remove (by rw [hk]; rfl), Option.isSome_some]
      by_cases ha : k = a
      · simp [ha]
      · rw [if_neg ha, List.mem_filter, decide_eq_true_eq]
        simp only [ha, false_or, true_and]
        exact and_congr_right fun _ => ne_comm

theorem nodup_targets_remove (h : (s.targets a).Nodup) : ((s.remove k).2.targets a).Nodup := by
  cases hk : s.get? k with
  | none => rwa [remove_of_absent hk]
  | some i =>
      rw [targets_remove (by rw [hk]; rfl)]
      split
      · exact List.nodup_nil
      · exact h.filter _

end Introspector

end WebDispatch
