import Mathlib.Data.List.Induction
import WebDispatch.Proofs.Introspection.Storage

/-!
# What a store tells of its history

A store is what a sequence of calls has made of an empty one. Whatever these were and in whatever
order they came, it tells the same as the calls do: the description under a key is the one that
was stored last there and not removed since, numbered by the descriptions stored before it
(`LastStored`), and two keys are related if the last word on them was to relate them (`LastTied`).

* `Call`, `ofCalls` — a call, and what calls make of an empty store;
* `get?_apply_iff`, `related_apply` — what one call does to a key, and to a pair of keys;
* `Consistent` — a store that tells of a history; `consistent_ofCalls` — that every store does.
-/

namespace WebDispatch

namespace Introspector

/-- A call that changes a store. -/
inductive Call where
  | add (i : Introspectable)
  | register (i : Introspectable) (site : Option Site)
  | remove (k : IntrospectionKey)

namespace Call

variable {call : Call} {a b : IntrospectionKey} {s : Introspector}

def apply (s : Introspector) : Call → Introspector
  | add i => s.add i
  | register i site => s.register i site
  | remove k => (s.remove k).2

def key : Call → IntrospectionKey
  | add i | register i _ => i.key
  | remove k => k

/-- What a call stores, but for its number. -/
def stored? : Call → Option Introspectable
  | add i => some i
  | register i site => some { i with site := site, pending := [] }
  | remove _ => none

/-- A call relates two keys: it registers a description, and the last word of this on them is to
relate them. -/
def Ties (a b : IntrospectionKey) : Call → Prop
  | register i _ =>
    ∃ earlier last later, i.pending = earlier ++ last :: later ∧ last.Ties i.key a b ∧
      ∀ change ∈ later, ¬ change.Unties i.key a b
  | add _ | remove _ => False

/-- A call ends a relation between two keys: it registers a description that has a word to this
effect, or removes what is stored under one of them. -/
def Unties (s : Introspector) (a b : IntrospectionKey) : Call → Prop
  | register i _ => ∃ change ∈ i.pending, change.Unties i.key a b
  | remove k => (s.get? k).isSome ∧ (k = a ∨ k = b)
  | add _ => False

theorem Ties.symm (h : call.Ties a b) : call.Ties b a := by
  cases call with
  | register i site =>
      obtain ⟨earlier, last, later, hpending, hlast, hlater⟩ := h
      exact ⟨earlier, last, later, hpending, hlast.symm,
        fun change hchange huntie => hlater change hchange huntie.symm⟩
  | add | remove => exact h

theorem Unties.symm (h : call.Unties s a b) : call.Unties s b a := by
  cases call with
  | register i site =>
      obtain ⟨change, hchange, huntie⟩ := h
      exact ⟨change, hchange, huntie.symm⟩
  | remove k => exact ⟨h.1, h.2.symm⟩
  | add => exact h

end Call

def ofCalls (calls : List Call) : Introspector := calls.foldl Call.apply {}

/-- A description was stored under a key, has the number of those stored before, and no call has
been about this key since. -/
def LastStored (calls : List Call) (k : IntrospectionKey) (i : Introspectable) : Prop :=
  ∃ before call after j, calls = before ++ call :: after ∧ call.stored? = some j ∧ j.key = k ∧
    i = { j with order := (before.filterMap Call.stored?).length } ∧ ∀ later ∈ after, later.key ≠ k

/-- A call related two keys, and none has ended this relation since. -/
def LastTied (calls : List Call) (a b : IntrospectionKey) : Prop :=
  ∃ before call after, calls = before ++ call :: after ∧ call.Ties a b ∧
    ∀ mid later rest, after = mid ++ later :: rest →
      ¬ later.Unties (ofCalls (before ++ call :: mid)) a b

variable {s : Introspector} {i : Introspectable} {k a b : IntrospectionKey} {calls : List Call}

/-! ## One call -/

theorem get?_register (s : Introspector) (i : Introspectable) (site : Option Site)
    (k : IntrospectionKey) :
    (s.register i site).get? k = (s.add { i with site := site, pending := [] }).get? k :=
  get?_congr (categories_foldl_change _ _ _).1

/-- A call about a key stores what it stores, or removes what was there, and leaves the others
alone. -/
theorem get?_apply_iff (s : Introspector) (call : Call) :
    (call.apply s).get? k = some i ↔
      (∃ j, call.stored? = some j ∧ j.key = k ∧ i = { j with order := s.counter }) ∨
        s.get? k = some i ∧ ¬ call.key = k := by
  have hadd : ∀ j : Introspectable, (s.add j).get? k = some i ↔
      j.key = k ∧ i = { j with order := s.counter } ∨ s.get? k = some i ∧ ¬ j.key = k := by
    intro j
    rw [get?_add]
    split
    · next hk => simp [hk, eq_comm]
    · next hk => simp [hk]
  cases call with
  | add j => simpa [Call.apply, Call.stored?, Call.key] using hadd j
  | register j site =>
      rw [Call.apply, get?_register]
      simpa [Call.stored?, Call.key] using hadd { j with site := site, pending := [] }
  | remove l =>
      rw [Call.apply, get?_remove]
      by_cases hl : l = k <;> simp [Call.stored?, Call.key, hl]

@[simp] theorem counter_apply (s : Introspector) (call : Call) :
    (call.apply s).counter = s.counter + call.stored?.toList.length := by
  cases call with
  | add i => rfl
  | register i site => exact (categories_foldl_change i.key i.pending _).2
  | remove k =>
      rw [Call.apply, remove]
      split <;> rfl

theorem filed_apply (h : s.Filed) (call : Call) : (call.apply s).Filed := by
  cases call with
  | add i => exact filed_add h i
  | register i site =>
      obtain ⟨hcategories, hcounter⟩ := categories_foldl_change i.key i.pending
        (s.add { i with site := site, pending := [] })
      exact (filed_add h _).congr hcategories hcounter
  | remove k => exact filed_remove h k

/-- A call relates two keys, or ends their relation, or leaves it as it is. -/
theorem related_apply (s : Introspector) (call : Call) :
    (call.apply s).Related a b ↔ call.Ties a b ∨ s.Related a b ∧ ¬ call.Unties s a b := by
  cases call with
  | add i => simp [Call.apply, Call.Ties, Call.Unties, Related, targets_add]
  | register i site => exact related_foldl_change i.pending
  | remove k =>
      rw [Call.apply, related_remove]
      simp [Call.Ties, Call.Unties]

theorem nodup_targets_apply (call : Call) (h : (s.targets a).Nodup) :
    ((call.apply s).targets a).Nodup := by
  cases call with
  | add i => exact h
  | register i site => exact nodup_targets_foldl_change i.pending h
  | remove k => exact nodup_targets_remove h

/-! ## All calls -/

@[simp] theorem ofCalls_append (calls more : List Call) :
    ofCalls (calls ++ more) = more.foldl Call.apply (ofCalls calls) := List.foldl_append

@[simp] theorem ofCalls_concat (calls : List Call) (call : Call) :
    ofCalls (calls ++ [call]) = call.apply (ofCalls calls) := ofCalls_append calls [call]

theorem filed_ofCalls (calls : List Call) : (ofCalls calls).Filed := by
  induction calls using List.reverseRecOn with
  | nil => exact filed_empty
  | append_singleton calls call ih =>
      rw [ofCalls_concat]
      exact filed_apply ih call

@[simp] theorem counter_ofCalls (calls : List Call) :
    (ofCalls calls).counter = (calls.filterMap Call.stored?).length := by
  induction calls using List.reverseRecOn with
  | nil => rfl
  | append_singleton calls call ih =>
      rw [ofCalls_concat, counter_apply, ih, List.filterMap_append, List.length_append]
      cases h : call.stored? <;> simp [h]

theorem nodup_targets_ofCalls (calls : List Call) (a : IntrospectionKey) :
    ((ofCalls calls).targets a).Nodup := by
  induction calls using List.reverseRecOn with
  | nil => exact List.nodup_nil
  | append_singleton calls call ih =>
      rw [ofCalls_concat]
      exact nodup_targets_apply call ih

theorem related_symm (calls : List Call) (h : (ofCalls calls).Related a b) :
    (ofCalls calls).Related b a := by
  induction calls using List.reverseRecOn with
  | nil => exact absurd h List.not_mem_nil
  | append_singleton calls call ih =>
      rw [ofCalls_concat, related_apply] at h ⊢
      rcases h with htie | ⟨hrelated, hkept⟩
      · exact Or.inl htie.symm
      · exact Or.inr ⟨ih hrelated, fun huntie => hkept huntie.symm⟩

theorem get?_ofCalls_iff : (ofCalls calls).get? k = some i ↔ LastStored calls k i := by
  have hlaw : (ofCalls calls).get? k = some i ↔
      (({} : Introspector).get? k = some i ∧
          Folding.Undisturbed Call.apply (fun _ call => call.key = k) {} calls) ∨
        Folding.SetLast Call.apply
          (fun s call => ∃ j, call.stored? = some j ∧ j.key = k ∧ i = { j with order := s.counter })
          (fun _ call => call.key = k) {} calls :=
    Folding.foldl_iff (P := fun s : Introspector => s.get? k = some i) get?_apply_iff
  rw [hlaw, or_iff_right (fun h => nomatch h.1)]
  constructor
  · rintro ⟨before, call, after, hcalls, ⟨j, hj, hkey, hi⟩, hafter⟩
    refine ⟨before, call, after, j, hcalls, hj, hkey, ?_, Folding.undisturbed_iff_forall.mp hafter⟩
    rw [hi, ← counter_ofCalls]
    rfl
  · rintro ⟨before, call, after, j, hcalls, hj, hkey, hi, hafter⟩
    refine ⟨before, call, after, hcalls, ⟨j, hj, hkey, ?_⟩,
      Folding.undisturbed_iff_forall.mpr hafter⟩
    rw [hi, ← counter_ofCalls]
    rfl

/-- What calls make of a relation, wherever they begin. -/
theorem related_foldl_iff (s : Introspector) (calls : List Call) :
    (calls.foldl Call.apply s).Related a b ↔
      s.Related a b ∧ Folding.Undisturbed Call.apply (fun s call => call.Unties s a b) s calls ∨
        Folding.SetLast Call.apply (fun _ call => call.Ties a b) (fun s call => call.Unties s a b)
          s calls :=
  Folding.foldl_iff (P := fun s : Introspector => s.Related a b) related_apply

theorem related_ofCalls_iff : (ofCalls calls).Related a b ↔ LastTied calls a b := by
  unfold ofCalls
  rw [related_foldl_iff, or_iff_right (fun h => nomatch h.1)]
  unfold Folding.SetLast Folding.Undisturbed LastTied
  simp only [ofCalls, List.foldl_append, List.foldl_cons]

/-- After a removal the relations of a key are those that have been made since. -/
theorem exists_ties_of_removed {before after : List Call} (h : ((ofCalls before).get? k).isSome)
    (hrelated : (ofCalls (before ++ .remove k :: after)).Related k b) :
    ∃ call ∈ after, call.Ties k b := by
  have hremoved : ¬ ((Call.remove k).apply (ofCalls before)).Related k b := by
    rw [related_apply]
    simp [Call.Ties, Call.Unties, h]
  rw [ofCalls_append, List.foldl_cons, related_foldl_iff, or_iff_right (fun h => hremoved h.1)]
    at hrelated
  obtain ⟨mid, call, rest, rfl, htie, -⟩ := hrelated
  exact ⟨call, by simp, htie⟩

/-! ## Stores and their histories -/

/-- A store tells of the calls that have made it. -/
structure Consistent (calls : List Call) (s : Introspector) : Prop where
  /-- Relations go both ways. -/
  symmetric : ∀ a b, s.Related a b → s.Related b a
  /-- No key is a target twice. -/
  targets : ∀ a, (s.targets a).Nodup
  /-- Keys are related by the last word on them. -/
  tied : ∀ a b, s.Related a b ↔ LastTied calls a b
  /-- Of the related keys those are shown under which something is stored. -/
  related : ∀ k i, i ∈ s.related k ↔ s.Related k i.key ∧ s.get? i.key = some i
  /-- Under a key there is what was stored last. -/
  stored : ∀ k i, s.get? k = some i ↔ LastStored calls k i
  /-- No key is listed twice. -/
  once : ((s.categories.keys.flatMap s.category).map Introspectable.key).Nodup
  /-- A category lists all that is stored under its keys. -/
  listed : ∀ name i, i ∈ s.category name ↔ i.key.category = name ∧ s.get? i.key = some i
  /-- It does so in the order in which the descriptions were stored, each having a number of its
  own. -/
  ordered : ∀ name, (s.category name).Pairwise fun i j => i.order < j.order
  /-- When a description has been removed, its key has no relations but those that are made anew. -/
  forgotten : ∀ before k after, calls = before ++ .remove k :: after →
    ((ofCalls before).get? k).isSome → ∀ b, s.Related k b → ∃ call ∈ after, call.Ties k b

/-- **A store tells of its history**, whatever calls have made it: its relations go both ways and
are those of the last word on each pair of keys, it has each description as it was stored last, and
lists them in the order of storing; and what has been removed has left no relations behind. -/
theorem consistent_ofCalls (calls : List Call) : Consistent calls (ofCalls calls) := by
  have hfiled : (ofCalls calls).Filed := filed_ofCalls calls
  constructor
  case symmetric => exact fun a b => related_symm calls
  case targets => exact nodup_targets_ofCalls calls
  case tied => exact fun a b => related_ofCalls_iff
  case related => exact fun k i => mem_related_iff hfiled
  case stored => exact fun k i => get?_ofCalls_iff
  case once => exact nodup_keys_listing hfiled
  case listed => exact fun name i => mem_category_iff hfiled
  case ordered => exact category_ordered hfiled
  case forgotten =>
    rintro before k after rfl hstored b
    exact exists_ties_of_removed hstored

end Introspector

end WebDispatch
