import WebDispatch.Proofs.Sorting
import WebDispatch.Proofs.Introspection.Relations

/-!
# Stored descriptions

A store has its descriptions by category, and in a category by discriminator. Each operation does
to the description under a key what its name says, and nothing to the others (`get?_add`,
`get?_remove`). A store is well filed when every description is kept under its own key, once, and
no two of them have one number. Then a category lists what is stored under its keys, in the order
of the numbers.

* `Filed` — well-filed stores; `filed_add`, `filed_remove` — the operations keep them so;
* `mem_category_iff`, `category_ordered` — what a category lists, and in what order;
* `nodup_keys_listing` — no key is listed twice, whatever the category;
* `keysOf_foldl_register` — the keys of a category grow by those of what is registered.
-/

namespace WebDispatch

namespace Introspector

variable {s : Introspector} {i j : Introspectable} {k l : IntrospectionKey} {name : String}

/-! ## One key -/

@[simp] theorem get?_add (s : Introspector) (i : Introspectable) (k : IntrospectionKey) :
    (s.add i).get? k = if i.key = k then some { i with order := s.counter } else s.get? k := by
  rcases k with ⟨name, discriminator⟩
  by_cases hname : i.key.category = name
  · subst hname
    by_cases hdiscriminator : i.key.discriminator = discriminator
    · subst hdiscriminator
      simp [get?, add]
    · have hkey : i.key ≠ ⟨i.key.category, discriminator⟩ := by
        intro hkey
        exact hdiscriminator (congrArg IntrospectionKey.discriminator hkey)
      cases h : s.categories.get? i.key.category <;> simp [get?, add, hdiscriminator, hkey, h]
  · have hkey : i.key ≠ ⟨name, discriminator⟩ := by
      intro hkey
      exact hname (congrArg IntrospectionKey.category hkey)
    simp [get?, add, hname, hkey]

theorem categories_remove (h : s.get? k = some i) :
    (s.remove k).2.categories = s.categories.alter k.category {} (·.erase k.discriminator) := by
  rw [remove, h]

@[simp] theorem get?_remove (s : Introspector) (k l : IntrospectionKey) :
    (s.remove k).2.get? l = if k = l then none else s.get? l := by
  cases hk : s.get? k with
  | none =>
      rw [remove_of_absent hk]
      split
      · next heq => rw [← heq, hk]
      · rfl
  | some i =>
      rcases k with ⟨name, discriminator⟩
      rcases l with ⟨name', discriminator'⟩
      rw [get?, get?, categories_remove hk]
      by_cases hname : name = name'
      · subst hname
        by_cases hdiscriminator : discriminator = discriminator'
        · simp [hdiscriminator]
        · cases h : s.categories.get? name <;> simp [hdiscriminator, h]
      · simp [hname]

/-! ## Changes of relations leave what is stored alone -/

theorem categories_change (source : IntrospectionKey) (s : Introspector) (change : RelationChange) :
    (Introspector.change source s change).categories = s.categories ∧
      (Introspector.change source s change).counter = s.counter := by
  have hdrop : ∀ (a b : IntrospectionKey) (s : Introspector),
      (dropTarget a b s).categories = s.categories ∧ (dropTarget a b s).counter = s.counter := by
    intro a b s
    unfold dropTarget
    split <;> exact ⟨rfl, rfl⟩
  cases change with
  | relate target => exact ⟨rfl, rfl⟩
  | unrelate target =>
      obtain ⟨hone, hcount⟩ := hdrop source target s
      obtain ⟨hother, hcount'⟩ := hdrop target source (dropTarget source target s)
      exact ⟨hother.trans hone, hcount'.trans hcount⟩

theorem categories_foldl_change (source : IntrospectionKey) (changes : List RelationChange)
    (s : Introspector) :
    (changes.foldl (change source) s).categories = s.categories ∧
      (changes.foldl (change source) s).counter = s.counter := by
  induction changes generalizing s with
  | nil => exact ⟨rfl, rfl⟩
  | cons first changes ih =>
      obtain ⟨hcategories, hcounter⟩ := ih (Introspector.change source s first)
      obtain ⟨hfirst, hcount⟩ := categories_change source s first
      exact ⟨hcategories.trans hfirst, hcounter.trans hcount⟩

theorem get?_congr {t : Introspector} (h : t.categories = s.categories) : t.get? k = s.get? k := by
  rw [get?, get?, h]

/-! ## Well-filed stores -/

/-- Every description is under its own key, once, and has a number of its own. -/
structure Filed (s : Introspector) : Prop where
  categories : s.categories.keys.Nodup
  discriminators : ∀ name items, s.categories.get? name = some items → items.keys.Nodup
  key_eq : ∀ k i, s.get? k = some i → i.key = k
  order_lt : ∀ k i, s.get? k = some i → i.order < s.counter
  apart : ∀ k l i j, s.get? k = some i → s.get? l = some j → i.order = j.order → k = l

theorem filed_empty : Filed {} where
  categories := List.nodup_nil
  discriminators := nofun
  key_eq := nofun
  order_lt := nofun
  apart := nofun

theorem Filed.congr {t : Introspector} (h : s.Filed) (hcategories : t.categories = s.categories)
    (hcounter : t.counter = s.counter) : t.Filed where
  categories := hcategories ▸ h.categories
  discriminators := by
    rw [hcategories]
    exact h.discriminators
  key_eq := by
    intro k i hi
    rw [get?_congr hcategories] at hi
    exact h.key_eq k i hi
  order_lt := by
    intro k i hi
    rw [get?_congr hcategories] at hi
    exact hcounter ▸ h.order_lt k i hi
  apart := by
    intro k l i j hi hj
    rw [get?_congr hcategories] at hi hj
    exact h.apart k l i j hi hj

theorem filed_add (h : s.Filed) (i : Introspectable) : (s.add i).Filed where
  categories := OrderedMap.nodup_keys_alter h.categories _ _ _
  discriminators := by
    intro name items hitems
    rw [add, OrderedMap.get?_alter] at hitems
    split at hitems
    · obtain rfl := Option.some.inj hitems
      apply OrderedMap.nodup_keys_insert
      cases hold : s.categories.get? i.key.category with
      | none => exact List.nodup_nil
      | some old => exact h.discriminators _ old hold
    · exact h.discriminators name items hitems
  key_eq := by
    intro k j hj
    rw [get?_add] at hj
    split at hj
    · next hk =>
        obtain rfl := Option.some.inj hj
        exact hk
    · exact h.key_eq k j hj
  order_lt := by
    intro k j hj
    rw [get?_add] at hj
    split at hj
    · obtain rfl := Option.some.inj hj
      exact Nat.lt_succ_self _
    · exact Nat.lt_succ_of_lt (h.order_lt k j hj)
  apart := by
    -- the number that is given is above all that have been given
    have hnew : ∀ l j, s.get? l = some j → s.counter ≠ j.order :=
      fun l j hj => Nat.ne_of_gt (h.order_lt l j hj)
    intro k l j j' hj hj' horder
    rw [get?_add] at hj hj'
    split at hj
    · next hk =>
        obtain rfl := Option.some.inj hj
        split at hj'
        · next hl => exact hk.symm.trans hl
        · exact absurd horder (hnew l j' hj')
    · split at hj'
      · obtain rfl := Option.some.inj hj'
        exact absurd horder.symm (hnew k j hj)
      · exact h.apart k l j j' hj hj' horder

theorem filed_remove (h : s.Filed) (k : IntrospectionKey) : (s.remove k).2.Filed := by
  cases hk : s.get? k with
  | none => rwa [remove_of_absent hk]
  | some i =>
      have hkept : ∀ l j, (s.remove k).2.get? l = some j → s.get? l = some j := by
        intro l j hj
        rw [get?_remove] at hj
        split at hj
        · cases hj
        · exact hj
      have hcategories := categories_remove hk
      have hcounter : (s.remove k).2.counter = s.counter := by rw [remove, hk]
      constructor
      case categories =>
        rw [hcategories]
        exact OrderedMap.nodup_keys_alter h.categories _ _ _
      case discriminators =>
        intro name items hitems
        rw [hcategories, OrderedMap.get?_alter] at hitems
        split at hitems
        · obtain rfl := Option.some.inj hitems
          apply OrderedMap.nodup_keys_erase
          cases hold : s.categories.get? k.category with
          | none => exact List.nodup_nil
          | some old => exact h.discriminators _ old hold
        · exact h.discriminators name items hitems
      case key_eq => exact fun l j hj => h.key_eq l j (hkept l j hj)
      case order_lt => exact fun l j hj => hcounter ▸ h.order_lt l j (hkept l j hj)
      case apart =>
        intro l l' j j' hj hj'
        exact h.apart l l' j j' (hkept l j hj) (hkept l' j' hj')

/-! ## Categories -/

theorem mem_category_iff (h : s.Filed) :
    i ∈ s.category name ↔ i.key.category = name ∧ s.get? i.key = some i := by
  have hstored : i ∈ s.category name ↔ ∃ discriminator, s.get? ⟨name, discriminator⟩ = some i := by
    unfold category get? OrderedMap.values
    rw [List.mem_mergeSort]
    cases hitems : s.categories.get? name with
    | none => simp [hitems]
    | some items =>
        have hget : ∀ d, items.get? d = some i ↔ (d, i) ∈ items.toList :=
          fun d => OrderedMap.get?_eq_some_iff (h.discriminators name items hitems)
        simp [hitems, hget]
  rw [hstored]
  constructor
  · rintro ⟨discriminator, hi⟩
    have hkey := h.key_eq _ i hi
    rw [hkey]
    exact ⟨rfl, hi⟩
  · rintro ⟨rfl, hi⟩
    exact ⟨i.key.discriminator, hi⟩

/-- A category lists its descriptions by their numbers, of which no two are the same. -/
theorem category_ordered (h : s.Filed) (name : String) :
    (s.category name).Pairwise fun i j => i.order < j.order := by
  have hsorted : (s.category name).Pairwise fun i j => compareOrder i j = true :=
    List.pairwise_mergeSort (Sorting.rank_trans Introspectable.order)
      (Sorting.rank_total Introspectable.order) _
  have hdistinct : (s.category name).Pairwise fun i j => i.order ≠ j.order := by
    unfold category
    refine (List.mergeSort_perm _ compareOrder).symm.pairwise ?_ fun h => Ne.symm h
    cases hitems : s.categories.get? name with
    | none => exact List.Pairwise.nil
    | some items =>
        have hnodup := h.discriminators name items hitems
        have hget : ∀ e ∈ items.toList, s.get? ⟨name, e.1⟩ = some e.2 := by
          intro e he
          rw [get?, hitems]
          exact (OrderedMap.get?_eq_some_iff hnodup).mpr he
        rw [Option.getD_some, OrderedMap.values, List.pairwise_map]
        have hkeys : items.toList.Pairwise fun e e' => e.1 ≠ e'.1 := List.pairwise_map.mp hnodup
        refine hkeys.imp_of_mem fun he he' hne horder => hne ?_
        have hkey := h.apart _ _ _ _ (hget _ he) (hget _ he') horder
        exact congrArg IntrospectionKey.discriminator hkey
  refine (hsorted.and hdistinct).imp fun hij => ?_
  exact Nat.lt_of_le_of_ne (of_decide_eq_true hij.1) hij.2

theorem nodup_category (h : s.Filed) (name : String) : (s.category name).Nodup := by
  refine (category_ordered h name).imp ?_
  rintro i j hlt rfl
  exact Nat.lt_irrefl _ hlt

/-- All categories together list no key twice. -/
theorem nodup_keys_listing (h : s.Filed) :
    ((s.categories.keys.flatMap s.category).map Introspectable.key).Nodup := by
  have hnodup : (s.categories.keys.flatMap s.category).Nodup := by
    rw [List.nodup_flatMap]
    refine ⟨fun name _ => nodup_category h name, h.categories.imp fun hne i hi hi' => ?_⟩
    rw [mem_category_iff h] at hi hi'
    exact hne (hi.1.symm.trans hi'.1)
  refine (List.nodup_map_iff_inj_on hnodup).mpr ?_
  intro i hi j hj hkey
  obtain ⟨_, -, hi⟩ := List.mem_flatMap.mp hi
  obtain ⟨_, -, hj⟩ := List.mem_flatMap.mp hj
  have hstored := ((mem_category_iff h).mp hi).2
  rw [hkey, ((mem_category_iff h).mp hj).2] at hstored
  exact (Option.some.inj hstored).symm

/-! ## The keys of a category -/

/-- The discriminators under which descriptions of a category are stored, in order. -/
def keysOf (s : Introspector) (name : String) : List String :=
  ((s.categories.get? name).getD {}).keys

theorem length_category (s : Introspector) (name : String) :
    (s.category name).length = (s.keysOf name).length := by
  rw [category, keysOf, List.length_mergeSort, OrderedMap.values, OrderedMap.keys,
    List.length_map, List.length_map]

theorem keysOf_register (s : Introspector) (i : Introspectable) (site : Option Site)
    (name : String) :
    (s.register i site).keysOf name =
      if i.key.category = name ∧ i.key.discriminator ∉ s.keysOf name then
        s.keysOf name ++ [i.key.discriminator]
      else s.keysOf name := by
  rw [keysOf, register, (categories_foldl_change _ _ _).1, add, OrderedMap.get?_alter]
  by_cases hname : i.key.category = name
  · subst hname
    rw [if_pos rfl, Option.getD_some, OrderedMap.keys_insert]
    by_cases hmem : i.key.discriminator ∈ s.keysOf i.key.category
    · exact (if_pos hmem).trans (if_neg fun h => h.2 hmem).symm
    · exact (if_neg hmem).trans (if_pos ⟨rfl, hmem⟩).symm
  · rw [if_neg hname]
    exact (if_neg fun h => hname h.1).symm

@[simp] theorem mem_keysOf_register {site : Option Site} {key : String} :
    key ∈ (s.register i site).keysOf name ↔ key ∈ s.keysOf name ∨ i.key = ⟨name, key⟩ := by
  have hkey : i.key = ⟨name, key⟩ ↔ i.key.category = name ∧ i.key.discriminator = key := by
    rw [← IntrospectionKey.mk.injEq]
  rw [keysOf_register, hkey]
  split
  · next h => simp [h.1, eq_comm]
  · next h =>
    refine ⟨Or.inl, fun hor => hor.elim id ?_⟩
    rintro ⟨hname, rfl⟩
    by_contra hmem
    exact h ⟨hname, hmem⟩

theorem nodup_keysOf_register (h : (s.keysOf name).Nodup) (i : Introspectable)
    (site : Option Site) : ((s.register i site).keysOf name).Nodup := by
  rw [keysOf_register]
  split
  · next hnew =>
    refine List.nodup_append.2 ⟨h, List.nodup_singleton _, ?_⟩
    rintro a ha b hb rfl
    exact hnew.2 (List.mem_singleton.1 hb ▸ ha)
  · exact h

/-- Descriptions that are registered have their keys in their categories, beside those that were
there. -/
theorem keysOf_foldl_register (h : (s.keysOf name).Nodup) (is : List Introspectable)
    (site : Option Site) :
    ((is.foldl (fun s i => s.register i site) s).keysOf name).Nodup ∧
      ∀ key, key ∈ (is.foldl (fun s i => s.register i site) s).keysOf name ↔
        key ∈ s.keysOf name ∨ ∃ i ∈ is, i.key = ⟨name, key⟩ := by
  induction is generalizing s with
  | nil => simpa using h
  | cons i is ih =>
      obtain ⟨hnodup, hmem⟩ := ih (nodup_keysOf_register h i site)
      refine ⟨hnodup, fun key => (hmem key).trans ?_⟩
      simp [or_assoc]

/-! ## Related descriptions -/

/-- What is related to a key are the descriptions that are stored under the keys related to it. -/
theorem mem_related_iff (h : s.Filed) :
    i ∈ s.related k ↔ s.Related k i.key ∧ s.get? i.key = some i := by
  unfold related Related targets
  rw [List.mem_filterMap]
  constructor
  · rintro ⟨target, htarget, hi⟩
    rw [h.key_eq target i hi]
    exact ⟨htarget, hi⟩
  · rintro ⟨hrelated, hi⟩
    exact ⟨i.key, hrelated, hi⟩

end Introspector

end WebDispatch
