import Mathlib.Data.List.Induction
import Mathlib.Data.List.Nodup
import WebDispatch.Configuration.Ledger

/-!
# The groups of a ledger

The actions of one discriminator, as the ledger groups them, are those of the whole ledger in
their order (`get?_groups`). They are sorted by scope, and those of one scope stay as they were
recorded (`group_pairwise`): the first is in an outermost scope and is the earliest that is
(`group_head`). An action inside the scope of another comes after it in that order
(`pathComesBefore_of_enclosing`), which is why the first of a group is the only one that can win.
-/

namespace WebDispatch

namespace Ledger

/-! ## The order of include paths -/

theorem pathComesBefore_refl (p : List String) : pathComesBefore p p = true := by
  induction p with
  | nil => rfl
  | cons a as ih => simp [pathComesBefore, ih]

theorem pathComesBefore_of_enclosing : ∀ {p q : List String}, p <+: q → pathComesBefore p q = true
  | [], _, _ => rfl
  | a :: as, [], h => absurd (List.prefix_nil.mp h) (List.cons_ne_nil a as)
  | a :: as, b :: bs, h => by
      obtain ⟨rfl, hrest⟩ := List.cons_prefix_cons.mp h
      simp [pathComesBefore, pathComesBefore_of_enclosing hrest]

theorem pathComesBefore_trans : ∀ {p q r : List String}, pathComesBefore p q = true →
    pathComesBefore q r = true → pathComesBefore p r = true
  | [], _, _, _, _ => rfl
  | _ :: _, [], _, h, _ => Bool.noConfusion h
  | _ :: _, _ :: _, [], _, h => Bool.noConfusion h
  | a :: as, b :: bs, c :: cs, hpq, hqr => by
      simp only [pathComesBefore, Bool.or_eq_true, Bool.and_eq_true, decide_eq_true_eq] at hpq hqr ⊢
      rcases hpq with hab | ⟨rfl, hpq⟩
      · rcases hqr with hbc | ⟨rfl, -⟩
        · exact Or.inl (String.lt_trans hab hbc)
        · exact Or.inl hab
      · rcases hqr with hbc | ⟨rfl, hqr⟩
        · exact Or.inl hbc
        · exact Or.inr ⟨rfl, pathComesBefore_trans hpq hqr⟩

theorem string_lt_or_eq_or_gt (a b : String) : a < b ∨ a = b ∨ b < a := by
  by_cases hab : a < b
  · exact Or.inl hab
  · by_cases hba : b < a
    · exact Or.inr (Or.inr hba)
    · exact Or.inr (Or.inl (String.le_antisymm (String.not_lt.mp hba) (String.not_lt.mp hab)))

theorem pathComesBefore_total : ∀ p q : List String,
    pathComesBefore p q = true ∨ pathComesBefore q p = true
  | [], _ => Or.inl rfl
  | _ :: _, [] => Or.inr rfl
  | a :: as, b :: bs => by
      simp only [pathComesBefore, Bool.or_eq_true, Bool.and_eq_true, decide_eq_true_eq]
      rcases string_lt_or_eq_or_gt a b with h | rfl | h
      · exact Or.inl (Or.inl h)
      · rcases pathComesBefore_total as bs with h | h
        · exact Or.inl (Or.inr ⟨rfl, h⟩)
        · exact Or.inr (Or.inr ⟨rfl, h⟩)
      · exact Or.inr (Or.inl h)

/-- The order of include paths tells any two apart. -/
theorem pathComesBefore_antisymm : ∀ {p q : List String}, pathComesBefore p q = true →
    pathComesBefore q p = true → p = q
  | [], [], _, _ => rfl
  | [], _ :: _, _, h => Bool.noConfusion h
  | _ :: _, [], h, _ => Bool.noConfusion h
  | a :: as, b :: bs, hpq, hqp => by
      simp only [pathComesBefore, Bool.or_eq_true, Bool.and_eq_true, decide_eq_true_eq] at hpq hqp
      rcases hpq with hab | ⟨rfl, hpq⟩
      · rcases hqp with hba | ⟨rfl, -⟩
        · exact absurd (String.lt_trans hab hba) (String.lt_irrefl a)
        · exact absurd hab (String.lt_irrefl _)
      · rcases hqp with haa | ⟨-, hqp⟩
        · exact absurd haa (String.lt_irrefl a)
        · rw [pathComesBefore_antisymm hpq hqp]

/-! ## Recorded actions -/

theorem mem_record_iff {actions : List Action} {r : Recorded} :
    r ∈ record actions ↔ actions[r.index]? = some r.action := by
  simp only [record, List.mem_map, Prod.exists]
  constructor
  · rintro ⟨a, i, hmem, rfl⟩
    exact List.mem_zipIdx_iff_getElem?.mp hmem
  · intro h
    exact ⟨r.action, r.index, List.mem_zipIdx_iff_getElem?.mpr h, rfl⟩

theorem mem_record_of_mem {actions : List Action} {a : Action} (h : a ∈ actions) :
    ∃ r ∈ record actions, r.action = a := by
  obtain ⟨i, hi⟩ := List.mem_iff_getElem?.mp h
  exact ⟨⟨i, a⟩, mem_record_iff.mpr hi, rfl⟩

theorem mem_of_mem_record {actions : List Action} {r : Recorded} (h : r ∈ record actions) :
    r.action ∈ actions :=
  List.mem_of_getElem? (mem_record_iff.mp h)

/-- A place of the ledger holds one action. -/
theorem record_inj {actions : List Action} {r s : Recorded} (hr : r ∈ record actions)
    (hs : s ∈ record actions) (h : r.index = s.index) : r = s := by
  have hrs : some r.action = some s.action := by
    rw [← mem_record_iff.mp hr, ← mem_record_iff.mp hs, h]
  cases r
  cases s
  cases h
  cases Option.some.inj hrs
  rfl

@[simp] theorem map_index_record (actions : List Action) :
    (record actions).map Recorded.index = List.range actions.length := by
  simp [record, Function.comp_def, List.zipIdx_map_snd, List.range_eq_range']

theorem record_pairwise (actions : List Action) :
    (record actions).Pairwise fun r s => r.index < s.index := by
  rw [← List.pairwise_map (f := Recorded.index) (R := fun i j => i < j), map_index_record]
  exact List.pairwise_lt_range

theorem record_nodup (actions : List Action) : (record actions).Nodup :=
  (record_pairwise actions).imp fun {r s} h hrs => by
    rw [hrs] at h
    exact Nat.lt_irrefl _ h

/-! ## Groups -/

def ofDiscriminator (actions : List Action) (d : Discriminator) : List Recorded :=
  (record actions).filter fun r => r.action.discriminator = some d

theorem mem_ofDiscriminator {actions : List Action} {d : Discriminator} {r : Recorded} :
    r ∈ ofDiscriminator actions d ↔ r ∈ record actions ∧ r.action.discriminator = some d := by
  simp [ofDiscriminator]

theorem get?_addToGroup (m : OrderedMap Discriminator (List Recorded)) (r : Recorded)
    (d : Discriminator) :
    (addToGroup m r).get? d =
      if r.action.discriminator = some d then some ((m.get? d).getD [] ++ [r]) else m.get? d := by
  unfold addToGroup
  cases hr : r.action.discriminator with
  | none => simp
  | some e =>
      show (m.alter e [] (· ++ [r])).get? d = _
      rw [OrderedMap.get?_alter]
      by_cases hed : e = d
      · rw [if_pos hed, if_pos (by rw [hed]), hed]
      · rw [if_neg hed, if_neg (by simpa using hed)]

/-- Grouping keeps every action, in its group and in order, and opens no group without need. -/
theorem get?_foldl_addToGroup (rs : List Recorded) (d : Discriminator) :
    (rs.foldl addToGroup {}).get? d =
      if rs.filter (fun r => r.action.discriminator = some d) = [] then none
      else some (rs.filter fun r => r.action.discriminator = some d) := by
  induction rs using List.reverseRecOn with
  | nil => rfl
  | append_singleton rs r ih =>
      rw [List.foldl_append, List.foldl_cons, List.foldl_nil, get?_addToGroup, ih,
        List.filter_append]
      by_cases hr : r.action.discriminator = some d
      · by_cases hrs : rs.filter (fun r => r.action.discriminator = some d) = []
        · simp [hr, hrs]
        · simp [hr, hrs]
      · simp [hr]

theorem nodup_keys_foldl_addToGroup (rs : List Recorded) :
    (rs.foldl addToGroup {}).keys.Nodup := by
  induction rs using List.reverseRecOn with
  | nil => exact List.nodup_nil
  | append_singleton rs r ih =>
      rw [List.foldl_append, List.foldl_cons, List.foldl_nil, addToGroup]
      split
      · exact ih
      · exact OrderedMap.nodup_keys_alter ih _ _ _

theorem nodup_keys_groups (actions : List Action) : (groups actions).keys.Nodup := by
  rw [groups, OrderedMap.keys_mapValues]
  exact nodup_keys_foldl_addToGroup (record actions)

theorem get?_groups (actions : List Action) (d : Discriminator) :
    (groups actions).get? d =
      if ofDiscriminator actions d = [] then none
      else some ((ofDiscriminator actions d).mergeSort scopeComesBefore) := by
  rw [groups, OrderedMap.get?_mapValues, get?_foldl_addToGroup]
  unfold ofDiscriminator
  split <;> rfl

/-- A group holds the actions of its discriminator, sorted by scope. -/
theorem mem_groups_iff {actions : List Action} {d : Discriminator} {rs : List Recorded} :
    (d, rs) ∈ (groups actions).toList ↔
      ofDiscriminator actions d ≠ [] ∧
        rs = (ofDiscriminator actions d).mergeSort scopeComesBefore := by
  rw [← OrderedMap.get?_eq_some_iff (nodup_keys_groups actions), get?_groups]
  split
  · next h => simp [h]
  · next h => simp [h, eq_comm]

/-! ## The first of a group -/

theorem scopeComesBefore_trans (a b c : Recorded) (hab : scopeComesBefore a b = true)
    (hbc : scopeComesBefore b c = true) : scopeComesBefore a c = true :=
  pathComesBefore_trans hab hbc

theorem scopeComesBefore_total (a b : Recorded) :
    (scopeComesBefore a b || scopeComesBefore b a) = true := by
  rw [Bool.or_eq_true]
  exact pathComesBefore_total a.action.includePath b.action.includePath

theorem pair_sublist_of_index_lt {rs : List Recorded} {a b : Recorded}
    (h : rs.Pairwise fun r s => r.index < s.index) (ha : a ∈ rs) (hb : b ∈ rs)
    (hab : a.index < b.index) : [a, b].Sublist rs := by
  obtain ⟨before, after, rfl⟩ := List.append_of_mem ha
  have hafter : b ∈ after := by
    rcases List.mem_append.mp hb with hb | hb
    · have hba := (List.pairwise_append.mp h).2.2 b hb a List.mem_cons_self
      exact absurd hab (Nat.lt_asymm hba)
    · rcases List.mem_cons.mp hb with rfl | hb
      · exact absurd hab (Nat.lt_irrefl _)
      · exact hb
  exact ((List.singleton_sublist.mpr hafter).cons_cons a).trans (List.sublist_append_right _ _)

/-- Of two entries of a list without repetition one comes first. -/
theorem not_sublist_swap {α : Type} {l : List α} {a b : α} (h : l.Nodup)
    (hab : [a, b].Sublist l) : ¬ [b, a].Sublist l := by
  induction l with
  | nil => cases hab
  | cons x l ih =>
      obtain ⟨hx, hl⟩ := List.nodup_cons.mp h
      intro hba
      rcases List.sublist_cons_iff.mp hab with hab | ⟨_, hcons, hb⟩
      · have ha : a ∈ l := hab.subset List.mem_cons_self
        have hb : b ∈ l := hab.subset (List.mem_cons_of_mem a List.mem_cons_self)
        rcases List.sublist_cons_iff.mp hba with hba | ⟨_, hcons, -⟩
        · exact ih hl hab hba
        · cases hcons
          exact hx hb
      · cases hcons
        have hb : b ∈ l := List.singleton_sublist.mp hb
        rcases List.sublist_cons_iff.mp hba with hba | ⟨_, hcons, -⟩
        · exact hx (hba.subset (List.mem_cons_of_mem b List.mem_cons_self))
        · cases hcons
          exact hx hb

/-- Lists in an order that never holds both ways are told by which their members are. -/
theorem eq_of_pairwise {α : Type} {R : α → α → Prop} (hR : ∀ a b, R a b → ¬ R b a)
    {xs ys : List α} (hx : xs.Pairwise R) (hy : ys.Pairwise R) (h : ∀ a, a ∈ xs ↔ a ∈ ys) :
    xs = ys := by
  have hnodup : ∀ {zs : List α}, zs.Pairwise R → zs.Nodup := fun hz =>
    hz.imp fun {a b} hab => by
      rintro rfl
      exact hR a a hab hab
  refine List.Perm.eq_of_pairwise (fun a b _ _ hab hba => absurd hba (hR a b hab)) hx hy ?_
  exact (List.perm_ext_iff_of_nodup (hnodup hx) (hnodup hy)).mpr h

/-- In a scope that comes before, or in the same scope and earlier in the ledger. -/
def ScopePrecedes (a b : Recorded) : Prop :=
  pathComesBefore a.action.includePath b.action.includePath = true ∧
    (b.action.includePath = a.action.includePath → a.index < b.index)

theorem ScopePrecedes.asymm {a b : Recorded} (h : ScopePrecedes a b) : ¬ ScopePrecedes b a := by
  intro h'
  have hpath := pathComesBefore_antisymm h.1 h'.1
  exact Nat.lt_asymm (h.2 hpath.symm) (h'.2 hpath)

/-- A group lists its actions by scope, and those of one scope as they were recorded. -/
theorem group_pairwise (actions : List Action) (d : Discriminator) :
    ((ofDiscriminator actions d).mergeSort scopeComesBefore).Pairwise ScopePrecedes := by
  have hsorted := List.pairwise_mergeSort scopeComesBefore_trans scopeComesBefore_total
    (ofDiscriminator actions d)
  have hnodup : ((ofDiscriminator actions d).mergeSort scopeComesBefore).Nodup :=
    (List.mergeSort_perm _ _).symm.nodup ((record_nodup actions).filter _)
  rw [List.pairwise_iff_forall_sublist] at hsorted ⊢
  intro r s hrs
  refine ⟨hsorted hrs, ?_⟩
  intro hpath
  have hr := List.mem_mergeSort.mp (hrs.subset List.mem_cons_self)
  have hs := List.mem_mergeSort.mp (hrs.subset (List.mem_cons_of_mem r List.mem_cons_self))
  rcases Nat.lt_trichotomy r.index s.index with hlt | heq | hgt
  · exact hlt
  · have hsame := record_inj (mem_ofDiscriminator.mp hr).1 (mem_ofDiscriminator.mp hs).1 heq
    rw [hsame] at hrs
    exact absurd hrs (not_sublist_swap hnodup hrs)
  · -- sorting is stable: an earlier action of the same scope would have come first
    have hpair : [s, r].Sublist ((ofDiscriminator actions d).mergeSort scopeComesBefore) := by
      refine List.pair_sublist_mergeSort scopeComesBefore_trans scopeComesBefore_total ?_ ?_
      · rw [scopeComesBefore, hpath]
        exact pathComesBefore_refl _
      · exact pair_sublist_of_index_lt ((record_pairwise actions).filter _) hs hr hgt
    exact absurd hpair (not_sublist_swap hnodup hrs)

/-- The first of a group is in a scope that comes before those of all others, and precedes in the
ledger those of its own scope. -/
theorem group_head {actions : List Action} {d : Discriminator} {base : Recorded}
    {rest : List Recorded}
    (h : (ofDiscriminator actions d).mergeSort scopeComesBefore = base :: rest) :
    ∀ r ∈ rest, ScopePrecedes base r := by
  have hpairwise := group_pairwise actions d
  rw [h] at hpairwise
  exact (List.pairwise_cons.mp hpairwise).1

/-- An action that is not the first of its group: it gives way to the first or is in conflict with
it. -/
def Meets (actions : List Action) (r base : Recorded) : Prop :=
  ∃ d rest, (d, base :: rest) ∈ (groups actions).toList ∧ r ∈ rest

theorem discriminator_eq_of_meets {actions : List Action} {r base : Recorded}
    (h : Meets actions r base) : r.action.discriminator = base.action.discriminator := by
  obtain ⟨d, rest, hgroup, hr⟩ := h
  have hmem : ∀ q ∈ base :: rest, q.action.discriminator = some d := by
    intro q hq
    rw [(mem_groups_iff.mp hgroup).2, List.mem_mergeSort] at hq
    exact (mem_ofDiscriminator.mp hq).2
  rw [hmem r (List.mem_cons_of_mem base hr), hmem base List.mem_cons_self]

end Ledger

end WebDispatch
