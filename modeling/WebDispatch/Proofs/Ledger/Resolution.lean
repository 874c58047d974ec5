import WebDispatch.Proofs.Ledger.Groups

/-!
# Resolving a ledger

An action governs its discriminator when each other action of the discriminator was declared
strictly inside its scope or repeats it. The first of a group governs as soon as any action does
(`governs_first`), so comparing all others with the first alone finds every conflict. A ledger
resolves exactly when each of its discriminators is governed; what is then carried out are the
actions without a discriminator and the earliest governing action of each discriminator, in order.
-/

namespace WebDispatch

namespace Action

/-- Declared strictly inside the scope of another action: the includes around the other are the
outermost of those around this one, and not all of them. -/
def StrictlyInside (a b : Action) : Prop :=
  b.includePath <+: a.includePath ∧ b.includePath ≠ a.includePath

def RepeatOf (a b : Action) : Prop :=
  a.includePath = b.includePath ∧ a.site = b.site

def YieldsTo (a b : Action) : Prop := a.StrictlyInside b ∨ a.RepeatOf b

theorem isInside_iff {a b : Action} : a.isInside b = true ↔ a.StrictlyInside b := by
  simp only [isInside, Bool.and_eq_true, List.isPrefixOf_iff_prefix, decide_eq_true_eq,
    StrictlyInside]
  constructor
  · rintro ⟨houter, hlength⟩
    refine ⟨houter, fun heq => ?_⟩
    rw [heq] at hlength
    exact Nat.lt_irrefl _ hlength
  · rintro ⟨houter, hne⟩
    refine ⟨houter, Nat.lt_of_le_of_ne houter.length_le ?_⟩
    exact fun hlength => hne (houter.eq_of_length hlength)

theorem repeats_iff {a b : Action} : a.repeats b = true ↔ a.RepeatOf b := by
  simp [repeats, RepeatOf]

theorem conflictsWith_eq_false_iff {a b : Action} :
    a.conflictsWith b = false ↔ a.YieldsTo b := by
  rw [YieldsTo, ← isInside_iff, ← repeats_iff, conflictsWith]
  cases a.isInside b <;> cases a.repeats b <;> simp

/-- Whoever gives way to an action gives way to a repetition of it. -/
theorem YieldsTo.of_repeatOf {a b c : Action} (h : a.YieldsTo b) (hb : c.RepeatOf b) :
    a.YieldsTo c := by
  rcases h with ⟨houter, hne⟩ | ⟨hpath, hsite⟩
  · exact Or.inl ⟨hb.1 ▸ houter, hb.1 ▸ hne⟩
  · exact Or.inr ⟨hpath.trans hb.1.symm, hsite.trans hb.2.symm⟩

end Action

namespace Ledger

/-! ## Governing actions -/

/-- An action of a discriminator to which all others of the discriminator give way. -/
structure Governs (actions : List Action) (d : Discriminator) (b : Recorded) : Prop where
  recorded : b ∈ record actions
  discriminator : b.action.discriminator = some d
  yielding : ∀ r ∈ record actions, r.action.discriminator = some d → r.index ≠ b.index →
    r.action.YieldsTo b.action

/-- A group whose first action all others give way to. -/
def Settled (rs : List Recorded) : Prop :=
  ∀ base rest, rs = base :: rest → ∀ r ∈ rest, r.action.YieldsTo base.action

variable {actions : List Action} {d : Discriminator} {base : Recorded} {rest : List Recorded}

theorem mem_group_iff
    (h : (ofDiscriminator actions d).mergeSort scopeComesBefore = base :: rest) {r : Recorded} :
    r ∈ base :: rest ↔ r ∈ record actions ∧ r.action.discriminator = some d := by
  rw [← h, List.mem_mergeSort, mem_ofDiscriminator]

/-- The discriminator of a recorded action has a group. -/
theorem exists_group {r : Recorded} (hr : r ∈ record actions)
    (hd : r.action.discriminator = some d) :
    ∃ base rest, (ofDiscriminator actions d).mergeSort scopeComesBefore = base :: rest := by
  refine List.exists_cons_of_ne_nil ?_
  intro hnil
  have hperm := List.mergeSort_perm (ofDiscriminator actions d) scopeComesBefore
  rw [hnil] at hperm
  have hmem := mem_ofDiscriminator.mpr ⟨hr, hd⟩
  rw [hperm.symm.eq_nil] at hmem
  exact List.not_mem_nil hmem

theorem mem_groups_of_eq
    (h : (ofDiscriminator actions d).mergeSort scopeComesBefore = base :: rest) :
    (d, base :: rest) ∈ (groups actions).toList := by
  refine mem_groups_iff.mpr ⟨?_, h.symm⟩
  intro hnil
  rw [hnil, List.mergeSort_nil] at h
  exact List.cons_ne_nil _ _ h.symm

theorem governs_of_settled
    (h : (ofDiscriminator actions d).mergeSort scopeComesBefore = base :: rest)
    (hs : Settled (base :: rest)) : Governs actions d base := by
  obtain ⟨hrec, hdisc⟩ := (mem_group_iff h).mp List.mem_cons_self
  refine ⟨hrec, hdisc, ?_⟩
  intro r hr hrd hindex
  rcases List.mem_cons.mp ((mem_group_iff h).mpr ⟨hr, hrd⟩) with rfl | hrest
  · exact absurd rfl hindex
  · exact hs base rest rfl r hrest

/-- Another action that governs is repeated by the first of the group: the first cannot be inside
its scope, as its own scope comes before all others. -/
theorem repeatOf_of_governs
    (h : (ofDiscriminator actions d).mergeSort scopeComesBefore = base :: rest) {b : Recorded}
    (hb : Governs actions d b) (hne : base.index ≠ b.index) :
    base.action.RepeatOf b.action ∧ base.index < b.index := by
  obtain ⟨hrec, hdisc⟩ := (mem_group_iff h).mp List.mem_cons_self
  have hrest : b ∈ rest := by
    rcases List.mem_cons.mp ((mem_group_iff h).mpr ⟨hb.recorded, hb.discriminator⟩) with rfl | hr
    · exact absurd rfl hne
    · exact hr
  obtain ⟨hbefore, hindex⟩ := group_head h b hrest
  rcases hb.yielding base hrec hdisc hne with ⟨houter, hpath⟩ | hrepeat
  · exact absurd (pathComesBefore_antisymm (pathComesBefore_of_enclosing houter) hbefore) hpath
  · exact ⟨hrepeat, hindex hrepeat.1.symm⟩

/-- The first of a group governs as soon as any action does. -/
theorem governs_first
    (h : (ofDiscriminator actions d).mergeSort scopeComesBefore = base :: rest) {b : Recorded}
    (hb : Governs actions d b) : Governs actions d base := by
  obtain ⟨hrec, hdisc⟩ := (mem_group_iff h).mp List.mem_cons_self
  by_cases hindex : base.index = b.index
  · rwa [record_inj hrec hb.recorded hindex]
  · obtain ⟨hrepeat, -⟩ := repeatOf_of_governs h hb hindex
    refine ⟨hrec, hdisc, ?_⟩
    intro r hr hrd hrbase
    by_cases hrb : r.index = b.index
    · rw [record_inj hr hb.recorded hrb]
      exact Or.inr ⟨hrepeat.1.symm, hrepeat.2.symm⟩
    · exact (hb.yielding r hr hrd hrb).of_repeatOf hrepeat

theorem settled_of_governs
    (h : (ofDiscriminator actions d).mergeSort scopeComesBefore = base :: rest)
    (hb : Governs actions d base) : Settled (base :: rest) := by
  intro base' rest' heq r hr
  cases heq
  obtain ⟨hrec, hrd⟩ := (mem_group_iff h).mp (List.mem_cons_of_mem base hr)
  refine hb.yielding r hrec hrd ?_
  intro hindex
  have hnodup : (base :: rest).Nodup := by
    rw [← h]
    exact (List.mergeSort_perm _ _).symm.nodup ((record_nodup actions).filter _)
  have hrb := record_inj hrec hb.recorded hindex
  exact (List.nodup_cons.mp hnodup).1 (hrb ▸ hr)

/-! ## Conflicts -/

theorem addConflicts_toList_eq_nil_iff (found : OrderedMap String (List Site))
    (group : Discriminator × List Recorded) :
    (addConflicts found group).toList = [] ↔ found.toList = [] ∧ Settled group.2 := by
  obtain ⟨e, rs⟩ := group
  cases rs with
  | nil => simp [addConflicts, Settled]
  | cons base rest =>
      have hsites : ((rest.filter fun r => r.action.conflictsWith base.action).map
          fun r => r.action.site) = [] ↔ Settled (base :: rest) := by
        rw [List.map_eq_nil_iff, List.filter_eq_nil_iff]
        constructor
        · intro hnone base' rest' heq r hr
          cases heq
          exact Action.conflictsWith_eq_false_iff.mp (Bool.eq_false_iff.mpr (hnone r hr))
        · intro hs r hr
          exact Bool.eq_false_iff.mp
            (Action.conflictsWith_eq_false_iff.mpr (hs base rest rfl r hr))
      simp only [addConflicts, List.isEmpty_iff]
      split
      · next hnil => simp [hsites.mp hnil]
      · next hsome =>
          constructor
          · exact fun hnil => absurd hnil (OrderedMap.toList_insert_ne_nil _ _ _)
          · exact fun hs => absurd (hsites.mpr hs.2) hsome

theorem foldl_addConflicts_toList_eq_nil_iff
    (gs : List (Discriminator × List Recorded)) (found : OrderedMap String (List Site)) :
    (gs.foldl addConflicts found).toList = [] ↔
      found.toList = [] ∧ ∀ g ∈ gs, Settled g.2 := by
  induction gs generalizing found with
  | nil => simp
  | cons g gs ih =>
      rw [List.foldl_cons, ih, addConflicts_toList_eq_nil_iff, List.forall_mem_cons, and_assoc]

theorem resolve_eq_ok_iff {out : List Action} :
    resolve actions = .ok out ↔
      (∀ g ∈ (groups actions).toList, Settled g.2) ∧
        out = ((winners actions).mergeSort comesBefore).map Recorded.action := by
  have hconflicts : (conflicts actions).toList = [] ↔
      ∀ g ∈ (groups actions).toList, Settled g.2 := by
    rw [conflicts, foldl_addConflicts_toList_eq_nil_iff]
    exact and_iff_right rfl
  rw [← hconflicts, resolve]
  simp only [List.isEmpty_iff]
  split
  · next h => simp [h, eq_comm]
  · next h => simp [h]

/-- Every group is settled exactly when every discriminator of the ledger is governed. -/
theorem settled_groups_iff :
    (∀ g ∈ (groups actions).toList, Settled g.2) ↔
      ∀ a ∈ actions, ∀ d, a.discriminator = some d → ∃ b, Governs actions d b := by
  constructor
  · intro hs a ha d hd
    obtain ⟨r, hr, rfl⟩ := mem_record_of_mem ha
    obtain ⟨base, rest, hgroup⟩ := exists_group hr hd
    exact ⟨base, governs_of_settled hgroup (hs _ (mem_groups_of_eq hgroup))⟩
  · rintro hg ⟨d, rs⟩ hrs base rest heq
    obtain ⟨-, hsorted⟩ := mem_groups_iff.mp hrs
    have h := hsorted.symm.trans heq
    obtain ⟨hrec, hdisc⟩ := (mem_group_iff h).mp List.mem_cons_self
    obtain ⟨b, hb⟩ := hg base.action (mem_of_mem_record hrec) d hdisc
    exact settled_of_governs h (governs_first h hb) base rest rfl

/-! ## Winners -/

theorem mem_heads_iff {r : Recorded} :
    r ∈ (groups actions).values.filterMap List.head? ↔
      ∃ d rest, (ofDiscriminator actions d).mergeSort scopeComesBefore = r :: rest := by
  simp only [OrderedMap.values, List.filterMap_map, List.mem_filterMap, Prod.exists,
    Function.comp_apply, List.head?_eq_some_iff]
  constructor
  · rintro ⟨d, rs, hmem, rest, rfl⟩
    exact ⟨d, rest, (mem_groups_iff.mp hmem).2.symm⟩
  · rintro ⟨d, rest, h⟩
    exact ⟨d, r :: rest, mem_groups_of_eq h, rest, rfl⟩

theorem heads_pairwise (actions : List Action) :
    ((groups actions).values.filterMap List.head?).Pairwise
      fun r s => r.action.discriminator ≠ s.action.discriminator := by
  rw [OrderedMap.values, List.filterMap_map]
  have hkeys : (groups actions).toList.Pairwise fun g h => g.1 ≠ h.1 :=
    List.pairwise_map.mp (nodup_keys_groups actions)
  refine List.Pairwise.filterMap _ ?_ (List.Pairwise.and_mem.mp hkeys)
  rintro ⟨d, rs⟩ ⟨e, ss⟩ ⟨hd, he, hne⟩ r hr s hs
  obtain ⟨rest, rfl⟩ := List.head?_eq_some_iff.mp hr
  obtain ⟨rest', rfl⟩ := List.head?_eq_some_iff.mp hs
  rw [((mem_group_iff (mem_groups_iff.mp hd).2.symm).mp List.mem_cons_self).2,
    ((mem_group_iff (mem_groups_iff.mp he).2.symm).mp List.mem_cons_self).2]
  exact fun h => hne (Option.some.inj h)

theorem mem_winners_iff {r : Recorded} :
    r ∈ winners actions ↔
      (r ∈ record actions ∧ r.action.discriminator = none) ∨
        ∃ d rest, (ofDiscriminator actions d).mergeSort scopeComesBefore = r :: rest := by
  rw [winners, List.mem_append, mem_heads_iff]
  simp [free]

theorem mem_record_of_mem_winners {r : Recorded} (h : r ∈ winners actions) :
    r ∈ record actions := by
  rcases mem_winners_iff.mp h with ⟨hr, -⟩ | ⟨d, rest, hgroup⟩
  · exact hr
  · exact ((mem_group_iff hgroup).mp List.mem_cons_self).1

theorem winners_nodup (actions : List Action) : (winners actions).Nodup := by
  rw [winners, List.nodup_append]
  refine ⟨(record_nodup actions).filter _, ?_, ?_⟩
  · exact (heads_pairwise actions).imp fun {r s} hne (heq : r = s) => hne (heq ▸ rfl)
  · rintro r hr s hs rfl
    obtain ⟨d, rest, hgroup⟩ := mem_heads_iff.mp hs
    have hnone : r.action.discriminator = none := by
      simpa using (List.mem_filter.mp hr).2
    rw [((mem_group_iff hgroup).mp List.mem_cons_self).2] at hnone
    exact absurd hnone (Option.some_ne_none d)

theorem comesBefore_iff {a b : Recorded} :
    comesBefore a b = true ↔ a.action.order < b.action.order ∨
      a.action.order = b.action.order ∧ a.index ≤ b.index := by
  simp [comesBefore]

/-- Actions in the order in which they are carried out. -/
def PrecedesStrictly (a b : Recorded) : Prop :=
  a.action.order < b.action.order ∨ a.action.order = b.action.order ∧ a.index < b.index

theorem mergeSort_comesBefore_pairwise {rs : List Recorded}
    (h : (rs.map Recorded.index).Nodup) :
    (rs.mergeSort comesBefore).Pairwise PrecedesStrictly := by
  have hsorted : (rs.mergeSort comesBefore).Pairwise fun a b => comesBefore a b = true := by
    apply List.pairwise_mergeSort
    · intro a b c hab hbc
      rw [comesBefore_iff] at hab hbc ⊢
      omega
    · intro a b
      rw [Bool.or_eq_true, comesBefore_iff, comesBefore_iff]
      omega
  have hindex : (rs.mergeSort comesBefore).Pairwise fun a b => a.index ≠ b.index :=
    List.pairwise_map.mp (((List.mergeSort_perm rs comesBefore).map _).symm.nodup h)
  refine (hsorted.and hindex).imp ?_
  rintro a b ⟨hab, hne⟩
  rw [comesBefore_iff] at hab
  unfold PrecedesStrictly
  omega

/-! ## Resolutions -/

/-- Recorded actions that may be carried out for a ledger: all those without a discriminator, and
for each discriminator the earliest that governs it. -/
structure Resolution (actions : List Action) (chosen : List Recorded) : Prop where
  recorded : ∀ r ∈ chosen, r ∈ record actions
  distinct : (chosen.map Recorded.index).Nodup
  free : ∀ r ∈ record actions, r.action.discriminator = none → r ∈ chosen
  unique : ∀ r ∈ record actions, ∀ d, r.action.discriminator = some d →
    ∃! b, b ∈ chosen ∧ b.action.discriminator = some d
  governing : ∀ b ∈ chosen, ∀ d, b.action.discriminator = some d →
    Governs actions d b ∧ ∀ r, Governs actions d r → b.index ≤ r.index
  ordered : chosen.Pairwise PrecedesStrictly

theorem resolution_winners (hs : ∀ g ∈ (groups actions).toList, Settled g.2) :
    Resolution actions ((winners actions).mergeSort comesBefore) := by
  have hindex : ((winners actions).map Recorded.index).Nodup :=
    (winners_nodup actions).map_on fun r hr s hs heq =>
      record_inj (mem_record_of_mem_winners hr) (mem_record_of_mem_winners hs) heq
  -- a chosen action with a discriminator is the first of its group
  have hfirst : ∀ b ∈ winners actions, ∀ d, b.action.discriminator = some d →
      ∃ rest, (ofDiscriminator actions d).mergeSort scopeComesBefore = b :: rest := by
    intro b hb d hd
    rcases mem_winners_iff.mp hb with ⟨-, hnone⟩ | ⟨e, rest, hgroup⟩
    · rw [hd] at hnone
      exact absurd hnone (Option.some_ne_none d)
    · have he := ((mem_group_iff hgroup).mp List.mem_cons_self).2
      cases Option.some.inj (hd.symm.trans he)
      exact ⟨rest, hgroup⟩
  refine ⟨?_, ?_, ?_, ?_, ?_, mergeSort_comesBefore_pairwise hindex⟩
  · intro r hr
    exact mem_record_of_mem_winners (List.mem_mergeSort.mp hr)
  · exact ((List.mergeSort_perm _ _).map _).symm.nodup hindex
  · intro r hr hd
    exact List.mem_mergeSort.mpr (mem_winners_iff.mpr (Or.inl ⟨hr, hd⟩))
  · intro r hr d hd
    obtain ⟨base, rest, hgroup⟩ := exists_group hr hd
    refine ⟨base, ⟨List.mem_mergeSort.mpr (mem_winners_iff.mpr (Or.inr ⟨d, rest, hgroup⟩)),
      ((mem_group_iff hgroup).mp List.mem_cons_self).2⟩, ?_⟩
    rintro b ⟨hb, hbd⟩
    obtain ⟨rest', hgroup'⟩ := hfirst b (List.mem_mergeSort.mp hb) d hbd
    exact (List.cons.inj (hgroup'.symm.trans hgroup)).1
  · intro b hb d hd
    obtain ⟨rest, hgroup⟩ := hfirst b (List.mem_mergeSort.mp hb) d hd
    refine ⟨governs_of_settled hgroup (hs _ (mem_groups_of_eq hgroup)), ?_⟩
    intro r hr
    by_cases hrb : b.index = r.index
    · exact Nat.le_of_eq hrb
    · exact Nat.le_of_lt (repeatOf_of_governs hgroup hr hrb).2

/-- **Resolution by scope.** A ledger resolves exactly when each of its discriminators is governed;
the actions to carry out are then a resolution of it. -/
theorem resolve_ok_iff_governed (actions : List Action) :
    ((∃ out, resolve actions = .ok out) ↔
      ∀ a ∈ actions, ∀ d, a.discriminator = some d → ∃ b, Governs actions d b) ∧
    ∀ out, resolve actions = .ok out →
      ∃ chosen, Resolution actions chosen ∧ out = chosen.map Recorded.action := by
  constructor
  · rw [← settled_groups_iff]
    constructor
    · rintro ⟨out, h⟩
      exact (resolve_eq_ok_iff.mp h).1
    · intro hs
      exact ⟨_, resolve_eq_ok_iff.mpr ⟨hs, rfl⟩⟩
  · intro out h
    obtain ⟨hs, hout⟩ := resolve_eq_ok_iff.mp h
    exact ⟨_, resolution_winners hs, hout⟩

end Ledger

end WebDispatch
