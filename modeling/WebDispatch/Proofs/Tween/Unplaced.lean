import WebDispatch.Configuration.Configurator
import WebDispatch.Proofs.Tween.Soundness

/-!
# Tweens that are placed nowhere

What waits while the graph is sorted comes out in the order in which it waits, whatever is released
in between, for what is released goes to the front. The ingress comes first, and what it alone held
back then waits before all else, the last placement first. So of tweens that are placed nowhere the
last added is the outermost, and all of them are outside of the tweens that nothing holds back.

* `waiting_sublist_sortNodes` — what waits keeps its order;
* `exists_freed_sublist_sorted` — what waits when the ingress has been taken;
* `filter_successors_ingress` — the placements of unplaced tweens among those under the ingress;
* `unplaced_run_last_first` — where unplaced tweens stand.
-/

namespace WebDispatch

namespace TweenOrder

open OrderedMap

variable {edges : List TweenEdge} {s : Sorting} {t : TweenOrder} {n : String}

@[simp] theorem successors_append (edges more : List TweenEdge) (n : String) :
    successors (edges ++ more) n = successors edges n ++ successors more n := by
  rw [successors, List.filter_append, List.map_append]
  rfl

/-! ## What waits -/

/-- What is freed goes to the front, one after the other. -/
theorem exists_freed (s : Sorting) (pending : List String) :
    ∃ freed : List String, freed.Sublist pending ∧
      (pending.foldl release s).waiting = freed.reverse ++ s.waiting := by
  induction pending generalizing s with
  | nil => exact ⟨[], .slnil, rfl⟩
  | cons m rest ih =>
      obtain ⟨freed, hfreed, hwaiting⟩ := ih (release s m)
      rw [List.foldl_cons, hwaiting]
      have hrelease : (release s m).waiting = s.waiting ∨
          (release s m).waiting = m :: s.waiting := by
        unfold release
        split
        · exact .inl rfl
        · next k _ => exact (ite_eq_or_eq (k - 1 = 0) (m :: s.waiting) s.waiting).symm
      rcases hrelease with hkept | hput
      · exact ⟨freed, hfreed.cons m, by rw [hkept]⟩
      · refine ⟨m :: freed, hfreed.cons_cons m, ?_⟩
        rw [hput, List.reverse_cons, List.append_assoc, List.singleton_append]

/-- What waits is taken in the order in which it waits, if nothing is left in the end. -/
theorem waiting_sublist_sortNodes (fuel : Nat) (h : Balanced edges s [])
    (hleft : (sortNodes edges fuel s).2.keys = []) :
    s.waiting.Sublist (sortNodes edges fuel s).1 := by
  induction fuel generalizing s with
  | zero =>
      have hnone : s.waiting = [] := by
        refine List.eq_nil_iff_forall_not_mem.mpr fun n hn => ?_
        have hheld : n ∈ s.held.keys := h.held_of_waiting hn
        rw [sortNodes] at hleft
        rw [hleft] at hheld
        exact List.not_mem_nil hheld
      rw [hnone]
      exact List.nil_sublist _
  | succ fuel ih =>
      cases hs : s.waiting with
      | nil => exact List.nil_sublist _
      | cons n rest =>
          rw [sortNodes_of_waiting h hs] at hleft ⊢
          -- the nodes that are freed come before those that wait already
          obtain ⟨freed, -, hwaiting⟩ := exists_freed ⟨s.held.erase n, rest⟩ (successors edges n)
          have hrest : rest.Sublist (taken edges s n rest).waiting := by
            rw [taken, hwaiting]
            exact List.sublist_append_right _ _
          exact (hrest.trans (ih (balanced_taken h hs) hleft)).cons_cons n

/-! ## After the ingress -/

theorem exists_foldl_addOnce (added present : List String) :
    ∃ more, added.foldl addOnce present = present ++ more := by
  induction added generalizing present with
  | nil => exact ⟨[], (List.append_nil present).symm⟩
  | cons a rest ih =>
      obtain ⟨more, hmore⟩ := ih (addOnce present a)
      rw [List.foldl_cons, hmore]
      unfold addOnce
      split
      · exact ⟨more, rfl⟩
      · exact ⟨a :: more, by rw [List.append_assoc, List.singleton_append]⟩

theorem arcs_eq_zero_iff : arcs edges n = 0 ↔ ∀ a, ¬ Arc edges a n := by
  rw [arcs, List.length_eq_zero_iff, List.filter_eq_nil_iff]
  constructor
  · intro h a ha
    exact h ⟨a, n⟩ ha (decide_eq_true rfl)
  · rintro h ⟨outer, inner⟩ he hinner
    obtain rfl : inner = n := of_decide_eq_true hinner
    exact h outer he

/-- The nodes besides the ingress that nothing holds back. -/
def rootsBesides (t : TweenOrder) : List String :=
  t.nodes.tail.filter fun n => arcs t.presentEdges n = 0

theorem waiting_startOf (hfree : ∀ a, ¬ Arc t.presentEdges a ingress) :
    t.startOf.waiting = ingress :: t.rootsBesides := by
  obtain ⟨more, hnodes⟩ :=
    exists_foldl_addOnce (t.names.filterMap t.aliasOfName.get?) [ingress, mainHandler]
  change t.nodes = ingress :: mainHandler :: more at hnodes
  have hroot : decide (arcs t.presentEdges ingress = 0) = true :=
    decide_eq_true (arcs_eq_zero_iff.mpr hfree)
  rw [startOf, rootsBesides, hnodes, List.tail_cons]
  exact List.filter_cons_of_pos (p := fun n => decide (arcs t.presentEdges n = 0)) hroot

theorem mem_rootsBesides (hn : n ∈ t.nodes) (hingress : n ≠ ingress)
    (hroot : ∀ a, ¬ Arc t.presentEdges a n) : n ∈ t.rootsBesides := by
  obtain ⟨more, hnodes⟩ :=
    exists_foldl_addOnce (t.names.filterMap t.aliasOfName.get?) [ingress, mainHandler]
  change t.nodes = ingress :: mainHandler :: more at hnodes
  rw [hnodes, List.mem_cons] at hn
  rw [rootsBesides, hnodes, List.tail_cons, List.mem_filter]
  exact ⟨hn.resolve_left hingress, decide_eq_true (arcs_eq_zero_iff.mpr hroot)⟩

def afterIngress (t : TweenOrder) : Sorting :=
  taken t.presentEdges t.startOf ingress t.rootsBesides

section Free

variable (hfree : ∀ a, ¬ Arc t.presentEdges a ingress)
include hfree

theorem balanced_afterIngress : Balanced t.presentEdges t.afterIngress [] :=
  balanced_taken t.balanced_startOf (waiting_startOf hfree)

@[simp] theorem keys_afterIngress : t.afterIngress.held.keys = t.nodes.erase ingress := by
  rw [afterIngress, keys_taken t.balanced_startOf (waiting_startOf hfree), t.keys_startOf]

/-- What only the ingress holds back waits as soon as that has been taken. -/
theorem mem_waiting_afterIngress (harc : Arc t.presentEdges ingress n)
    (honly : ∀ a, Arc t.presentEdges a n → a = ingress) : n ∈ t.afterIngress.waiting := by
  have hkeys := keys_afterIngress hfree
  have hbalanced := balanced_afterIngress hfree
  have hheld : n ∈ t.afterIngress.held.keys := by
    have hne : n ≠ ingress := fun h => hfree ingress (h ▸ harc)
    rw [hkeys]
    exact (List.mem_erase_of_ne hne).mpr (mem_nodes_of_presentEdge harc).2
  have hzero : arcsFrom t.presentEdges t.afterIngress.held.keys n = 0 := by
    refine arcsFrom_eq_zero_iff.mpr fun a ha hout => ?_
    rw [hkeys, honly a hout] at ha
    exact t.nodup_nodes.not_mem_erase ha
  obtain ⟨k, hk⟩ := Option.isSome_iff_exists.mp (isSome_get?_iff.mpr hheld)
  obtain rfl : k = 0 := by simpa [hzero] using hbalanced.count n k hk
  exact (hbalanced.waiting_iff n).mpr hk

theorem waiting_afterIngress_sublist (hleft : t.sorted.2.keys = []) :
    t.afterIngress.waiting.Sublist t.sorted.1 := by
  have hsome : t.nodes.length ≠ 0 :=
    (List.length_pos_of_mem (mem_nodes_iff.mpr (.inl rfl))).ne'
  obtain ⟨fuel, hfuel⟩ := Nat.exists_eq_succ_of_ne_zero hsome
  change (sortNodes t.presentEdges t.nodes.length t.startOf).2.keys = [] at hleft
  change t.afterIngress.waiting.Sublist (sortNodes t.presentEdges t.nodes.length t.startOf).1
  rw [hfuel, sortNodes_of_waiting t.balanced_startOf (waiting_startOf hfree)] at hleft ⊢
  exact (waiting_sublist_sortNodes fuel (balanced_afterIngress hfree) hleft).cons ingress

/-- When nothing is left, the nodes that the ingress alone held back are taken before the other
roots, and among them the one freed last is taken first. -/
theorem exists_freed_sublist_sorted (hleft : t.sorted.2.keys = []) :
    ∃ freed : List String, freed.Sublist (successors t.presentEdges ingress) ∧
      (∀ n, Arc t.presentEdges ingress n → (∀ a, Arc t.presentEdges a n → a = ingress) →
        n ∈ freed) ∧
      (freed.reverse ++ t.rootsBesides).Sublist t.sorted.1 := by
  obtain ⟨freed, hfreed, hwaiting⟩ :=
    exists_freed ⟨t.startOf.held.erase ingress, t.rootsBesides⟩ (successors t.presentEdges ingress)
  change t.afterIngress.waiting = freed.reverse ++ t.rootsBesides at hwaiting
  refine ⟨freed, hfreed, fun n harc honly => ?_, ?_⟩
  · have hn := mem_waiting_afterIngress hfree harc honly
    rw [hwaiting, List.mem_append, List.mem_reverse] at hn
    refine hn.resolve_right fun hroot => ?_
    rw [rootsBesides, List.mem_filter, decide_eq_true_iff, arcs_eq_zero_iff] at hroot
    exact hroot.2 ingress harc
  · rw [← hwaiting]
    exact waiting_afterIngress_sublist hfree hleft

end Free

end TweenOrder

namespace Tweens

open TweenOrder

variable {adds : List Addition} {a b : Addition}

/-! ## Unplaced tweens -/

/-- No tween is placed over this one. -/
def NoneOver (adds : List Addition) (a : Addition) : Prop :=
  ∀ b ∈ adds, ∀ entry ∈ b.above.getD [], ¬ a.GoesBy entry

/-- A tween is placed nowhere, and no other is placed over it. -/
structure Unplaced (adds : List Addition) (a : Addition) : Prop where
  below : a.below = none
  above : a.above = none
  noneOver : NoneOver adds a

/-- A tween is placed over others only, and no other is placed over it. -/
structure PlacedOverOnly (adds : List Addition) (a : Addition) : Prop where
  below : a.below = none
  above : a.above.isSome
  noneOver : NoneOver adds a

instance (adds : List Addition) (a : Addition) : Decidable (NoneOver adds a) :=
  inferInstanceAs (Decidable (∀ b ∈ adds, ∀ entry ∈ b.above.getD [], ¬ a.GoesBy entry))

instance (adds : List Addition) (a : Addition) : Decidable (Unplaced adds a) :=
  decidable_of_iff (a.below = none ∧ a.above = none ∧ NoneOver adds a)
    ⟨fun h => ⟨h.1, h.2.1, h.2.2⟩, fun h => ⟨h.1, h.2, h.3⟩⟩

def unplacedNodes (adds : List Addition) : List String :=
  (adds.filter fun a => Unplaced adds a).map Addition.node

theorem Unplaced.outers_eq (h : Unplaced adds a) : a.outers = [ingress] := by
  rw [Addition.outers, h.below, h.above]
  rfl

theorem Unplaced.edges_eq (h : Unplaced adds a) : a.edges = [⟨ingress, a.node⟩] := by
  rw [Addition.edges, h.outers_eq, Addition.inners, h.above]
  rfl

theorem mem_unplacedNodes {n : String} :
    n ∈ unplacedNodes adds ↔ ∃ a ∈ adds, Unplaced adds a ∧ a.node = n := by
  simp [unplacedNodes, and_assoc]

section WellNamed

variable (hw : WellNamed adds)
include hw

/-- The ingress is what the entry for it stands for. -/
theorem WellNamed.means_of_ingress_iff {n : String} : Means adds ingress n ↔ n = ingress := by
  rw [hw.means_iff]
  constructor
  · rintro (⟨-, hn⟩ | ⟨hend, -⟩ | ⟨b, hb, hcalled, -⟩)
    · exact hn
    · exact absurd hend (by decide)
    · exact absurd hcalled (hw.ingress_not_goesBy b hb)
  · exact fun hn => .inl ⟨rfl, hn⟩

/-- No other entry stands for the ingress. -/
theorem WellNamed.means_ingress_iff {entry : String} :
    Means adds entry ingress ↔ entry = ingress := by
  rw [hw.means_iff]
  constructor
  · rintro (⟨hentry, -⟩ | ⟨-, hend⟩ | ⟨b, hb, -, hnode⟩)
    · exact hentry
    · exact absurd hend (by decide)
    · exact absurd (.inr hnode.symm) (hw.ingress_not_goesBy b hb)
  · exact fun hentry => .inl ⟨hentry, rfl⟩

/-- What is directly outside of a tween with none placed over it, is what it was placed under. -/
theorem WellNamed.exists_outer_of_edge (ha : a ∈ adds) (hnone : NoneOver adds a) {n : String}
    (hedge : Edge adds n a.node) : ∃ u ∈ a.outers, Means adds u n := by
  rcases edge_iff.mp hedge with
    ⟨-, hend⟩ | ⟨b, hb, u, hu, houter, hinner⟩ | ⟨b, hb, o, ho, -, hinner⟩
  · exact absurd (.inr hend.symm) (hw.mainHandler_not_goesBy a ha)
  · obtain rfl := hw.eq_of_goesBy ha hb ((hw.means_node_iff ha).mp hinner) (.inr rfl)
    exact ⟨u, hu, houter⟩
  · exact absurd ((hw.means_node_iff ha).mp hinner) (hnone b hb o ho)

/-- The ingress, and it alone, is directly outside of an unplaced tween. -/
theorem WellNamed.edge_unplaced_iff (ha : a ∈ adds) (h : Unplaced adds a) {n : String} :
    Edge adds n a.node ↔ n = ingress := by
  constructor
  · intro hedge
    obtain ⟨u, hu, hmeans⟩ := hw.exists_outer_of_edge ha h.noneOver hedge
    rw [h.outers_eq, List.mem_singleton] at hu
    exact hw.means_of_ingress_iff.mp (hu ▸ hmeans)
  · intro hn
    refine .placedUnder ha ?_ (hw.means_of_ingress_iff.mpr hn)
      ((hw.means_node_iff ha).mpr (.inr rfl))
    rw [h.outers_eq]
    exact List.mem_singleton_self ingress

/-- Nothing is directly outside of a tween that is placed over others only. -/
theorem WellNamed.not_edge_placedOverOnly (ha : a ∈ adds) (h : PlacedOverOnly adds a) (n : String) :
    ¬ Edge adds n a.node := by
  intro hedge
  obtain ⟨u, hu, -⟩ := hw.exists_outer_of_edge ha h.noneOver hedge
  rw [mem_outers_iff, h.below] at hu
  rcases hu with hu | ⟨-, habove, -⟩
  · exact List.not_mem_nil hu
  · exact Option.isSome_iff_ne_none.mp h.above habove

/-- Nothing is directly outside of the ingress, unless a tween is placed over that. -/
theorem WellNamed.not_edge_ingress (hin : ∀ a ∈ adds, ingress ∉ a.above.getD []) (n : String) :
    ¬ Edge adds n ingress := by
  intro hedge
  rcases edge_iff.mp hedge with
    ⟨-, hend⟩ | ⟨b, hb, u, -, -, hinner⟩ | ⟨b, hb, o, ho, -, hinner⟩
  · exact absurd hend (by decide)
  · exact hw.ingress_not_goesBy b hb (.inr (hw.means_ingress_iff.mp hinner).symm)
  · exact hin b hb (hw.means_ingress_iff.mp hinner ▸ ho)

/-! ## The nodes under the ingress -/

/-- The unplaced node that a tween puts under the ingress is its own, if it is unplaced. -/
theorem WellNamed.filter_successors_edges (ha : a ∈ adds) :
    (successors (a.edges.filterMap (ofAdditions adds).order.presentEdge?) ingress).filter
      (fun n => n ∈ unplacedNodes adds) = if Unplaced adds a then [a.node] else [] := by
  have hself : Means adds a.node a.node := (hw.means_node_iff ha).mpr (.inr rfl)
  by_cases h : Unplaced adds a
  · have hpresent : (ofAdditions adds).order.presentEdge? ⟨ingress, a.node⟩ =
        some ⟨ingress, a.node⟩ := by
      simp only [presentEdge?, node?_ofAdditions.mpr hself,
        node?_ofAdditions.mpr (hw.means_of_ingress_iff.mpr rfl)]
    have hmem : a.node ∈ unplacedNodes adds := mem_unplacedNodes.mpr ⟨a, ha, h, rfl⟩
    rw [if_pos h, h.edges_eq, List.filterMap_cons_some hpresent]
    simp [successors, hmem]
  · rw [if_neg h, List.filter_eq_nil_iff]
    intro n hn hunplaced
    obtain ⟨b, hb, hloose, rfl⟩ := mem_unplacedNodes.mp (of_decide_eq_true hunplaced)
    obtain ⟨e, he, hpresent⟩ := List.mem_filterMap.mp (mem_successors_iff.mp hn)
    obtain ⟨houter, hinner⟩ := means_of_presentEdge hpresent
    rcases mem_edges_iff.mp he with ⟨-, hnode⟩ | ⟨-, hnode⟩
    · -- the entry for its node stands for a tween that is unplaced, and so for another one
      have hcalled := (hw.means_node_iff hb).mp (hnode ▸ hinner)
      exact h (hw.eq_of_goesBy hb ha hcalled (.inr rfl) ▸ hloose)
    · exact hw.ingress_not_goesBy a ha (.inr (hw.means_ingress_iff.mp (hnode ▸ houter)).symm)

theorem WellNamed.filter_successors_flatMap {chosen : List Addition}
    (hchosen : ∀ a ∈ chosen, a ∈ adds) :
    (successors ((chosen.flatMap Addition.edges).filterMap (ofAdditions adds).order.presentEdge?)
      ingress).filter (fun n => n ∈ unplacedNodes adds) =
        (chosen.filter fun a => Unplaced adds a).map Addition.node := by
  induction chosen with
  | nil => rfl
  | cons a rest ih =>
      rw [List.flatMap_cons, List.filterMap_append, successors_append, List.filter_append,
        hw.filter_successors_edges (hchosen a List.mem_cons_self),
        ih fun b hb => hchosen b (List.mem_cons_of_mem a hb)]
      by_cases h : Unplaced adds a
      · simp [h]
      · simp [h]

/-- Of the nodes under the ingress those of unplaced tweens are in the order in which the tweens
were added. -/
theorem WellNamed.filter_successors_ingress :
    (successors (ofAdditions adds).order.presentEdges ingress).filter
      (fun n => n ∈ unplacedNodes adds) = unplacedNodes adds := by
  have hmain : mainHandler ∉ unplacedNodes adds := by
    intro hmem
    obtain ⟨a, ha, -, hnode⟩ := mem_unplacedNodes.mp hmem
    exact hw.mainHandler_not_goesBy a ha (.inr hnode.symm)
  have hends : successors [⟨ingress, mainHandler⟩] ingress = [mainHandler] := rfl
  rw [presentEdges, edges_ofAdditions, ← List.singleton_append, successors_append,
    List.filter_append, hw.filter_successors_flatMap fun a ha => ha, hends,
    List.filter_cons_of_neg (by simpa using hmain), List.filter_nil, List.nil_append]
  rfl

theorem WellNamed.nodup_unplacedNodes : (unplacedNodes adds).Nodup :=
  hw.nodup_nodes.sublist (List.filter_sublist.map Addition.node)

/-! ## The order -/

/-- The nodes of unplaced tweens are taken first, the last one before the others, and then those
that nothing holds back. -/
theorem WellNamed.unplacedNodes_sublist_sorted (hin : ∀ a ∈ adds, ingress ∉ a.above.getD [])
    (hleft : (ofAdditions adds).order.sorted.2.keys = []) :
    ((unplacedNodes adds).reverse ++ (ofAdditions adds).order.rootsBesides).Sublist
      (ofAdditions adds).order.sorted.1 := by
  obtain ⟨freed, hfreed, hmem, hsorted⟩ := exists_freed_sublist_sorted
    (fun n => arc_iff_edge.not.mpr (hw.not_edge_ingress hin n)) hleft
  have hplaced := hfreed.filter fun n => decide (n ∈ unplacedNodes adds)
  rw [hw.filter_successors_ingress] at hplaced
  have hall : unplacedNodes adds ⊆ freed.filter fun n => n ∈ unplacedNodes adds := by
    intro n hn
    obtain ⟨a, ha, hloose, rfl⟩ := mem_unplacedNodes.mp hn
    refine List.mem_filter.mpr ⟨hmem _ ?_ ?_, decide_eq_true hn⟩
    · exact arc_iff_edge.mpr ((hw.edge_unplaced_iff ha hloose).mpr rfl)
    · exact fun n harc => (hw.edge_unplaced_iff ha hloose).mp (arc_iff_edge.mp harc)
  have heq : (freed.filter fun n => n ∈ unplacedNodes adds) = unplacedNodes adds :=
    hplaced.eq_of_length_le (hw.nodup_unplacedNodes.subperm hall).length_le
  have hkept : (unplacedNodes adds).Sublist freed := heq ▸ List.filter_sublist
  exact (hkept.reverse.append_right _).trans hsorted

end WellNamed

/-- The tween that answers errors, as every configuration begins with it. -/
def exceptionTween : Addition where
  name := ExceptionView.tweenName
  factory := ExceptionView.tween
  knownAs := some ExceptionView.tweenAlias
  above := some [mainHandler]

/-- **Where unplaced tweens stand.** In an order that is returned, with no tween placed over the
ingress, of two unplaced tweens the one that was added later is the outer one; and an unplaced
tween is outside of every tween that is placed over others only. So it is outside of the tween that
answers errors, unless a tween is placed over that. -/
theorem unplaced_run_last_first (hw : WellNamed adds)
    (hin : ∀ a ∈ adds, ingress ∉ a.above.getD []) {out : List (String × TweenFactory)}
    (h : (ofAdditions adds).implicit = .ok out) :
    (∀ a b, [a, b].Sublist adds → Unplaced adds a → Unplaced adds b →
      [b.name, a.name].Sublist (out.map Prod.fst)) ∧
    (∀ a ∈ adds, ∀ b ∈ adds, Unplaced adds a → PlacedOverOnly adds b →
      [a.name, b.name].Sublist (out.map Prod.fst)) ∧
    ∀ a ∈ adds, exceptionTween ∈ adds → Unplaced adds a → NoneOver adds exceptionTween →
      [a.name, ExceptionView.tweenName].Sublist (out.map Prod.fst) := by
  obtain ⟨names, hnames, -⟩ := implicit_ok h
  have hleft : (ofAdditions adds).order.sorted.2.keys = [] := by
    rw [OrderedMap.keys, (resolve_ok_iff.mp hnames).2.2.1, List.map_nil]
  have hsorted := hw.unplacedNodes_sublist_sorted hin hleft
  have houtside : ∀ a ∈ adds, ∀ b ∈ adds, Unplaced adds a → PlacedOverOnly adds b →
      [a.name, b.name].Sublist (out.map Prod.fst) := by
    intro a ha b hb hunplaced hover
    have houter : [a.node].Sublist (unplacedNodes adds).reverse := by
      rw [List.singleton_sublist, List.mem_reverse, mem_unplacedNodes]
      exact ⟨a, ha, hunplaced, rfl⟩
    have hinner : [b.node].Sublist (ofAdditions adds).order.rootsBesides := by
      rw [List.singleton_sublist]
      refine mem_rootsBesides ?_ (fun hend => hw.ingress_not_goesBy b hb (.inr hend.symm)) ?_
      · rw [mem_nodes_ofAdditions, hw.isNode_iff]
        exact .inr (.inr ⟨b, hb, rfl⟩)
      · exact fun n harc => hw.not_edge_placedOverOnly hb hover n (arc_iff_edge.mp harc)
    refine hw.implicit_sublist_of_nodes h [a, b] (by simp [ha, hb]) ?_
    exact (houter.append hinner).trans hsorted
  refine ⟨?_, houtside, ?_⟩
  · intro a b hab ha hb
    have hunplaced : [a, b].Sublist (adds.filter fun c => Unplaced adds c) := by
      simpa [ha, hb] using hab.filter fun c => decide (Unplaced adds c)
    have hnodes : [b.node, a.node].Sublist (unplacedNodes adds).reverse :=
      (hunplaced.map Addition.node).reverse
    refine hw.implicit_sublist_of_nodes h [b, a] ?_
      ((hnodes.trans (List.sublist_append_left _ _)).trans hsorted)
    intro c hc
    exact hab.subset (by simpa [or_comm] using hc)
  · intro a ha hexception hunplaced hnone
    exact houtside a ha exceptionTween hexception hunplaced ⟨rfl, rfl, hnone⟩

/-- Two unplaced tweens and one under the first of them, around the answering of errors. -/
def guarded : List Addition :=
  [exceptionTween,
    { name := "timing", factory := passing },
    { name := "auth", factory := passing, below := some ["missing", "timing"] },
    { name := "pkg.session", factory := passing, knownAs := some "session" }]

theorem guarded_run_last_first :
    Configurator.withExceptionTween {} = ofAdditions [exceptionTween] ∧ WellNamed guarded ∧
      (∀ a ∈ guarded, ingress ∉ a.above.getD []) ∧
      (ofAdditions guarded).implicit = .ok [("pkg.session", passing), ("timing", passing),
        ("auth", passing), (ExceptionView.tweenName, ExceptionView.tween)] ∧
      ["pkg.session", "timing"].Sublist
        ["pkg.session", "timing", "auth", ExceptionView.tweenName] ∧
      ["timing", ExceptionView.tweenName].Sublist
        ["pkg.session", "timing", "auth", ExceptionView.tweenName] := by
  have hw : WellNamed guarded := by decide
  have hin : ∀ a ∈ guarded, ingress ∉ a.above.getD [] := by decide
  have himplicit : (ofAdditions guarded).implicit = .ok [("pkg.session", passing),
      ("timing", passing), ("auth", passing), (ExceptionView.tweenName, ExceptionView.tween)] := rfl
  obtain ⟨hreverse, -, houtside⟩ := unplaced_run_last_first hw hin himplicit
  refine ⟨rfl, hw, hin, himplicit, ?_, ?_⟩
  · refine hreverse { name := "timing", factory := passing }
      { name := "pkg.session", factory := passing, knownAs := some "session" } ?_ ?_ ?_
    · exact .cons _ (.cons_cons _ (.cons _ (.cons_cons _ .slnil)))
    · decide
    · decide
  · refine houtside { name := "timing", factory := passing } ?_ ?_ ?_ ?_
    · exact .tail _ (.head _)
    · exact .head _
    · decide
    · decide

end Tweens

end WebDispatch
