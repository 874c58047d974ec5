import Mathlib.Data.Fintype.EquivFin
import Mathlib.Data.Fintype.Sets
import Mathlib.Logic.Relation
import WebDispatch.Proofs.Tween.Sorting

/-!
# What the sort leaves

A node is taken when nothing that is left stands outside it. So all that stands outside a node
that was taken was taken before it, and every node that is left has one outside it that is left as
well: of a finite graph, those are the nodes on cycles and the nodes reached from them.

* `mem_before_of_arc` — what stands outside a node that was taken comes before it;
* `exists_arc_of_left` — what is left is held back by what is left;
* `mem_left_iff` — what is left are the nodes on a cycle and those reached from one.
-/

namespace WebDispatch

namespace TweenOrder

open Relation

variable {edges : List TweenEdge} {s : Sorting} {n : String}

/-- A placement puts one node directly outside another. -/
def Arc (edges : List TweenEdge) (outer inner : String) : Prop :=
  (⟨outer, inner⟩ : TweenEdge) ∈ edges

/-- A node lies on a cycle of a relation, or is reached from one. -/
def Trapped (r : String → String → Prop) (n : String) : Prop :=
  ∃ c, TransGen r c c ∧ ReflTransGen r c n

@[simp] theorem mem_successors_iff {m : String} : m ∈ successors edges n ↔ Arc edges n m := by
  simp only [successors, List.mem_map, List.mem_filter, decide_eq_true_eq]
  constructor
  · rintro ⟨⟨outer, inner⟩, ⟨he, rfl⟩, rfl⟩
    exact he
  · intro h
    exact ⟨⟨n, m⟩, ⟨h, rfl⟩, rfl⟩

theorem arcsFrom_eq_zero_iff {outers : List String} :
    arcsFrom edges outers n = 0 ↔ ∀ a ∈ outers, ¬ Arc edges a n := by
  simp only [arcsFrom, List.countP_eq_zero, Bool.and_eq_true, decide_eq_true_eq,
    List.contains_iff_mem, not_and]
  constructor
  · intro h a ha harc
    exact h ⟨a, n⟩ harc rfl ha
  · rintro h ⟨outer, inner⟩ he rfl ha
    exact h outer ha he

/-! ## The nodes that are taken -/

theorem not_arc_of_waiting (h : Balanced edges s []) (hn : n ∈ s.waiting) :
    ∀ a ∈ s.held.keys, ¬ Arc edges a n := by
  have hzero := h.count n 0 ((h.waiting_iff n).mp hn)
  rw [List.count_nil, Nat.add_zero] at hzero
  exact arcsFrom_eq_zero_iff.mp hzero.symm

/-- **What stands outside comes first.** Of the nodes held at the start, those directly outside a
node that is taken are taken before it. -/
theorem mem_before_of_arc (fuel : Nat) (h : Balanced edges s []) {before after : List String}
    (hsplit : (sortNodes edges fuel s).1 = before ++ n :: after) {a : String}
    (ha : a ∈ s.held.keys) (harc : Arc edges a n) : a ∈ before := by
  induction fuel generalizing s before with
  | zero => simp [sortNodes] at hsplit
  | succ fuel ih =>
      cases hs : s.waiting with
      | nil => simp [sortNodes_of_idle hs] at hsplit
      | cons m rest =>
          rw [sortNodes_of_waiting h hs] at hsplit
          cases before with
          | nil =>
              obtain rfl : m = n := (List.cons.inj hsplit).1
              exact absurd harc (not_arc_of_waiting h (hs ▸ List.mem_cons_self) a ha)
          | cons m' before =>
              obtain ⟨rfl, hrest⟩ := List.cons.inj hsplit
              by_cases ham : a = m
              · exact ham ▸ List.mem_cons_self
              · have hleft : a ∈ (taken edges s m rest).held.keys := by
                  rw [keys_taken h hs]
                  exact (List.mem_erase_of_ne ham).mpr ha
                exact List.mem_cons_of_mem m (ih (balanced_taken h hs) hrest hleft)

/-! ## The nodes that are left -/

/-- **What is left is held back.** With fuel for every node, each node that is left has one
directly outside it that is left. -/
theorem exists_arc_of_left (fuel : Nat) (h : Balanced edges s [])
    (hfuel : s.held.keys.length ≤ fuel) (hn : n ∈ (sortNodes edges fuel s).2.keys) :
    ∃ a ∈ (sortNodes edges fuel s).2.keys, Arc edges a n := by
  induction fuel generalizing s with
  | zero =>
      have hempty : s.held.keys = [] := List.length_eq_zero_iff.mp (Nat.le_zero.mp hfuel)
      rw [sortNodes, hempty] at hn
      exact absurd hn List.not_mem_nil
  | succ fuel ih =>
      cases hs : s.waiting with
      | nil =>
          rw [sortNodes_of_idle hs] at hn ⊢
          by_contra hno
          -- a node without one outside it would wait
          have hzero : arcsFrom edges s.held.keys n = 0 :=
            arcsFrom_eq_zero_iff.mpr fun a ha harc => hno ⟨a, ha, harc⟩
          obtain ⟨k, hk⟩ := Option.isSome_iff_exists.mp (OrderedMap.isSome_get?_iff.mpr hn)
          obtain rfl : k = 0 := by simpa [hzero] using h.count n k hk
          have hwait : n ∈ s.waiting := (h.waiting_iff n).mpr hk
          rw [hs] at hwait
          exact absurd hwait List.not_mem_nil
      | cons m rest =>
          have hm : m ∈ s.held.keys := h.held_of_waiting (hs ▸ List.mem_cons_self)
          rw [sortNodes_of_waiting h hs] at hn ⊢
          refine ih (balanced_taken h hs) ?_ hn
          rw [keys_taken h hs, List.length_erase_of_mem hm]
          exact Nat.sub_le_of_le_add hfuel

/-- A way between two nodes of a set, the second of which no cycle reaches. -/
def FreeWay (r : String → String → Prop) (nodes : List String) (a b : { n // n ∈ nodes }) : Prop :=
  TransGen r a.1 b.1 ∧ ¬ Trapped r b.1

/-- Such a way never comes back to its beginning, so in a finite set there is no end of them
backwards. -/
theorem wellFounded_freeWay (r : String → String → Prop) (nodes : List String) :
    WellFounded (FreeWay r nodes) := by
  have : IsTrans _ (FreeWay r nodes) := ⟨fun _ _ _ hab hbc => ⟨hab.1.trans hbc.1, hbc.2⟩⟩
  have : Std.Irrefl (FreeWay r nodes) := ⟨fun a ha => ha.2 ⟨a.1, ha.1, ReflTransGen.refl⟩⟩
  exact Finite.wellFounded_of_trans_of_irrefl _

/-- In a finite set where everything has a predecessor, everything is reached from a cycle. -/
theorem trapped_of_predecessors {r : String → String → Prop} {nodes : List String}
    (h : ∀ n ∈ nodes, ∃ a ∈ nodes, r a n) : ∀ n ∈ nodes, Trapped r n := by
  intro n hn
  refine (wellFounded_freeWay r nodes).induction (C := fun b => Trapped r b.1) ⟨n, hn⟩ ?_
  rintro ⟨b, hb⟩ ih
  by_contra hfree
  obtain ⟨a, ha, harc⟩ := h b hb
  obtain ⟨c, hcycle, hreach⟩ := ih ⟨a, ha⟩ ⟨TransGen.single harc, hfree⟩
  exact hfree ⟨c, hcycle, hreach.tail harc⟩

/-! ## The graph of an order of tweens -/

variable {t : TweenOrder}

theorem mem_before_of_arc_sorted {before after : List String}
    (hsplit : t.sorted.1 = before ++ n :: after) {a : String}
    (harc : Arc t.presentEdges a n) : a ∈ before := by
  refine mem_before_of_arc _ t.balanced_startOf hsplit ?_ harc
  rw [t.keys_startOf]
  exact (mem_nodes_of_presentEdge harc).1

theorem nodup_sorted (t : TweenOrder) : (t.sorted.1 ++ t.sorted.2.keys).Nodup :=
  t.sorted_perm.nodup_iff.mpr t.nodup_nodes

theorem idxOf_lt_of_arc {a : String} (h : Arc t.presentEdges a n) (hn : n ∈ t.sorted.1) :
    a ∈ t.sorted.1 ∧ t.sorted.1.idxOf a < t.sorted.1.idxOf n := by
  obtain ⟨before, after, hsplit⟩ := List.append_of_mem hn
  have ha : a ∈ before := mem_before_of_arc_sorted hsplit h
  have hnodup := (List.nodup_append.mp t.nodup_sorted).1
  rw [hsplit] at hnodup ⊢
  have hnot : n ∉ before := by
    intro hmem
    exact (List.nodup_append.mp hnodup).2.2 n hmem n List.mem_cons_self rfl
  refine ⟨List.mem_append_left _ ha, ?_⟩
  rw [List.idxOf_append_of_mem ha, List.idxOf_append_of_notMem hnot]
  exact Nat.lt_add_right _ (List.idxOf_lt_length_of_mem ha)

/-- All of a way that ends in a node that was taken was taken, and in order. -/
theorem idxOf_lt_of_transGen {a : String} (h : TransGen (Arc t.presentEdges) a n)
    (hn : n ∈ t.sorted.1) : a ∈ t.sorted.1 ∧ t.sorted.1.idxOf a < t.sorted.1.idxOf n := by
  induction h using TransGen.head_induction_on with
  | single harc => exact idxOf_lt_of_arc harc hn
  | head harc _ ih =>
      obtain ⟨hb, hlt⟩ := ih
      obtain ⟨ha, hlt'⟩ := idxOf_lt_of_arc harc hb
      exact ⟨ha, hlt'.trans hlt⟩

/-- **What is left.** The sort leaves the nodes that lie on a cycle or are reached from one. -/
theorem mem_left_iff : n ∈ t.sorted.2.keys ↔ Trapped (Arc t.presentEdges) n := by
  constructor
  · refine trapped_of_predecessors (fun m hm => ?_) n
    exact exists_arc_of_left _ t.balanced_startOf (congrArg List.length t.keys_startOf).le hm
  · rintro ⟨c, hcycle, hreach⟩
    have hway : TransGen (Arc t.presentEdges) c n := hcycle.trans_left hreach
    obtain ⟨b, -, harc⟩ := TransGen.tail'_iff.mp hway
    have hmem := t.sorted_perm.mem_iff.mpr (mem_nodes_of_presentEdge harc).2
    refine (List.mem_append.mp hmem).resolve_left fun hn => ?_
    -- had the node been taken, the cycle would have been taken before itself
    have hc : c ∈ t.sorted.1 := (idxOf_lt_of_transGen hway hn).1
    exact Nat.lt_irrefl _ (idxOf_lt_of_transGen hcycle hc).2

theorem left_ne_nil_iff :
    t.sorted.2.toList ≠ [] ↔ ∃ n, TransGen (Arc t.presentEdges) n n := by
  constructor
  · intro h
    obtain ⟨⟨n, k⟩, hn⟩ := List.exists_mem_of_ne_nil _ h
    obtain ⟨c, hcycle, -⟩ := mem_left_iff.mp (List.mem_map.mpr ⟨(n, k), hn, rfl⟩)
    exact ⟨c, hcycle⟩
  · rintro ⟨n, hcycle⟩ hnil
    have hn : n ∈ t.sorted.2.keys := mem_left_iff.mpr ⟨n, hcycle, ReflTransGen.refl⟩
    rw [OrderedMap.keys, hnil] at hn
    exact absurd hn List.not_mem_nil

end TweenOrder

end WebDispatch
