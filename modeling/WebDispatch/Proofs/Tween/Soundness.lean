import WebDispatch.Proofs.Tween.Names

/-!
# What an order of tweens promises

An order that is returned lists every tween once, with what it was added with, and keeps every
tween inside of those that it was placed under and outside of those that it was placed over. An
entry that names nothing present might as well not be there.

* `implicit_perm` — the tweens of the order; `implicit_sublist` — their places;
* `implicit_dropAbsent` — entries that name nothing;
* `implicit_sound` — all of this together.
-/

namespace WebDispatch

namespace Tweens

open TweenOrder

variable {adds : List Addition}

/-! ## The tweens of an order -/

/-- What no tween goes by stands for itself. -/
theorem standsFor_of_not_goesBy {n : String} (h : ∀ a ∈ adds, ¬ a.GoesBy n) :
    standsFor adds n = n := by
  have hnone : lastAt adds n = none := by
    rw [lastAt, List.find?_eq_none]
    intro a ha hnode
    exact h a (List.mem_reverse.mp ha) (.inr (of_decide_eq_true hnode).symm)
  rw [standsFor, hnone]
  rfl

theorem notMem_names_of_not_goesBy {n : String} (h : ∀ a ∈ adds, ¬ a.GoesBy n) :
    n ∉ (ofAdditions adds).order.names := by
  rw [names_ofAdditions, List.mem_map]
  rintro ⟨a, ha, hname⟩
  exact h a ha (.inl hname.symm)

section WellNamed

variable (hw : WellNamed adds)
include hw

theorem WellNamed.standsFor_node {a : Addition} (ha : a ∈ adds) :
    standsFor adds a.node = a.name := by
  rw [standsFor, hw.lastAt_node ha]
  rfl

theorem WellNamed.nodes_perm :
    (ofAdditions adds).order.nodes.Perm (ingress :: mainHandler :: adds.map Addition.node) := by
  have hmain : mainHandler ∉ adds.map Addition.node := by
    rw [List.mem_map]
    rintro ⟨a, ha, h⟩
    exact hw.mainHandler_not_goesBy a ha (.inr h.symm)
  have hingress : ingress ∉ mainHandler :: adds.map Addition.node := by
    rw [List.mem_cons, List.mem_map]
    rintro (h | ⟨a, ha, h⟩)
    · exact absurd h (by decide)
    · exact hw.ingress_not_goesBy a ha (.inr h.symm)
  have hnodup := List.nodup_cons.mpr ⟨hingress, List.nodup_cons.mpr ⟨hmain, hw.nodup_nodes⟩⟩
  refine (List.perm_ext_iff_of_nodup (ofAdditions adds).order.nodup_nodes hnodup).mpr fun n => ?_
  rw [mem_nodes_ofAdditions, hw.isNode_iff, List.mem_cons, List.mem_cons, List.mem_map]

/-- At the nodes are the tweens that were added, and the ends of the graph. -/
theorem WellNamed.map_nameAt_perm :
    ((ofAdditions adds).order.nodes.map (ofAdditions adds).order.nameAt).Perm
      (ingress :: mainHandler :: adds.map (·.name)) := by
  refine (hw.nodes_perm.map _).trans (List.Perm.of_eq ?_)
  simp only [List.map_cons, List.map_map, nameAt_ofAdditions,
    standsFor_of_not_goesBy hw.ingress_not_goesBy,
    standsFor_of_not_goesBy hw.mainHandler_not_goesBy]
  congr 2
  refine List.map_congr_left fun a ha => ?_
  rw [Function.comp_apply, nameAt_ofAdditions, hw.standsFor_node ha]

theorem WellNamed.factory_of_name {a : Addition} (ha : a ∈ adds) :
    (ofAdditions adds).factories.get? a.name = some a.factory := by
  rw [factories_ofAdditions, hw.lastNamed_name ha]
  rfl

/-- The order lists every tween once, with the factory that it was added with. -/
theorem WellNamed.implicit_perm {out : List (String × TweenFactory)}
    (h : (ofAdditions adds).implicit = .ok out) :
    out.Perm (adds.map fun a => (a.name, a.factory)) := by
  obtain ⟨names, hnames, rfl⟩ := implicit_ok h
  obtain ⟨hperm, rfl⟩ := resolve_ok hnames
  -- the ends of the graph are dropped, being names of no tween, and nothing else is
  have hadded : (ingress :: mainHandler :: adds.map (·.name)).filter
      (ofAdditions adds).order.names.contains = adds.map (·.name) := by
    rw [List.filter_cons_of_neg, List.filter_cons_of_neg, List.filter_eq_self]
    · intro n hn
      rwa [List.contains_iff_mem, names_ofAdditions]
    · simpa using notMem_names_of_not_goesBy hw.mainHandler_not_goesBy
    · simpa using notMem_names_of_not_goesBy hw.ingress_not_goesBy
  have hlisted := ((hperm.map (ofAdditions adds).order.nameAt).trans hw.map_nameAt_perm).filter
    (ofAdditions adds).order.names.contains
  rw [hadded] at hlisted
  refine (hlisted.filterMap _).trans (List.Perm.of_eq ?_)
  rw [List.filterMap_map, ← List.filterMap_eq_map]
  refine List.filterMap_congr fun a ha => ?_
  rw [Function.comp_apply, hw.factory_of_name ha]
  rfl

/-- The answer lists the names of the tweens at the nodes. -/
theorem WellNamed.names_at_nodes {chosen : List Addition} (hadds : ∀ a ∈ chosen, a ∈ adds) :
    (((((chosen.map Addition.node).map (ofAdditions adds).order.nameAt).filter
      (ofAdditions adds).order.names.contains).filterMap
        fun n => ((ofAdditions adds).factories.get? n).map fun f => (n, f)).map Prod.fst) =
      chosen.map (·.name) := by
  induction chosen with
  | nil => rfl
  | cons a rest ih =>
      have ha : a ∈ adds := hadds a List.mem_cons_self
      have hlisted : (ofAdditions adds).order.names.contains a.name = true := by
        rw [names_ofAdditions, List.contains_iff_mem]
        exact List.mem_map.mpr ⟨a, ha, rfl⟩
      have hname : (ofAdditions adds).order.nameAt a.node = a.name := by
        rw [nameAt_ofAdditions, hw.standsFor_node ha]
      rw [List.map_cons, List.map_cons, hname, List.filter_cons_of_pos hlisted,
        List.filterMap_cons_some (by rw [hw.factory_of_name ha]; rfl), List.map_cons, List.map_cons,
        ih fun b hb => hadds b (List.mem_cons_of_mem a hb)]

/-- Tweens are listed in the order in which the sort takes their nodes. -/
theorem WellNamed.implicit_sublist_of_nodes {out : List (String × TweenFactory)}
    (h : (ofAdditions adds).implicit = .ok out) (chosen : List Addition)
    (hadds : ∀ a ∈ chosen, a ∈ adds)
    (hnodes : (chosen.map Addition.node).Sublist (ofAdditions adds).order.sorted.1) :
    (chosen.map (·.name)).Sublist (out.map Prod.fst) := by
  obtain ⟨names, hnames, rfl⟩ := implicit_ok h
  obtain ⟨-, rfl⟩ := resolve_ok hnames
  -- both steps from the nodes to the answer keep the tweens and their order
  have hkept := (((hnodes.map (ofAdditions adds).order.nameAt).filter
    (ofAdditions adds).order.names.contains).filterMap
      fun n => ((ofAdditions adds).factories.get? n).map fun f => (n, f)).map Prod.fst
  rwa [hw.names_at_nodes hadds] at hkept

/-- Two tweens are listed in the order in which an edge puts them. -/
theorem WellNamed.implicit_sublist {out : List (String × TweenFactory)}
    (h : (ofAdditions adds).implicit = .ok out) {a b : Addition} (ha : a ∈ adds) (hb : b ∈ adds)
    (hedge : Edge adds a.node b.node) : [a.name, b.name].Sublist (out.map Prod.fst) := by
  obtain ⟨names, hnames, -⟩ := implicit_ok h
  have hnode : b.node ∈ (ofAdditions adds).order.sorted.1 := by
    rw [(resolve_ok hnames).1.mem_iff, mem_nodes_ofAdditions, hw.isNode_iff]
    exact .inr (.inr ⟨b, hb, rfl⟩)
  obtain ⟨before, after, hsplit⟩ := List.append_of_mem hnode
  have hmem : a.node ∈ before := mem_before_of_arc_sorted hsplit (arc_iff_edge.mpr hedge)
  refine hw.implicit_sublist_of_nodes h [a, b] (by simp [ha, hb]) ?_
  rw [hsplit]
  exact (List.singleton_sublist.mpr hmem).append (List.singleton_sublist.mpr List.mem_cons_self)

end WellNamed

/-! ## Entries that name nothing -/

/-- A tween as it would be without the entries that name nothing present. -/
def Addition.dropAbsent (adds : List Addition) (a : Addition) : Addition :=
  { a with
    below := a.below.map fun entries => entries.filter fun e => Present adds e
    above := a.above.map fun entries => entries.filter fun e => Present adds e }

def withoutEdges (t : Tweens) : Tweens := { t with order := { t.order with edges := [] } }

/-- The implicit order is told by the placements between nodes and by all else. -/
theorem implicit_congr {t t' : Tweens} (h : withoutEdges t = withoutEdges t')
    (hedges : t.order.presentEdges = t'.order.presentEdges) : t.implicit = t'.implicit := by
  have horder := congrArg Tweens.order h
  have hfactories := congrArg Tweens.factories h
  simp only [withoutEdges, TweenOrder.mk.injEq] at horder hfactories
  obtain ⟨hnames, haliasOf, hnameOf, -, hover, hunder⟩ := horder
  have hnodes : t.order.nodes = t'.order.nodes := by rw [nodes, nodes, hnames, haliasOf]
  have hnameAt : t.order.nameAt = t'.order.nameAt := by
    funext n
    rw [nameAt, nameAt, hnameOf]
  rw [implicit, implicit, resolve, resolve, missingOver, missingOver, missingUnder, missingUnder,
    sorted, sorted, hover, hunder, hnodes, hedges, hnameAt, hnames, hfactories]

/-- Without its placements, a tween is told by which sides it is placed on. -/
theorem withoutEdges_dropAbsent (present : List Addition) (adds : List Addition) :
    withoutEdges (ofAdditions (adds.map (Addition.dropAbsent present))) =
      withoutEdges (ofAdditions adds) := by
  -- what an addition does to the rest does not depend on the placements so far
  have hadd : ∀ (t : Tweens) (a : Addition),
      withoutEdges (t.add a.name a.factory a.knownAs a.below a.above) =
        withoutEdges ((withoutEdges t).add a.name a.factory a.knownAs a.below a.above) :=
    fun _ _ => rfl
  induction adds using List.reverseRecOn with
  | nil => rfl
  | append_singleton adds a ih =>
      rw [List.map_append, List.map_singleton, ofAdditions_snoc, ofAdditions_snoc, hadd, ih,
        hadd (ofAdditions adds)]
      rcases a with ⟨name, factory, knownAs, below, above⟩
      cases below <;> cases above <;> rfl

@[simp] theorem outers_dropAbsent (a : Addition) :
    (a.dropAbsent adds).outers = a.outers.filter fun e => Present adds e := by
  have hingress : Present adds ingress := .inl rfl
  rcases a with ⟨name, factory, knownAs, below, above⟩
  cases below <;> cases above <;> simp [Addition.outers, Addition.dropAbsent, hingress]

@[simp] theorem inners_dropAbsent (a : Addition) :
    (a.dropAbsent adds).inners = a.inners.filter fun e => Present adds e := by
  rcases a with ⟨name, factory, knownAs, below, above⟩
  cases above <;> simp [Addition.inners, Addition.dropAbsent]

/-- Leaving out what maps to nothing changes nothing. -/
theorem filterMap_filter_of_none {α β : Type} {p : α → Bool} {f : α → Option β}
    (h : ∀ a, p a = false → f a = none) (l : List α) :
    (l.filter p).filterMap f = l.filterMap f := by
  rw [List.filterMap_filter]
  refine List.filterMap_congr fun a _ => ?_
  cases hp : p a with
  | true => rfl
  | false => exact (h a hp).symm

/-- A tween has the same placements between nodes without the entries that name nothing. -/
theorem filterMap_edges_dropAbsent {t : TweenOrder}
    (habsent : ∀ e, decide (Present adds e) = false → t.node? e = none) (a : Addition) :
    (a.dropAbsent adds).edges.filterMap t.presentEdge? = a.edges.filterMap t.presentEdge? := by
  rw [Addition.edges, Addition.edges, outers_dropAbsent, inners_dropAbsent, List.filterMap_append,
    List.filterMap_append, List.filterMap_map, List.filterMap_map, List.filterMap_map,
    List.filterMap_map]
  congr 1
  · refine filterMap_filter_of_none (fun e he => ?_) a.outers
    simp [presentEdge?, habsent e he]
  · refine filterMap_filter_of_none (fun e he => ?_) a.inners
    simp [presentEdge?, habsent e he]

/-- Entries that name nothing present change neither the order nor the failure. -/
theorem WellNamed.implicit_dropAbsent (hw : WellNamed adds) :
    (ofAdditions (adds.map (Addition.dropAbsent adds))).implicit =
      (ofAdditions adds).implicit := by
  have hframe := withoutEdges_dropAbsent adds adds
  refine implicit_congr hframe ?_
  have horder := congrArg Tweens.order hframe
  simp only [withoutEdges, TweenOrder.mk.injEq] at horder
  obtain ⟨hnames, haliasOf, -⟩ := horder
  have hpresent : (ofAdditions (adds.map (Addition.dropAbsent adds))).order.presentEdge? =
      (ofAdditions adds).order.presentEdge? := by
    funext e
    rw [presentEdge?, presentEdge?, node?, node?, node?, node?, nodes, nodes, hnames, haliasOf]
  have habsent : ∀ e, decide (Present adds e) = false →
      (ofAdditions adds).order.node? e = none := by
    intro e he
    rw [Option.eq_none_iff_forall_ne_some]
    intro n hn
    exact of_decide_eq_false he (hw.exists_means_iff.mp ⟨n, node?_ofAdditions.mp hn⟩)
  rw [presentEdges, presentEdges, edges_ofAdditions, edges_ofAdditions, hpresent,
    List.flatMap_map, List.filterMap_flatMap, List.filterMap_flatMap]
  simp only [filterMap_edges_dropAbsent habsent]

/-! ## The order as a whole -/

/-- **An order keeps to the placements.** An order that is returned lists every tween once, with
the factory that it was added with. A tween comes after every tween that it was placed under, and
before every tween that it was placed over; entries that name nothing present do not matter. -/
theorem implicit_sound (hw : WellNamed adds) {out : List (String × TweenFactory)}
    (h : (ofAdditions adds).implicit = .ok out) :
    out.Perm (adds.map fun a => (a.name, a.factory)) ∧
    (∀ a ∈ adds, ∀ u ∈ adds, ∀ entry ∈ a.below.getD [], u.GoesBy entry →
      [u.name, a.name].Sublist (out.map Prod.fst)) ∧
    (∀ a ∈ adds, ∀ o ∈ adds, ∀ entry ∈ a.above.getD [], o.GoesBy entry →
      [a.name, o.name].Sublist (out.map Prod.fst)) ∧
    (ofAdditions (adds.map (Addition.dropAbsent adds))).implicit = .ok out := by
  have hself : ∀ a ∈ adds, Means adds a.node a.node :=
    fun a ha => (hw.means_node_iff ha).mpr (.inr rfl)
  refine ⟨hw.implicit_perm h, ?_, ?_, hw.implicit_dropAbsent.trans h⟩
  · intro a ha u hu entry hentry hcalled
    exact hw.implicit_sublist h hu ha (.placedUnder ha (mem_outers_iff.mpr (.inl hentry))
      ((hw.means_node_iff hu).mpr hcalled) (hself a ha))
  · intro a ha o ho entry hentry hcalled
    exact hw.implicit_sublist h ha ho (.placedOver ha hentry (hself a ha)
      ((hw.means_node_iff ho).mpr hcalled))

/-- Six tweens placed by name, by alias, by lists of alternatives and nowhere at all. -/
def stack : List Addition :=
  [{ name := "browserid", factory := passing },
    { name := "pkg.auth", factory := passing, knownAs := some "auth",
      below := some ["gone", "browserid"] },
    { name := "dbt", factory := passing },
    { name := "exceptionview", factory := passing, above := some ["MAIN"] },
    { name := "retry", factory := passing, below := some ["exceptionview"],
      above := some ["missing", "txnmgr"] },
    { name := "txnmgr", factory := passing, below := some ["exceptionview", "auth"] }]

theorem stack_sound :
    WellNamed stack ∧ (ofAdditions stack).implicit = .ok [("dbt", passing), ("browserid", passing),
        ("pkg.auth", passing), ("exceptionview", passing), ("retry", passing),
        ("txnmgr", passing)] ∧
      ["retry", "txnmgr"].Sublist
        ["dbt", "browserid", "pkg.auth", "exceptionview", "retry", "txnmgr"] := by
  have hw : WellNamed stack := by decide
  have himplicit : (ofAdditions stack).implicit = .ok [("dbt", passing), ("browserid", passing),
      ("pkg.auth", passing), ("exceptionview", passing), ("retry", passing),
      ("txnmgr", passing)] := rfl
  refine ⟨hw, himplicit, ?_⟩
  exact (implicit_sound hw himplicit).2.2.1
    { name := "retry", factory := passing, below := some ["exceptionview"],
      above := some ["missing", "txnmgr"] } (by simp [stack])
    { name := "txnmgr", factory := passing, below := some ["exceptionview", "auth"] }
    (by simp [stack]) "txnmgr" (by simp) (.inl rfl)

end Tweens

end WebDispatch
