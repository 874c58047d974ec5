import WebDispatch.Proofs.Tween.Additions
import WebDispatch.Proofs.Tween.Residue

/-!
# The graph that additions describe

An addition places its tween by entries, each of which stands for a node, or for nothing where no
such tween is present. An entry for a node puts that node directly outside or inside the node of
the tween. The graph of an application's tweens has these edges and no others, and every tween
placed over or under others needs an edge on that side.

* `Edge` — the graph, told by the additions alone; `arc_iff_edge` — it is the one that is sorted;
* `Satisfied` — every placement has an edge;
* `implicit_cycle_iff` — a cycle is reported exactly when there is one, with all that it holds up.
-/

namespace WebDispatch

namespace Tweens

open Relation TweenOrder

/-! ## Entries and edges -/

/-- The entries that a tween is placed under: the ingress, if it is placed nowhere. -/
def Addition.outers (a : Addition) : List String :=
  if a.below.isNone && a.above.isNone then [ingress] else a.below.getD []

def Addition.inners (a : Addition) : List String := a.above.getD []

/-- Whether a tween is placed under others, the ingress included. -/
def Addition.isPlacedUnder (a : Addition) : Bool := a.below.isSome || a.above.isNone

/-- What an entry stands for: the node that it is, or else that of the tween added last under
this name. -/
inductive Means (adds : List Addition) : String → String → Prop where
  | node {n : String} : IsNode adds n → Means adds n n
  | name {a : Addition} : ¬ IsNode adds a.name → lastNamed adds a.name = some a →
      Means adds a.name a.node

/-- One node is directly outside another: by a placement whose two ends stand for them, or because
they are the two ends of the graph. -/
inductive Edge (adds : List Addition) : String → String → Prop where
  | ends : Edge adds ingress mainHandler
  | placedUnder {a : Addition} {entry outer inner : String} : a ∈ adds → entry ∈ a.outers →
      Means adds entry outer → Means adds a.node inner → Edge adds outer inner
  | placedOver {a : Addition} {entry outer inner : String} : a ∈ adds → entry ∈ a.inners →
      Means adds a.node outer → Means adds entry inner → Edge adds outer inner

/-- Every tween placed over others is outside of one, and every tween placed under others is
inside of one. -/
structure Satisfied (adds : List Addition) : Prop where
  placedOver : ∀ a ∈ adds, a.above.isSome → ∃ inner, Edge adds a.node inner
  placedUnder : ∀ a ∈ adds, a.isPlacedUnder → ∃ outer, Edge adds outer a.node

variable {adds : List Addition}

theorem edge_iff {x y : String} :
    Edge adds x y ↔ (x = ingress ∧ y = mainHandler) ∨
      (∃ a ∈ adds, ∃ u ∈ a.outers, Means adds u x ∧ Means adds a.node y) ∨
      ∃ a ∈ adds, ∃ o ∈ a.inners, Means adds a.node x ∧ Means adds o y := by
  constructor
  · intro h
    cases h with
    | ends => exact .inl ⟨rfl, rfl⟩
    | placedUnder ha hu houter hinner => exact .inr (.inl ⟨_, ha, _, hu, houter, hinner⟩)
    | placedOver ha ho houter hinner => exact .inr (.inr ⟨_, ha, _, ho, houter, hinner⟩)
  · rintro (⟨rfl, rfl⟩ | ⟨a, ha, u, hu, houter, hinner⟩ | ⟨a, ha, o, ho, houter, hinner⟩)
    · exact .ends
    · exact .placedUnder ha hu houter hinner
    · exact .placedOver ha ho houter hinner

/-! ## The graph of the additions -/

def Addition.edges (a : Addition) : List TweenEdge :=
  a.outers.map (fun u => ⟨u, a.node⟩) ++ a.inners.map fun o => ⟨a.node, o⟩

theorem mem_edges_iff {a : Addition} {e : TweenEdge} :
    e ∈ a.edges ↔ (e.outer ∈ a.outers ∧ e.inner = a.node) ∨
      (e.inner ∈ a.inners ∧ e.outer = a.node) := by
  rcases e with ⟨outer, inner⟩
  simp [Addition.edges, eq_comm]

@[simp] theorem edges_ofAdditions (adds : List Addition) :
    (ofAdditions adds).order.edges = adds.flatMap Addition.edges := by
  induction adds using List.reverseRecOn with
  | nil => rfl
  | append_singleton adds a ih =>
      rw [ofAdditions_snoc, List.flatMap_append, ← ih, List.flatMap_singleton, Addition.edges,
        ← List.append_assoc]
      rcases a with ⟨name, factory, knownAs, below, above⟩
      cases below <;> cases above <;> rfl

@[simp] theorem node?_ofAdditions {entry n : String} :
    (ofAdditions adds).order.node? entry = some n ↔ Means adds entry n := by
  have hpresent : ∀ {m}, (ofAdditions adds).order.nodes.contains m = true ↔ IsNode adds m :=
    List.contains_iff_mem.trans mem_nodes_ofAdditions
  by_cases hnode : IsNode adds entry
  · rw [node?, if_pos (hpresent.mpr hnode), Option.some.injEq]
    constructor
    · rintro rfl
      exact .node hnode
    · intro h
      cases h with
      | node => rfl
      | name hnot => exact absurd hnode hnot
  · rw [node?, if_neg (mt hpresent.mp hnode), Option.filter_eq_some_iff,
      aliasOfName_ofAdditions, Option.map_eq_some_iff]
    constructor
    · rintro ⟨⟨a, hlast, rfl⟩, -⟩
      obtain rfl := name_of_lastNamed hlast
      exact .name hnode hlast
    · intro h
      cases h with
      | node h => exact absurd h hnode
      | name hnot hlast =>
          exact ⟨⟨_, hlast, rfl⟩, hpresent.mpr (.inr (.inr ⟨_, hlast, rfl⟩))⟩

theorem means_of_presentEdge {e f : TweenEdge}
    (h : (ofAdditions adds).order.presentEdge? e = some f) :
    Means adds e.outer f.outer ∧ Means adds e.inner f.inner := by
  unfold presentEdge? at h
  split at h
  · next outer inner houter hinner =>
      cases Option.some.inj h
      exact ⟨node?_ofAdditions.mp houter, node?_ofAdditions.mp hinner⟩
  · cases h

/-- The placements that are sorted are the edges of the graph. -/
@[simp] theorem arc_iff_edge {x y : String} :
    Arc (ofAdditions adds).order.presentEdges x y ↔ Edge adds x y := by
  rw [Arc, presentEdges, List.mem_cons, List.mem_filterMap, edges_ofAdditions]
  constructor
  · rintro (h | ⟨e, he, hpresent⟩)
    · cases h
      exact .ends
    · obtain ⟨a, ha, hea⟩ := List.mem_flatMap.mp he
      obtain ⟨houter, hinner⟩ := means_of_presentEdge hpresent
      rcases mem_edges_iff.mp hea with ⟨hu, hn⟩ | ⟨ho, hn⟩
      · exact .placedUnder ha hu houter (hn ▸ hinner)
      · exact .placedOver ha ho (hn ▸ houter) hinner
  · intro h
    cases h with
    | ends => exact .inl rfl
    | @placedUnder a entry _ _ ha hu houter hinner =>
        refine .inr ⟨⟨entry, a.node⟩, List.mem_flatMap.mpr
          ⟨a, ha, mem_edges_iff.mpr (.inl ⟨hu, rfl⟩)⟩, ?_⟩
        simp only [presentEdge?, node?_ofAdditions.mpr houter, node?_ofAdditions.mpr hinner]
    | @placedOver a entry _ _ ha ho houter hinner =>
        refine .inr ⟨⟨a.node, entry⟩, List.mem_flatMap.mpr
          ⟨a, ha, mem_edges_iff.mpr (.inr ⟨ho, rfl⟩)⟩, ?_⟩
        simp only [presentEdge?, node?_ofAdditions.mpr houter, node?_ofAdditions.mpr hinner]

theorem arc_eq_edge (adds : List Addition) :
    Arc (ofAdditions adds).order.presentEdges = Edge adds :=
  funext₂ fun _ _ => propext arc_iff_edge

/-! ## Placements without an edge -/

/-- A list to which some of the additions add their node once. -/
theorem addedOnce_ofAdditions (list : Tweens → List String) {p : Addition → Bool}
    (hnil : list {} = [])
    (hadd : ∀ (t : Tweens) (a : Addition),
      list (t.add a.name a.factory a.knownAs a.below a.above) =
        if p a then addOnce (list t) a.node else list t)
    (adds : List Addition) :
    list (ofAdditions adds) = ((adds.filter p).map Addition.node).foldl addOnce [] := by
  induction adds using List.reverseRecOn with
  | nil => exact hnil
  | append_singleton adds a ih =>
      rw [ofAdditions_snoc, hadd, ih, List.filter_append]
      by_cases h : p a
      · simp [h]
      · simp [h]

@[simp] theorem placedOver_ofAdditions (adds : List Addition) :
    (ofAdditions adds).order.placedOver =
      ((adds.filter fun a => a.above.isSome).map Addition.node).foldl addOnce [] :=
  addedOnce_ofAdditions (fun t => t.order.placedOver) rfl (fun _ _ => rfl) adds

@[simp] theorem placedUnder_ofAdditions (adds : List Addition) :
    (ofAdditions adds).order.placedUnder =
      ((adds.filter Addition.isPlacedUnder).map Addition.node).foldl addOnce [] := by
  refine addedOnce_ofAdditions (fun t => t.order.placedUnder) rfl ?_ adds
  rintro t ⟨name, factory, knownAs, below, above⟩
  cases below <;> cases above <;> rfl

/-- Of the nodes added once, those with a property are those of an addition. -/
theorem mem_filter_addedOnce {p : Addition → Bool} {q : String → Bool} {n : String} :
    n ∈ (((adds.filter p).map Addition.node).foldl addOnce []).filter q ↔
      ∃ a ∈ adds, (p a ∧ q a.node) ∧ a.node = n := by
  simp only [List.mem_filter, mem_foldl_addOnce, List.not_mem_nil, false_or, List.mem_map]
  constructor
  · rintro ⟨⟨a, ⟨ha, hp⟩, rfl⟩, hq⟩
    exact ⟨a, ha, ⟨hp, hq⟩, rfl⟩
  · rintro ⟨a, ha, ⟨hp, hq⟩, rfl⟩
    exact ⟨⟨a, ⟨ha, hp⟩, rfl⟩, hq⟩

theorem mem_missingOver_iff {n : String} :
    n ∈ (ofAdditions adds).order.missingOver ↔
      ∃ a ∈ adds, (a.above.isSome ∧ ¬ ∃ inner, Edge adds a.node inner) ∧ a.node = n := by
  have hnone : ∀ n, (!(ofAdditions adds).order.presentEdges.any fun e => e.outer = n) = true ↔
      ¬ ∃ inner, Edge adds n inner := by
    intro n
    simp only [← arc_iff_edge, Arc, Bool.not_eq_true', List.any_eq_false, decide_eq_true_eq,
      not_exists]
    exact ⟨fun h inner he => h _ he rfl, fun h e he hn => h e.inner (hn ▸ he)⟩
  rw [missingOver, placedOver_ofAdditions, mem_filter_addedOnce]
  simp only [hnone]

theorem mem_missingUnder_iff {n : String} :
    n ∈ (ofAdditions adds).order.missingUnder ↔
      ∃ a ∈ adds, (a.isPlacedUnder ∧ ¬ ∃ outer, Edge adds outer a.node) ∧ a.node = n := by
  have hnone : ∀ n, (!(ofAdditions adds).order.presentEdges.any fun e => e.inner = n) = true ↔
      ¬ ∃ outer, Edge adds outer n := by
    intro n
    simp only [← arc_iff_edge, Arc, Bool.not_eq_true', List.any_eq_false, decide_eq_true_eq,
      not_exists]
    exact ⟨fun h outer he => h _ he rfl, fun h e he hn => h e.outer (hn ▸ he)⟩
  rw [missingUnder, placedUnder_ofAdditions, mem_filter_addedOnce]
  simp only [hnone]

theorem eq_nil_iff_of_mem_iff {p : Addition → Prop} {missing : List String}
    (h : ∀ n, n ∈ missing ↔ ∃ a ∈ adds, p a ∧ a.node = n) :
    missing = [] ↔ ∀ a ∈ adds, ¬ p a := by
  simp only [List.eq_nil_iff_forall_not_mem, h]
  constructor
  · intro hnone a ha hp
    exact hnone a.node ⟨a, ha, hp, rfl⟩
  · rintro hnone n ⟨a, ha, hp, -⟩
    exact hnone a ha hp

theorem satisfied_iff :
    Satisfied adds ↔
      (ofAdditions adds).order.missingOver = [] ∧ (ofAdditions adds).order.missingUnder = [] := by
  rw [eq_nil_iff_of_mem_iff fun n => mem_missingOver_iff,
    eq_nil_iff_of_mem_iff fun n => mem_missingUnder_iff]
  simp only [not_and, not_not]
  exact ⟨fun h => ⟨h.placedOver, h.placedUnder⟩, fun h => ⟨h.1, h.2⟩⟩

/-! ## Cycles -/

theorem implicit_error_iff {t : Tweens} {e : Error} :
    t.implicit = .error e ↔ t.order.resolve = .error e := by
  unfold implicit
  cases t.order.resolve with
  | ok names => simp [Except.map]
  | error e' => simp [Except.map]

/-- The nodes that cannot be ordered, each with what it stands directly outside of. -/
structure HeldUp (adds : List Addition) (m : OrderedMap String (List String)) : Prop where
  nodup_keys : m.keys.Nodup
  /-- They are the nodes on a cycle and those reached from one. -/
  mem_keys_iff : ∀ n, n ∈ m.keys ↔ Trapped (Edge adds) n
  mem_next_iff : ∀ n next, m.get? n = some next → ∀ k, k ∈ next ↔ Edge adds n k
  /-- What such a node stands outside of is held up as well. -/
  next_mem_keys : ∀ n next, m.get? n = some next → ∀ k ∈ next, k ∈ m.keys

def residue (t : TweenOrder) : OrderedMap String (List String) :=
  .ofList (t.sorted.2.keys.map fun n => (n, successors t.presentEdges n))

theorem nodup_keys_residue (t : TweenOrder) : (residue t).keys.Nodup :=
  OrderedMap.nodup_keys_ofList _

theorem toList_residue (t : TweenOrder) :
    (residue t).toList = t.sorted.2.keys.map fun n => (n, successors t.presentEdges n) := by
  refine OrderedMap.toList_ofList ?_
  simpa [Function.comp_def] using (List.nodup_append.mp t.nodup_sorted).2.1

theorem heldUp_residue (adds : List Addition) : HeldUp adds (residue (ofAdditions adds).order) := by
  have hkeys : ∀ n, n ∈ (residue (ofAdditions adds).order).keys ↔ Trapped (Edge adds) n := by
    intro n
    rw [OrderedMap.keys, toList_residue, ← arc_eq_edge, ← mem_left_iff]
    simp
  have hnext : ∀ n next, (residue (ofAdditions adds).order).get? n = some next →
      ∀ k, k ∈ next ↔ Edge adds n k := by
    intro n next hget k
    rw [OrderedMap.get?_eq_some_iff (nodup_keys_residue _), toList_residue] at hget
    obtain ⟨m, -, he⟩ := List.mem_map.mp hget
    cases he
    rw [mem_successors_iff, arc_iff_edge]
  refine ⟨nodup_keys_residue _, hkeys, hnext, ?_⟩
  -- a way that comes from a cycle goes on along the edge
  intro n next hget k hk
  have hn : n ∈ (residue (ofAdditions adds).order).keys :=
    OrderedMap.isSome_get?_iff.mp (hget ▸ rfl)
  obtain ⟨c, hcycle, hreach⟩ := (hkeys n).mp hn
  exact (hkeys k).mpr ⟨c, hcycle, hreach.tail ((hnext n next hget k).mp hk)⟩

/-- **Cycles are found, and nothing else is taken for one.** Where every placement has an edge, a
cycle is reported if and only if the graph has one. The report lists the nodes on cycles and those
reached from them, each with all that it stands directly outside of, which is listed as well. -/
theorem implicit_cycle_iff (adds : List Addition) :
    ((∃ m, (ofAdditions adds).implicit = .error (.cycle m)) ↔
      Satisfied adds ∧ ∃ n, TransGen (Edge adds) n n) ∧
    ∀ m, (ofAdditions adds).implicit = .error (.cycle m) → HeldUp adds m := by
  simp only [implicit_error_iff, resolve_cycle_iff]
  constructor
  · rw [satisfied_iff, ← arc_eq_edge, ← left_ne_nil_iff]
    constructor
    · rintro ⟨_, hover, hunder, hleft, -⟩
      exact ⟨⟨hover, hunder⟩, hleft⟩
    · rintro ⟨⟨hover, hunder⟩, hleft⟩
      exact ⟨_, hover, hunder, hleft, rfl⟩
  · rintro _ ⟨-, -, -, rfl⟩
    exact heldUp_residue adds

/-- A tween under and over another one, and a third inside of both. -/
def entangled : List Addition :=
  [{ name := "browserid", factory := passing },
    { name := "auth", factory := passing, below := some ["browserid"],
      above := some ["browserid"] },
    { name := "timing", factory := passing, below := some ["auth"] }]

theorem heldUp_entangled :
    (ofAdditions entangled).implicit = .error (.cycle ⟨[("browserid", ["auth"]),
        ("auth", ["browserid", "timing"]), ("timing", [])]⟩) ∧
      HeldUp entangled ⟨[("browserid", ["auth"]), ("auth", ["browserid", "timing"]),
        ("timing", [])]⟩ :=
  ⟨rfl, (implicit_cycle_iff entangled).2 _ rfl⟩

end Tweens

end WebDispatch
