import Mathlib.Data.List.Nodup
import Mathlib.Data.List.Perm.Basic
import WebDispatch.Tween.Order

/-!
# Taking nodes out of the tween graph

The sort keeps, for every node still held, the number of its placements whose outer end is held
too, and keeps in the queue exactly the held nodes where that number is zero. While the inner
ends of one node's placements are being released, those not yet released are still counted:
`Balanced` states the counters with this list of pending releases.

* `Balanced` — the invariant; `balanced_release` — one release; `balanced_taken` — one node taken;
* `sortNodes_of_waiting`, `sortNodes_of_idle` — what the sort does while nodes wait, and then;
* `sortNodes_perm` — what is sorted and what is left is what was held;
* `resolve_ok_iff`, `resolve_configuration_iff`, `resolve_cycle_iff` — the three kinds of answers;
* `resolve_ok` — an order that is returned lists the tween at each node once.
-/

namespace WebDispatch

namespace TweenOrder

open OrderedMap

variable {edges : List TweenEdge} {s : Sorting} {n : String}

/-! ## The invariant -/

def arcsFrom (edges : List TweenEdge) (outers : List String) (n : String) : Nat :=
  edges.countP fun e => decide (e.inner = n) && outers.contains e.outer

/-- The counters and the queue fit the nodes that are held, up to the releases still to come. -/
structure Balanced (edges : List TweenEdge) (s : Sorting) (pending : List String) : Prop where
  nodup_held : s.held.keys.Nodup
  count : ∀ n k, s.held.get? n = some k → k = arcsFrom edges s.held.keys n + pending.count n
  nodup_waiting : s.waiting.Nodup
  waiting_iff : ∀ n, n ∈ s.waiting ↔ s.held.get? n = some 0

theorem Balanced.held_of_waiting (h : Balanced edges s []) (hn : n ∈ s.waiting) :
    n ∈ s.held.keys := by
  rw [← isSome_get?_iff, (h.waiting_iff n).mp hn]
  rfl

/-! ## One release -/

@[simp] theorem keys_release (s : Sorting) (n : String) :
    (release s n).held.keys = s.held.keys := by
  unfold release
  cases hk : s.held.get? n with
  | none => rfl
  | some k =>
      have hmem : n ∈ s.held.keys := isSome_get?_iff.mp (by rw [hk]; rfl)
      exact (keys_insert s.held n (k - 1)).trans (if_pos hmem)

theorem balanced_release {pending : List String} (h : Balanced edges s (n :: pending)) :
    Balanced edges (release s n) pending := by
  have hkeys : (release s n).held.keys = s.held.keys := keys_release s n
  cases hk : s.held.get? n with
  | none =>
      have hs : release s n = s := by rw [release, hk]
      rw [hs]
      refine ⟨h.nodup_held, ?_, h.nodup_waiting, h.waiting_iff⟩
      intro m k hm
      have hne : n ≠ m := by
        rintro rfl
        rw [hk] at hm
        exact absurd hm.symm (Option.some_ne_none k)
      have hcount := h.count m k hm
      rwa [List.count_cons_of_ne hne] at hcount
  | some k =>
      have hs : release s n = ⟨s.held.insert n (k - 1),
          if k - 1 = 0 then n :: s.waiting else s.waiting⟩ := by rw [release, hk]
      -- the release that is being made is itself still counted
      have hcount := h.count n k hk
      rw [List.count_cons_self] at hcount
      have hwait : n ∉ s.waiting := by
        intro hn
        have hzero := (h.waiting_iff n).mp hn
        rw [hk] at hzero
        have := Option.some.inj hzero
        omega
      refine ⟨hkeys ▸ h.nodup_held, ?_, ?_, ?_⟩
      · intro m j hm
        rw [hkeys]
        rw [hs] at hm
        simp only [get?_insert] at hm
        by_cases hnm : n = m
        · subst hnm
          rw [if_pos rfl] at hm
          have := Option.some.inj hm
          omega
        · rw [if_neg hnm] at hm
          have hcount := h.count m j hm
          rwa [List.count_cons_of_ne hnm] at hcount
      · rw [hs]
        by_cases hzero : k - 1 = 0
        · simp only [if_pos hzero]
          exact List.nodup_cons.mpr ⟨hwait, h.nodup_waiting⟩
        · simp only [if_neg hzero]
          exact h.nodup_waiting
      · intro m
        rw [hs]
        simp only [get?_insert]
        by_cases hnm : n = m
        · subst hnm
          rw [if_pos rfl]
          by_cases hzero : k - 1 = 0
          · simp [hzero]
          · simp [hzero, hwait]
        · have hmn : m ≠ n := fun he => hnm he.symm
          rw [if_neg hnm, ← h.waiting_iff m]
          by_cases hzero : k - 1 = 0
          · simp [hzero, hmn]
          · simp [hzero]

/-- Releasing all that is pending leaves counters that fit the held nodes alone. -/
theorem balanced_releaseAll (pending : List String) (h : Balanced edges s pending) :
    Balanced edges (pending.foldl release s) [] ∧
      (pending.foldl release s).held.keys = s.held.keys := by
  induction pending generalizing s with
  | nil => exact ⟨h, rfl⟩
  | cons n rest ih =>
      obtain ⟨hb, hkeys⟩ := ih (balanced_release h)
      exact ⟨hb, hkeys.trans (keys_release s n)⟩

/-! ## One node taken -/

theorem arcsFrom_cons (e : TweenEdge) (rest : List TweenEdge) (outers : List String)
    (m : String) : arcsFrom (e :: rest) outers m =
      arcsFrom rest outers m + if e.inner = m ∧ e.outer ∈ outers then 1 else 0 := by
  simp [arcsFrom, List.countP_cons]

theorem count_successors_cons (e : TweenEdge) (rest : List TweenEdge) (n m : String) :
    (successors (e :: rest) n).count m =
      (successors rest n).count m + if e.inner = m ∧ e.outer = n then 1 else 0 := by
  unfold successors
  by_cases ho : e.outer = n
  · simp [ho, List.count_cons]
  · simp [ho]

/-- The placements inside held nodes split at the node that is taken. -/
theorem arcsFrom_take {outers : List String} (hn : n ∈ outers) (m : String) :
    arcsFrom edges outers m =
      arcsFrom edges (outers.filter fun k => !decide (k = n)) m + (successors edges n).count m := by
  induction edges with
  | nil => rfl
  | cons e rest ih =>
      rw [arcsFrom_cons, arcsFrom_cons, count_successors_cons, ih]
      by_cases ho : e.outer = n
      · simp [ho, hn]
        omega
      · simp [ho]
        omega

theorem balanced_take {rest : List String} (h : Balanced edges s [])
    (hs : s.waiting = n :: rest) :
    Balanced edges ⟨s.held.erase n, rest⟩ (successors edges n) := by
  have hn : n ∈ s.held.keys := h.held_of_waiting (hs ▸ List.mem_cons_self)
  have hnodup := h.nodup_waiting
  rw [hs, List.nodup_cons] at hnodup
  refine ⟨nodup_keys_erase h.nodup_held n, ?_, hnodup.2, ?_⟩
  · intro m k hm
    simp only [get?_erase] at hm
    by_cases hnm : n = m
    · rw [if_pos hnm] at hm
      exact absurd hm.symm (Option.some_ne_none k)
    · rw [if_neg hnm] at hm
      have hcount := h.count m k hm
      rw [List.count_nil, Nat.add_zero, arcsFrom_take hn m] at hcount
      rwa [keys_erase]
  · intro m
    have hwait := h.waiting_iff m
    rw [hs, List.mem_cons] at hwait
    simp only [get?_erase]
    by_cases hnm : n = m
    · subst hnm
      simp [hnodup.1]
    · have hmn : m ≠ n := fun he => hnm he.symm
      rw [if_neg hnm, ← hwait]
      simp [hmn]

/-! ## The run -/

/-- The graph once a node that waits is taken and all that it held back is released. -/
def taken (edges : List TweenEdge) (s : Sorting) (n : String) (rest : List String) : Sorting :=
  (successors edges n).foldl release ⟨s.held.erase n, rest⟩

section Taken

variable {rest : List String} (h : Balanced edges s []) (hs : s.waiting = n :: rest)
include h hs

theorem balanced_taken : Balanced edges (taken edges s n rest) [] :=
  (balanced_releaseAll _ (balanced_take h hs)).1

theorem keys_taken : (taken edges s n rest).held.keys = s.held.keys.erase n := by
  rw [taken, (balanced_releaseAll _ (balanced_take h hs)).2, keys_erase,
    List.Nodup.erase_eq_filter h.nodup_held n]
  exact List.filter_congr fun k _ => by simp [bne, beq_eq_decide]

/-- A run takes the first node that waits, and goes on with what is left. -/
theorem sortNodes_of_waiting (fuel : Nat) :
    sortNodes edges (fuel + 1) s =
      (n :: (sortNodes edges fuel (taken edges s n rest)).1,
        (sortNodes edges fuel (taken edges s n rest)).2) := by
  have hn : n ∈ s.held.keys := h.held_of_waiting (hs ▸ List.mem_cons_self)
  rw [sortNodes, hs]
  simp only [mem_keys_iff_contains.mp hn, if_true]
  rfl

end Taken

theorem sortNodes_of_idle (hs : s.waiting = []) (fuel : Nat) :
    sortNodes edges fuel s = ([], s.held) := by
  cases fuel with
  | zero => rfl
  | succ fuel => rw [sortNodes, hs]

/-- **Nothing is lost.** What the sort takes out and what it leaves is what was held. -/
theorem sortNodes_perm (fuel : Nat) (h : Balanced edges s []) :
    ((sortNodes edges fuel s).1 ++ (sortNodes edges fuel s).2.keys).Perm s.held.keys := by
  induction fuel generalizing s with
  | zero => exact List.Perm.refl _
  | succ fuel ih =>
      cases hs : s.waiting with
      | nil =>
          rw [sortNodes_of_idle hs]
          exact List.Perm.refl _
      | cons n rest =>
          have hn : n ∈ s.held.keys := h.held_of_waiting (hs ▸ List.mem_cons_self)
          -- what the rest of the run puts in order is held without the node taken here
          have hrest := ih (balanced_taken h hs)
          rw [keys_taken h hs] at hrest
          rw [sortNodes_of_waiting h hs]
          exact (hrest.cons n).trans (List.perm_cons_erase hn).symm

/-! ## The graph of an order of tweens -/

@[simp] theorem mem_foldl_addOnce (added : List String) (present : List String) (n : String) :
    n ∈ added.foldl addOnce present ↔ n ∈ present ∨ n ∈ added := by
  induction added generalizing present with
  | nil => simp
  | cons a rest ih =>
      rw [List.foldl_cons, ih, List.mem_cons, ← or_assoc]
      refine or_congr_left ?_
      unfold addOnce
      split
      · next hmem =>
          have hmem : a ∈ present := by simpa using hmem
          constructor
          · exact Or.inl
          · rintro (hn | rfl)
            · exact hn
            · exact hmem
      · rw [List.mem_append, List.mem_singleton]

theorem nodup_foldl_addOnce (added : List String) {present : List String} (h : present.Nodup) :
    (added.foldl addOnce present).Nodup := by
  induction added generalizing present with
  | nil => exact h
  | cons a rest ih =>
      refine ih ?_
      unfold addOnce
      split
      · exact h
      · next hmem =>
          have hmem : a ∉ present := by simpa using hmem
          rw [List.nodup_append]
          refine ⟨h, List.nodup_singleton a, ?_⟩
          intro b hb c hc
          rw [List.mem_singleton.mp hc]
          rintro rfl
          exact hmem hb

theorem nodup_nodes (t : TweenOrder) : t.nodes.Nodup :=
  nodup_foldl_addOnce _ (by decide)

/-- The nodes are the two ends and the aliases of the names that were added. -/
theorem mem_nodes_iff {t : TweenOrder} :
    n ∈ t.nodes ↔ n = ingress ∨ n = mainHandler ∨
      ∃ name ∈ t.names, t.aliasOfName.get? name = some n := by
  rw [nodes, mem_foldl_addOnce, List.mem_filterMap, List.mem_pair, or_assoc]

theorem mem_nodes_of_node? {t : TweenOrder} {m : String} (h : t.node? m = some n) :
    n ∈ t.nodes := by
  unfold node? at h
  split at h
  · next hm =>
      rw [← Option.some.inj h]
      simpa using hm
  · obtain ⟨-, hn⟩ := Option.filter_eq_some_iff.mp h
    simpa using hn

theorem mem_nodes_of_presentEdge {t : TweenOrder} {e : TweenEdge} (h : e ∈ t.presentEdges) :
    e.outer ∈ t.nodes ∧ e.inner ∈ t.nodes := by
  rw [presentEdges, List.mem_cons, List.mem_filterMap] at h
  rcases h with rfl | ⟨d, -, hd⟩
  · exact ⟨mem_nodes_iff.mpr (.inl rfl), mem_nodes_iff.mpr (.inr (.inl rfl))⟩
  · unfold presentEdge? at hd
    split at hd
    · next a b ha hb =>
        rw [← Option.some.inj hd]
        exact ⟨mem_nodes_of_node? ha, mem_nodes_of_node? hb⟩
    · exact absurd hd.symm (Option.some_ne_none e)

theorem arcs_eq_arcsFrom {outers : List String} (h : ∀ e ∈ edges, e.outer ∈ outers) (m : String) :
    arcs edges m = arcsFrom edges outers m := by
  rw [arcs, arcsFrom, ← List.countP_eq_length_filter]
  refine List.countP_congr ?_
  intro e he
  simp [h e he]

def startOf (t : TweenOrder) : Sorting :=
  ⟨.ofList (t.nodes.map fun n => (n, arcs t.presentEdges n)),
    t.nodes.filter fun n => arcs t.presentEdges n = 0⟩

@[simp] theorem keys_startOf (t : TweenOrder) : t.startOf.held.keys = t.nodes := by
  rw [startOf, keys, toList_ofList (by simpa [Function.comp_def] using t.nodup_nodes)]
  simp [Function.comp_def]

theorem get?_startOf {t : TweenOrder} {k : Nat} :
    t.startOf.held.get? n = some k ↔ n ∈ t.nodes ∧ k = arcs t.presentEdges n := by
  rw [get?_eq_some_iff (t.keys_startOf ▸ t.nodup_nodes), startOf,
    toList_ofList (by simpa [Function.comp_def] using t.nodup_nodes)]
  constructor
  · intro h
    obtain ⟨m, hm, he⟩ := List.mem_map.mp h
    rw [Prod.mk.injEq] at he
    exact ⟨he.1 ▸ hm, by rw [← he.2, he.1]⟩
  · rintro ⟨hn, rfl⟩
    exact List.mem_map.mpr ⟨n, hn, rfl⟩

theorem balanced_startOf (t : TweenOrder) : Balanced t.presentEdges t.startOf [] := by
  refine ⟨t.keys_startOf ▸ t.nodup_nodes, ?_, t.nodup_nodes.filter _, ?_⟩
  · intro m k hm
    obtain ⟨-, rfl⟩ := get?_startOf.mp hm
    rw [t.keys_startOf, List.count_nil, Nat.add_zero]
    exact arcs_eq_arcsFrom (fun e he => (mem_nodes_of_presentEdge he).1) m
  · intro m
    rw [get?_startOf, startOf, List.mem_filter, decide_eq_true_iff, eq_comm (a := 0)]

/-! ## The answer -/

/-- An order is returned when every placement is satisfied and the sort leaves nothing. -/
theorem resolve_ok_iff {t : TweenOrder} {names : List String} :
    t.resolve = .ok names ↔
      t.missingOver = [] ∧ t.missingUnder = [] ∧ t.sorted.2.toList = [] ∧
        names = (t.sorted.1.map t.nameAt).filter t.names.contains := by
  rw [resolve]
  by_cases hover : t.missingOver = []
  · by_cases hunder : t.missingUnder = []
    · by_cases hleft : t.sorted.2.toList = []
      · simpa [hover, hunder, hleft] using eq_comm
      · simp [hover, hunder, hleft]
    · simp [hover, hunder, unplaced]
  · simp [hover, unplaced]

/-- Tweens whose placement over others is not satisfied are reported before those whose placement
under others is not. -/
theorem resolve_configuration_iff {t : TweenOrder} {text : String} :
    t.resolve = .error (.configuration text) ↔
      (t.missingOver ≠ [] ∧ unplaced "over" t.missingOver = .configuration text) ∨
        (t.missingOver = [] ∧ t.missingUnder ≠ [] ∧
          unplaced "under" t.missingUnder = .configuration text) := by
  rw [resolve]
  by_cases hover : t.missingOver = []
  · by_cases hunder : t.missingUnder = []
    · by_cases hleft : t.sorted.2.toList = []
      · simp [hover, hunder, hleft]
      · simp [hover, hunder, hleft]
    · simp [hover, hunder]
  · simp [hover]

/-- A cycle is reported when every placement is satisfied and the sort leaves something. -/
theorem resolve_cycle_iff {t : TweenOrder} {m : OrderedMap String (List String)} :
    t.resolve = .error (.cycle m) ↔
      t.missingOver = [] ∧ t.missingUnder = [] ∧ t.sorted.2.toList ≠ [] ∧
        m = .ofList (t.sorted.2.keys.map fun n => (n, successors t.presentEdges n)) := by
  rw [resolve]
  by_cases hover : t.missingOver = []
  · by_cases hunder : t.missingUnder = []
    · by_cases hleft : t.sorted.2.toList = []
      · simp [hover, hunder, hleft]
      · simpa [hover, hunder, hleft] using eq_comm
    · simp [hover, hunder, unplaced]
  · simp [hover, unplaced]

theorem sorted_perm (t : TweenOrder) : (t.sorted.1 ++ t.sorted.2.keys).Perm t.nodes := by
  rw [← t.keys_startOf]
  exact sortNodes_perm t.nodes.length t.balanced_startOf

/-- **Every node has its place.** An order that is returned lists the tweens at the nodes, each
node once. -/
theorem resolve_ok {t : TweenOrder} {names : List String} (h : t.resolve = .ok names) :
    t.sorted.1.Perm t.nodes ∧ names = (t.sorted.1.map t.nameAt).filter t.names.contains := by
  obtain ⟨-, -, hleft, hnames⟩ := resolve_ok_iff.mp h
  have hperm := t.sorted_perm
  rw [keys, hleft, List.map_nil, List.append_nil] at hperm
  exact ⟨hperm, hnames⟩

end TweenOrder

end WebDispatch
