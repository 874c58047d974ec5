import Mathlib.Data.List.Induction
import WebDispatch.Proofs.Tween.Sorting
import WebDispatch.Tween.Basic

/-!
# Tweens added one after the other

What the tables of an application's tweens hold after any sequence of additions is told by the
additions alone: by the last one under a name and by the last one at a node, where the node of an
addition is its alias, or its name when it has none.

A tween stands in the implicit order as often as there are nodes at which the last addition bears
its name. It is kept when that is one node; it is lost when another tween has taken its alias.
-/

namespace WebDispatch

namespace Tweens

/-- A tween with its placement, as it is added. -/
structure Addition where
  name : String
  factory : TweenFactory
  knownAs : Option String := none
  below : Option (List String) := none
  above : Option (List String) := none

/-- The node of the graph at which an addition places its tween. -/
def Addition.node (a : Addition) : String := a.knownAs.getD a.name

def ofAdditions (adds : List Addition) : Tweens :=
  adds.foldl (fun t a => t.add a.name a.factory a.knownAs a.below a.above) {}

def lastNamed (adds : List Addition) (name : String) : Option Addition :=
  adds.reverse.find? fun a => a.name = name

def lastAt (adds : List Addition) (node : String) : Option Addition :=
  adds.reverse.find? fun a => a.node = node

variable {adds : List Addition}

/-! ## The tables after the additions -/

@[simp] theorem ofAdditions_snoc (adds : List Addition) (a : Addition) :
    ofAdditions (adds ++ [a]) =
      (ofAdditions adds).add a.name a.factory a.knownAs a.below a.above := by
  rw [ofAdditions, List.foldl_append]
  rfl

theorem name_of_lastNamed {name : String} {a : Addition} (h : lastNamed adds name = some a) :
    a.name = name := by
  simpa using List.find?_some h

theorem mem_of_lastNamed {name : String} {a : Addition} (h : lastNamed adds name = some a) :
    a ∈ adds :=
  List.mem_reverse.mp (List.mem_of_find?_eq_some h)

theorem exists_lastNamed {a : Addition} (h : a ∈ adds) :
    ∃ last, lastNamed adds a.name = some last := by
  rw [← Option.isSome_iff_exists, lastNamed, List.find?_isSome]
  exact ⟨a, List.mem_reverse.mpr h, by simp⟩

@[simp] theorem names_ofAdditions (adds : List Addition) :
    (ofAdditions adds).order.names = adds.map (·.name) := by
  induction adds using List.reverseRecOn with
  | nil => rfl
  | append_singleton adds a ih =>
      rw [ofAdditions_snoc, List.map_append, ← ih]
      rfl

/-- A table to which every addition writes one entry holds what the last addition with a key
wrote. -/
theorem get?_ofAdditions {α : Type} (table : Tweens → OrderedMap String α)
    {key : Addition → String} {value : Addition → α} (hnil : table {} = {})
    (hadd : ∀ (t : Tweens) (a : Addition),
      table (t.add a.name a.factory a.knownAs a.below a.above) = (table t).insert (key a) (value a))
    (adds : List Addition) (k : String) :
    (table (ofAdditions adds)).get? k = (adds.reverse.find? fun a => key a = k).map value := by
  induction adds using List.reverseRecOn with
  | nil =>
      rw [ofAdditions, List.foldl_nil, hnil]
      rfl
  | append_singleton adds a ih =>
      by_cases h : key a = k <;> simp [hadd, ih, h]

@[simp] theorem aliasOfName_ofAdditions (adds : List Addition) (name : String) :
    (ofAdditions adds).order.aliasOfName.get? name = (lastNamed adds name).map Addition.node :=
  get?_ofAdditions (fun t => t.order.aliasOfName) rfl (fun _ _ => rfl) adds name

@[simp] theorem nameOfAlias_ofAdditions (adds : List Addition) (node : String) :
    (ofAdditions adds).order.nameOfAlias.get? node = (lastAt adds node).map (·.name) :=
  get?_ofAdditions (fun t => t.order.nameOfAlias) rfl (fun _ _ => rfl) adds node

@[simp] theorem factories_ofAdditions (adds : List Addition) (name : String) :
    (ofAdditions adds).factories.get? name = (lastNamed adds name).map (·.factory) :=
  get?_ofAdditions (fun t => t.factories) rfl (fun _ _ => rfl) adds name

/-! ## The nodes and the tweens at them -/

/-- The two ends, and the node of the last addition under each name. -/
def IsNode (adds : List Addition) (node : String) : Prop :=
  node = TweenOrder.ingress ∨ node = TweenOrder.mainHandler ∨
    ∃ a, lastNamed adds a.name = some a ∧ a.node = node

/-- The name of the tween that a node stands for. -/
def standsFor (adds : List Addition) (node : String) : String :=
  ((lastAt adds node).map (·.name)).getD node

@[simp] theorem mem_nodes_ofAdditions {node : String} :
    node ∈ (ofAdditions adds).order.nodes ↔ IsNode adds node := by
  rw [TweenOrder.mem_nodes_iff, IsNode, names_ofAdditions]
  refine or_congr_right (or_congr_right ?_)
  constructor
  · rintro ⟨name, -, h⟩
    rw [aliasOfName_ofAdditions, Option.map_eq_some_iff] at h
    obtain ⟨a, hlast, hnode⟩ := h
    exact ⟨a, by rwa [name_of_lastNamed hlast], hnode⟩
  · rintro ⟨a, hlast, hnode⟩
    refine ⟨a.name, List.mem_map.mpr ⟨a, mem_of_lastNamed hlast, rfl⟩, ?_⟩
    rw [aliasOfName_ofAdditions, hlast, Option.map_some, hnode]

@[simp] theorem nameAt_ofAdditions (adds : List Addition) (node : String) :
    (ofAdditions adds).order.nameAt node = standsFor adds node := by
  rw [TweenOrder.nameAt, nameOfAlias_ofAdditions, standsFor]

/-! ## How often a tween stands in the order -/

/-- Looking up names keeps one entry for each time a stored name is listed. -/
theorem filter_lookup {α : Type} {m : OrderedMap String α} {name : String} {v : α}
    (h : m.get? name = some v) (names : List String) :
    (names.filterMap fun n => (m.get? n).map fun f => (n, f)).filter (fun e => e.1 = name) =
      List.replicate (names.count name) (name, v) := by
  induction names with
  | nil => rfl
  | cons n rest ih =>
      by_cases hn : n = name
      · subst hn
        rw [List.count_cons_self, List.replicate_succ, ← ih]
        simp [h]
      · rw [List.count_cons_of_ne hn, ← ih]
        cases hg : m.get? n with
        | none => simp [hg]
        | some f => simp [hg, hn]

theorem countP_eq_one_iff {l : List String} (h : l.Nodup) (p : String → Bool) :
    l.countP p = 1 ↔ ∃! v, v ∈ l ∧ p v = true := by
  simp only [← List.mem_filter, List.countP_eq_length_filter, List.length_eq_one_iff]
  constructor
  · rintro ⟨v, hv⟩
    refine ⟨v, ?_, ?_⟩
    · simp only [hv, List.mem_singleton]
    · intro w hw
      simpa only [hv, List.mem_singleton] using hw
  · rintro ⟨v, hv, honly⟩
    refine ⟨v, List.perm_singleton.mp ?_⟩
    refine (List.perm_ext_iff_of_nodup (h.filter p) (List.nodup_singleton v)).mpr ?_
    intro w
    rw [List.mem_singleton]
    constructor
    · exact honly w
    · rintro rfl
      exact hv

theorem implicit_ok {t : Tweens} {out : List (String × TweenFactory)} (h : t.implicit = .ok out) :
    ∃ names, t.order.resolve = .ok names ∧
      out = names.filterMap fun n => (t.factories.get? n).map fun f => (n, f) := by
  unfold implicit at h
  cases hr : t.order.resolve with
  | error e =>
      rw [hr] at h
      cases h
  | ok names =>
      rw [hr] at h
      exact ⟨names, rfl, (Except.ok.inj h).symm⟩

/-- An added tween stands in the order once for each node that stands for it, with the factory
that was added last under its name. -/
theorem filter_implicit {out : List (String × TweenFactory)}
    (h : (ofAdditions adds).implicit = .ok out) {last : Addition} {name : String}
    (hlast : lastNamed adds name = some last) :
    out.filter (fun e => e.1 = name) =
      List.replicate ((ofAdditions adds).order.nodes.countP fun v => standsFor adds v = name)
        (name, last.factory) := by
  obtain ⟨names, hnames, rfl⟩ := implicit_ok h
  obtain ⟨hperm, rfl⟩ := TweenOrder.resolve_ok hnames
  have hfactory : (ofAdditions adds).factories.get? name = some last.factory := by simp [hlast]
  have hname : (ofAdditions adds).order.names.contains name = true := by
    rw [names_ofAdditions, List.contains_iff_mem]
    exact List.mem_map.mpr ⟨last, mem_of_lastNamed hlast, name_of_lastNamed hlast⟩
  -- the order lists each node once, so counting names in it counts the nodes that bear the name
  rw [filter_lookup hfactory, List.count_filter hname, List.count, List.countP_map,
    hperm.countP_eq]
  congr 2
  funext v
  simp [beq_eq_decide]

/-- A tween is kept when it stands in the order once, with the factory added last under its
name. -/
def Kept (adds : List Addition) (out : List (String × TweenFactory)) (name : String) : Prop :=
  ∃ last, lastNamed adds name = some last ∧
    out.filter (fun e => e.1 = name) = [(name, last.factory)]

/-- **A tween is kept when one node is its own.** In an implicit order that is returned, an added
tween stands exactly once, with the factory added last under its name, if and only if exactly one
node of the graph stands for it. -/
theorem kept_iff_existsUnique_node {out : List (String × TweenFactory)}
    (h : (ofAdditions adds).implicit = .ok out) :
    ∀ a ∈ adds,
      Kept adds out a.name ↔ ∃! node, IsNode adds node ∧ standsFor adds node = a.name := by
  intro a ha
  obtain ⟨last, hlast⟩ := exists_lastNamed ha
  have honce := countP_eq_one_iff (ofAdditions adds).order.nodup_nodes
    fun v => decide (standsFor adds v = a.name)
  simp only [mem_nodes_ofAdditions, decide_eq_true_iff] at honce
  rw [← honce]
  constructor
  · rintro ⟨last', -, hout⟩
    rw [filter_implicit h hlast] at hout
    have hlength := congrArg List.length hout
    rwa [List.length_replicate] at hlength
  · intro hcount
    refine ⟨last, hlast, ?_⟩
    rw [filter_implicit h hlast, hcount]
    rfl

def passing : TweenFactory := fun _ inner => pure inner

def apart : List Addition :=
  [{ name := "a", factory := passing, knownAs := some "x" },
    { name := "b", factory := passing, knownAs := some "y" }]

theorem kept_apart :
    (ofAdditions apart).implicit = .ok [("b", passing), ("a", passing)] ∧
      Kept apart [("b", passing), ("a", passing)] "a" ∧
      ∃! node, IsNode apart node ∧ standsFor apart node = "a" := by
  have himplicit : (ofAdditions apart).implicit = .ok [("b", passing), ("a", passing)] := rfl
  have hkept : Kept apart [("b", passing), ("a", passing)] "a" := ⟨_, rfl, rfl⟩
  exact ⟨himplicit, hkept,
    (kept_iff_existsUnique_node himplicit _ List.mem_cons_self).mp hkept⟩

def sharing : List Addition :=
  [{ name := "a", factory := passing, knownAs := some "x" },
    { name := "b", factory := passing, knownAs := some "x" }]

/-- A tween can be lost: where two share an alias, the order names the later one only. -/
theorem lost_behind_shared_alias :
    ¬ ∀ adds out, (ofAdditions adds).implicit = .ok out → ∀ a ∈ adds, Kept adds out a.name := by
  intro hall
  have himplicit : (ofAdditions sharing).implicit = .ok [("b", passing)] := rfl
  obtain ⟨last, -, hout⟩ := hall sharing _ himplicit _ List.mem_cons_self
  exact absurd hout.symm (List.cons_ne_nil _ _)

end Tweens

end WebDispatch
