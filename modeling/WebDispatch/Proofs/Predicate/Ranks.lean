import Mathlib.Algebra.Order.BigOperators.Group.List
import Mathlib.Data.List.Basic
import Mathlib.Data.Nat.BitIndices
import WebDispatch.Predicate.Options
import WebDispatch.Proofs.Effect

/-!
# The rank of compiled conditions

The rank is a quotient: what the weights of the categories leave of the highest rank is divided by
the number of predicates and one more. One predicate more makes a greater difference to it than all
weights together, as long as there are not too many predicates. Between sets of one size the weights
decide, but the quotient is rounded down, so that a small difference of weights may be lost.

* `count`, `categories`, `score` — how many predicates options come down to in each category, the
  categories that count, and their weights put together;
* `compile_ranked` — the rank of compiled options, told by these;
* `rank_lt_of_lt`, `rank_lt_iff_mod_lt` — the two comparisons of quotients;
* `more_predicates_rank_first`, `importance_ranks_first_iff` — which of two sets is tried first.
-/

namespace WebDispatch

namespace PredicateCategory

/-- The categories that count for the rank, the most important last. -/
def weighted : List PredicateCategory :=
  [xhr, requestMethod, pathInfo, requestParam, header, accept, containment, requestType, matchParam,
    custom]

def importance (c : PredicateCategory) : Nat := c.weight.log2

theorem weight_eq {c : PredicateCategory} (h : c ∈ weighted) : c.weight = 2 ^ c.importance := by
  revert c
  decide

theorem importance_pos {c : PredicateCategory} (h : c ∈ weighted) : 0 < c.importance := by
  revert c
  decide

theorem sortedLT_importance : (weighted.map importance).SortedLT := by
  rw [List.sortedLT_iff_pairwise]
  decide

end PredicateCategory

open PredicateCategory (weighted importance)

/-! ## Powers of two -/

/-- Distinct powers of two are put together without a carry. -/
theorem foldr_or_two_pow {ks : List Nat} (h : ks.Pairwise (· < ·)) :
    (ks.map fun k => 2 ^ k).foldr (· ||| ·) 0 = (ks.map fun k => 2 ^ k).sum := by
  induction ks with
  | nil => rfl
  | cons k ks ih =>
      obtain ⟨hk, hks⟩ := List.pairwise_cons.mp h
      have hdvd : 2 ^ (k + 1) ∣ (ks.map fun k => 2 ^ k).sum := by
        apply List.dvd_sum
        intro n hn
        obtain ⟨l, hl, rfl⟩ := List.mem_map.mp hn
        exact Nat.pow_dvd_pow 2 (hk l hl)
      obtain ⟨a, ha⟩ := hdvd
      have hlt : 2 ^ k < 2 ^ (k + 1) := Nat.pow_lt_pow_right (by decide) (Nat.lt_succ_self k)
      rw [List.map_cons, List.foldr_cons, List.sum_cons, ih hks, ha, Nat.or_comm,
        ← Nat.two_pow_add_eq_or_of_lt hlt, Nat.add_comm]

namespace PredicateOptions

variable {o p : PredicateOptions} {s t : PredicateSet}

def count (o : PredicateOptions) : PredicateCategory → Nat
  | .xhr => o.xhr.toNat
  | .requestMethod => o.requestMethod.isSome.toNat
  | .pathInfo => o.pathInfo.isSome.toNat
  | .requestParam => o.requestParam.isSome.toNat
  | .header => o.header.isSome.toNat
  | .accept => o.accept.isSome.toNat
  | .containment => o.containment.isSome.toNat
  | .requestType => o.requestType.isSome.toNat
  | .matchParam => o.matchParam.isSome.toNat
  | .custom => o.custom.length
  | .traverse => o.traverse.isSome.toNat

/-- The categories of options that count for the rank, the most important last. -/
def categories (o : PredicateOptions) : List PredicateCategory :=
  weighted.filter fun c => o.count c ≠ 0

/-- The weights of these categories put together. -/
def score (o : PredicateOptions) : Nat :=
  (o.categories.map PredicateCategory.weight).foldr (· ||| ·) 0

/-! ## What options come down to -/

/-- The group of a category, if there is one, holds so many predicates, and at least one. -/
def Fills (c : PredicateCategory) (n : Nat) (g : Option PredicateGroup) : Prop :=
  g = none ∧ n = 0 ∨
    ∃ group, g = some group ∧ group.category = c ∧ group.predicates.length = n ∧ n ≠ 0

section Groups

variable {α : Type} {c : PredicateCategory} {x : Option α} {g : Option PredicateGroup}

theorem fills_of_map {f : α → PredicateGroup}
    (hf : ∀ a, (f a).category = c ∧ (f a).predicates.length = 1)
    (h : Except.ok (x.map f) = (.ok g : Except Error _)) : Fills c x.isSome.toNat g := by
  obtain rfl := Except.ok.inj h
  cases x with
  | none => exact Or.inl ⟨rfl, rfl⟩
  | some a => exact Or.inr ⟨f a, rfl, (hf a).1, (hf a).2, Nat.one_ne_zero⟩

theorem fills_of_mapM {f : α → Except Error PredicateGroup}
    (hf : ∀ a group, f a = .ok group → group.category = c ∧ group.predicates.length = 1)
    (h : x.mapM f = .ok g) : Fills c x.isSome.toNat g := by
  rcases Result.mapM_option_ok h with ⟨rfl, rfl⟩ | ⟨a, group, rfl, hgroup, rfl⟩
  · exact Or.inl ⟨rfl, rfl⟩
  · obtain ⟨hcategory, hlength⟩ := hf a group hgroup
    exact Or.inr ⟨group, rfl, hcategory, hlength, Nat.one_ne_zero⟩

end Groups

def compilers :
    List (PredicateCategory × (PredicateOptions → Except Error (Option PredicateGroup))) :=
  [(.xhr, xhrGroup), (.requestMethod, methodGroup), (.pathInfo, pathGroup),
    (.requestParam, paramGroup), (.header, headerGroup), (.accept, acceptGroup),
    (.containment, containmentGroup), (.requestType, typeGroup), (.matchParam, matchGroup),
    (.custom, customGroup), (.traverse, traverseGroup)]

/-- The path to traverse comes last, and weighs nothing. -/
@[simp] theorem map_fst_compilers : compilers.map Prod.fst = weighted ++ [.traverse] := rfl

theorem compilers_fill (o : PredicateOptions) :
    ∀ e ∈ compilers, ∀ g, e.2 o = .ok g → Fills e.1 (o.count e.1) g := by
  simp only [compilers, List.forall_mem_cons]
  refine ⟨?xhr, ?methods, ?path, ?param, ?header, ?accept, ?containment, ?type, ?captured, ?custom,
    ?traverse, fun e he => absurd he List.not_mem_nil⟩
  case xhr =>
    intro g h
    obtain rfl := Except.ok.inj h
    simp only [count]
    cases o.xhr with
    | false => exact Or.inl ⟨rfl, rfl⟩
    | true => exact Or.inr ⟨_, rfl, rfl, rfl, Nat.one_ne_zero⟩
  case methods => exact fun g h => fills_of_map (fun _ => ⟨rfl, rfl⟩) h
  case param => exact fun g h => fills_of_map (fun _ => ⟨rfl, rfl⟩) h
  case containment => exact fun g h => fills_of_map (fun _ => ⟨rfl, rfl⟩) h
  case type => exact fun g h => fills_of_map (fun _ => ⟨rfl, rfl⟩) h
  case path =>
    refine fun g h => fills_of_mapM (fun source group hgroup => ?_) h
    obtain ⟨e, -, rfl⟩ := Result.map_ok hgroup
    exact ⟨rfl, rfl⟩
  case header =>
    refine fun g h => fills_of_mapM (fun given group hgroup => ?_) h
    obtain ⟨value, -, rfl⟩ := Result.map_ok hgroup
    exact ⟨rfl, rfl⟩
  case accept =>
    refine fun g h => fills_of_mapM (fun offer group hgroup => ?_) h
    split at hgroup
    · cases hgroup
    · obtain rfl := Except.ok.inj hgroup
      exact ⟨rfl, rfl⟩
  case captured =>
    refine fun g h => fills_of_mapM (fun given group hgroup => ?_) h
    obtain ⟨pairs, -, rfl⟩ := Result.map_ok hgroup
    exact ⟨rfl, rfl⟩
  case custom =>
    intro g h
    obtain rfl := Except.ok.inj h
    simp only [count]
    cases o.custom with
    | nil => exact Or.inl ⟨rfl, rfl⟩
    | cons q custom => exact Or.inr ⟨_, rfl, rfl, List.length_map .., Nat.succ_ne_zero _⟩
  case traverse =>
    refine fun g h => fills_of_mapM (fun source group hgroup => ?_) h
    obtain ⟨pattern, -, rfl⟩ := Result.map_ok hgroup
    exact ⟨rfl, rfl⟩

/-- What is put together from the groups of some categories. -/
theorem sums_of_compiled
    {table : List (PredicateCategory × (PredicateOptions → Except Error (Option PredicateGroup)))}
    (hfill : ∀ e ∈ table, ∀ g, e.2 o = .ok g → Fills e.1 (o.count e.1) g)
    {found : List (Option PredicateGroup)}
    (h : (table.map Prod.snd).mapM (fun f => f o) = .ok found) :
    PredicateSet.score (found.filterMap id) =
        (((table.map Prod.fst).filter fun c => o.count c ≠ 0).map PredicateCategory.weight).sum ∧
      ((found.filterMap id).flatMap PredicateGroup.predicates).length =
        ((table.map Prod.fst).map o.count).sum := by
  induction table generalizing found with
  | nil =>
      obtain rfl := Except.ok.inj h
      exact ⟨rfl, rfl⟩
  | cons e table ih =>
      obtain ⟨g, found, hg, hfound, rfl⟩ := Result.mapM_cons_ok h
      obtain ⟨hscore, hlength⟩ :=
        ih (fun e he => hfill e (List.mem_cons_of_mem _ he)) hfound
      rcases hfill e List.mem_cons_self g hg with ⟨rfl, hnone⟩ | ⟨group, rfl, hcategory, hsize, hsome⟩
      · constructor
        · simpa [hnone] using hscore
        · simpa [hnone] using hlength
      · constructor
        · simpa [hsome, PredicateSet.score, hcategory] using hscore
        · simpa [hsize] using hlength

/-! ## Scores -/

theorem mem_categories {c : PredicateCategory} : c ∈ o.categories ↔ c ∈ weighted ∧ o.count c ≠ 0 := by
  simp [categories]

theorem map_weight_categories (o : PredicateOptions) :
    o.categories.map PredicateCategory.weight =
      (o.categories.map importance).map fun k => 2 ^ k := by
  rw [List.map_map]
  apply List.map_congr_left
  intro c hc
  exact PredicateCategory.weight_eq (mem_categories.mp hc).1

theorem sortedLT_categories (o : PredicateOptions) : (o.categories.map importance).SortedLT := by
  have hweighted := PredicateCategory.sortedLT_importance
  rw [List.sortedLT_iff_pairwise] at hweighted ⊢
  exact hweighted.sublist (List.filter_sublist.map importance)

/-- The weights are different powers of two, so that putting them together is adding them. -/
theorem score_eq_sum (o : PredicateOptions) :
    o.score = (o.categories.map PredicateCategory.weight).sum := by
  rw [score, map_weight_categories]
  exact foldr_or_two_pow (List.sortedLT_iff_pairwise.mp (sortedLT_categories o))

theorem score_le (o : PredicateOptions) : o.score ≤ 2046 := by
  rw [score_eq_sum]
  have hsub : (o.categories.map PredicateCategory.weight).Sublist
      (weighted.map PredicateCategory.weight) := List.filter_sublist.map _
  exact hsub.sum_le_sum fun n _ => Nat.zero_le n

theorem two_dvd_score (o : PredicateOptions) : 2 ∣ o.score := by
  rw [score_eq_sum, map_weight_categories]
  apply List.dvd_sum
  intro n hn
  obtain ⟨k, hk, rfl⟩ := List.mem_map.mp hn
  obtain ⟨c, hc, rfl⟩ := List.mem_map.mp hk
  have hpos := PredicateCategory.importance_pos (mem_categories.mp hc).1
  exact dvd_pow_self 2 (Nat.ne_of_gt hpos)

/-- The categories can be read off the score. -/
theorem categories_eq (o : PredicateOptions) :
    o.categories = weighted.filter fun c => importance c ∈ o.score.bitIndices := by
  have hbits : o.score.bitIndices = o.categories.map importance := by
    rw [score_eq_sum, map_weight_categories]
    exact Nat.bitIndices_sum_map_two_pow (sortedLT_categories o)
  have hinj : ∀ c ∈ weighted, ∀ d ∈ weighted, importance d = importance c → d = c := by decide
  rw [categories, hbits]
  apply List.filter_congr
  intro c hc
  rw [decide_eq_decide, List.mem_map]
  constructor
  · intro hcount
    exact ⟨c, mem_categories.mpr ⟨hc, hcount⟩, rfl⟩
  · rintro ⟨d, hd, heq⟩
    obtain ⟨hweighted, hcount⟩ := mem_categories.mp hd
    rwa [← hinj c hc d hweighted heq]

theorem score_eq_iff : o.score = p.score ↔ o.categories = p.categories := by
  constructor
  · intro h
    rw [categories_eq o, categories_eq p, h]
  · intro h
    rw [score, score, h]

/-! ## The rank of compiled options -/

theorem compile_ranked (h : o.compile = .ok s) :
    s.predicates.length = ((compilers.map Prod.fst).map o.count).sum ∧
      s.order = PredicateSet.rank o.score s.predicates.length := by
  obtain ⟨groups, hgroups, rfl⟩ := Result.map_ok h
  obtain ⟨found, hfound, rfl⟩ := Result.map_ok hgroups
  have hsums := sums_of_compiled (compilers_fill o) hfound
  have hscore : PredicateSet.score (found.filterMap id) = o.score := by
    rw [hsums.1, map_fst_compilers, List.filter_append, List.map_append, List.sum_append, score_eq_sum]
    by_cases htraverse : o.count .traverse = 0
    · simp [htraverse, categories]
    · simp [htraverse, categories, PredicateCategory.weight]
  refine ⟨hsums.2, ?_⟩
  show PredicateSet.rank (PredicateSet.score (found.filterMap id)) _ = _
  rw [hscore]
  rfl

theorem score_of_no_predicates (h : o.compile = .ok s) (hnone : s.predicates = []) :
    o.score = 0 := by
  have hlength := (compile_ranked h).1
  rw [hnone, List.length_nil, eq_comm, List.sum_eq_zero_iff] at hlength
  have hcategories : o.categories = [] := by
    rw [categories, List.filter_eq_nil_iff]
    intro c hc
    have hmem : c ∈ compilers.map Prod.fst := by
      rw [map_fst_compilers]
      exact List.mem_append_left [.traverse] hc
    simpa using hlength (o.count c) (List.mem_map_of_mem hmem)
  rw [score, hcategories]
  rfl

end PredicateOptions

/-! ## Quotients -/

namespace PredicateSet

variable {a b m n : Nat}

/-- One predicate more makes a greater difference than the weights. -/
theorem rank_lt_of_lt (h : n < m) (hfit : (n + 1 + b) * (n + 2) ≤ lastOrder) :
    rank a m < rank b n := by
  have hquotient : n + 1 + b ≤ lastOrder / (n + 2) :=
    (Nat.le_div_iff_mul_le (by omega)).mpr hfit
  have hupper : rank a m ≤ lastOrder / (n + 2) :=
    Nat.div_le_div (Nat.sub_le lastOrder a) (by omega) (by omega)
  have hlower : lastOrder / (n + 2) + 1 ≤ rank b n := by
    have hdiv := Nat.div_mul_le_self lastOrder (n + 2)
    rw [Nat.mul_add_one] at hdiv
    rw [rank, Nat.le_div_iff_mul_le (by omega), Nat.add_one_mul]
    omega
  exact Nat.lt_of_le_of_lt hupper hlower

theorem rank_le_of_le (h : b ≤ a) (n : Nat) : rank a n ≤ rank b n :=
  Nat.div_le_div_right (Nat.sub_le_sub_left h lastOrder)

/-- Rounded down, quotients differ exactly if the difference is greater than what is left over. -/
theorem rank_lt_iff_mod_lt (hba : b ≤ a) (ha : a ≤ lastOrder) :
    rank a n < rank b n ↔ (lastOrder - b) % (n + 1) < a - b := by
  have hpos : 0 < n + 1 := by omega
  have hdiv := Nat.div_add_mod (lastOrder - b) (n + 1)
  have hmod := Nat.mod_lt (lastOrder - b) hpos
  rw [rank, rank, Nat.div_lt_iff_lt_mul hpos, Nat.mul_comm]
  omega

end PredicateSet

/-! ## Which set is tried first -/

namespace PredicateOptions

variable {o p : PredicateOptions} {s t : PredicateSet}

/-- The set with more predicates is tried first, whatever their categories: up to some thirty
thousand predicates, one more makes a greater difference than all weights. -/
theorem more_predicates_rank_first (ho : o.compile = .ok s) (hp : p.compile = .ok t)
    (hmore : t.predicates.length < s.predicates.length) (hfew : t.predicates.length ≤ 31000) :
    s.order < t.order ∧ s.order < PredicateSet.none.order ∧
      (t.predicates = [] → t.order = PredicateSet.none.order) := by
  have hs := (compile_ranked ho).2
  have ht := (compile_ranked hp).2
  have hscore := score_le p
  refine ⟨?_, ?_, ?_⟩
  · rw [hs, ht]
    apply PredicateSet.rank_lt_of_lt hmore
    calc (t.predicates.length + 1 + p.score) * (t.predicates.length + 2)
        ≤ (31000 + 1 + 2046) * (31000 + 2) := Nat.mul_le_mul (by omega) (by omega)
      _ ≤ PredicateSet.lastOrder := by decide
  · have hnone : PredicateSet.none.order = PredicateSet.rank 0 0 := by decide
    rw [hs, hnone]
    exact PredicateSet.rank_lt_of_lt (Nat.zero_lt_of_lt hmore) (by decide)
  · intro hempty
    rw [ht, score_of_no_predicates hp hempty, hempty]
    decide

theorem more_predicates_rank_first_scripts :
    ∃ s t,
      compile { xhr := true, requestMethod := some ["POST"] } = .ok s ∧
      compile { custom := [{ holds := fun _ _ => true, holdsForRoute := fun _ _ => true }] } = .ok t ∧
      t.predicates.length < s.predicates.length ∧
      s.order < t.order := by
  refine ⟨_, _, rfl, rfl, by decide, ?_⟩
  exact (more_predicates_rank_first
    (o := { xhr := true, requestMethod := some ["POST"] })
    (p := { custom := [{ holds := fun _ _ => true, holdsForRoute := fun _ _ => true }] })
    rfl rfl (by decide) (by decide)).1

/-- Of sets of one size the one that scores higher is never tried later, and it is tried first
exactly if what the quotient leaves over is less than the difference of the scores. -/
theorem importance_ranks_first_iff (ho : o.compile = .ok s) (hp : p.compile = .ok t)
    (hsame : s.predicates.length = t.predicates.length) :
    (o.score = p.score ↔ o.categories = p.categories) ∧
      (p.score < o.score →
        s.order ≤ t.order ∧
        (s.order < t.order ↔
          (PredicateSet.lastOrder - p.score) % (t.predicates.length + 1) < o.score - p.score) ∧
        (t.predicates.length < o.score - p.score → s.order < t.order) ∧
        (t.predicates.length = 1 → s.order < t.order)) := by
  refine ⟨score_eq_iff, ?_⟩
  intro hless
  have hs := (compile_ranked ho).2
  have ht := (compile_ranked hp).2
  rw [hsame] at hs
  have hbound : o.score ≤ PredicateSet.lastOrder := Nat.le_trans (score_le o) (by decide)
  have hiff : s.order < t.order ↔
      (PredicateSet.lastOrder - p.score) % (t.predicates.length + 1) < o.score - p.score := by
    rw [hs, ht]
    exact PredicateSet.rank_lt_iff_mod_lt (Nat.le_of_lt hless) hbound
  refine ⟨?_, hiff, ?_, ?_⟩
  · rw [hs, ht]
    exact PredicateSet.rank_le_of_le (Nat.le_of_lt hless) _
  · intro hgreat
    have hpos : 0 < t.predicates.length + 1 := by omega
    have hmod := Nat.mod_lt (PredicateSet.lastOrder - p.score) hpos
    exact hiff.mpr (by omega)
  · intro hone
    -- scores and the highest rank are even, so that halving them leaves nothing over
    have heven : 2 ∣ PredicateSet.lastOrder - p.score :=
      Nat.dvd_sub (by decide) (two_dvd_score p)
    rw [hone] at hiff
    exact hiff.mpr (by omega)

theorem importance_ranks_first_iff_posted :
    ∃ s t,
      compile { requestMethod := some ["POST"], requestParam := some "page" } = .ok s ∧
      compile { xhr := true, requestParam := some "page" } = .ok t ∧
      s.predicates.length = t.predicates.length ∧
      s.order < t.order := by
  refine ⟨_, _, rfl, rfl, rfl, ?_⟩
  have hrank := (importance_ranks_first_iff
    (o := { requestMethod := some ["POST"], requestParam := some "page" })
    (p := { xhr := true, requestParam := some "page" }) rfl rfl rfl).2 (by decide)
  exact hrank.2.1.mpr (by decide)

/-- With a third predicate beside them, the method and the script condition rank alike: the
quotients are rounded down to the same number. -/
theorem importance_lost_with_three :
    ¬ ∀ (o p : PredicateOptions) (s t : PredicateSet), o.compile = .ok s → p.compile = .ok t →
      s.predicates.length = t.predicates.length → o.categories ≠ p.categories →
      p.score < o.score → s.order < t.order := by
  intro h
  have hless := h
    { requestMethod := some ["POST"], requestParam := some "page", header := some "X-Page" }
    { xhr := true, requestParam := some "page", header := some "X-Page" }
    _ _ rfl rfl rfl (by decide) (by decide)
  exact absurd hless (by decide)

end PredicateOptions

end WebDispatch
