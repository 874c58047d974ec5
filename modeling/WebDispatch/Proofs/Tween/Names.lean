import Mathlib.Data.List.Sort
import WebDispatch.Proofs.Tween.Placement

/-!
# Tweens with names of their own

Where no two tweens go by one name and none goes by the name of an end of the graph, an entry of a
placement stands for the tween that goes by it, whatever was added in between. The order and the
failures of such tweens are told by what they were added with.

* `WellNamed` — the condition; `means_iff` — what an entry stands for then;
* `exists_inner_iff`, `exists_outer_iff` — when a tween has an edge on a side: its own entries are
  not all that counts;
* `implicit_configuration_iff` — which placements are reported, and how.
-/

namespace WebDispatch

namespace Tweens

open TweenOrder

def Addition.GoesBy (a : Addition) (entry : String) : Prop := entry = a.name ∨ entry = a.node

/-- No two tweens go by one name, and none goes by the name of an end of the graph. -/
structure WellNamed (adds : List Addition) : Prop where
  nodup_names : (adds.map (·.name)).Nodup
  nodup_nodes : (adds.map Addition.node).Nodup
  /-- An alias is the name of no other tween. -/
  apart : ∀ a ∈ adds, ∀ b ∈ adds, a.node = b.name → a.name = b.name
  ingress_not_goesBy : ∀ a ∈ adds, ¬ a.GoesBy ingress
  mainHandler_not_goesBy : ∀ a ∈ adds, ¬ a.GoesBy mainHandler

/-- An entry names something that is present: an end of the graph, or a tween. -/
def Present (adds : List Addition) (entry : String) : Prop :=
  entry = ingress ∨ entry = mainHandler ∨ ∃ a ∈ adds, a.GoesBy entry

instance (a : Addition) (entry : String) : Decidable (a.GoesBy entry) :=
  inferInstanceAs (Decidable (_ ∨ _))

instance (adds : List Addition) (entry : String) : Decidable (Present adds entry) :=
  inferInstanceAs (Decidable (_ ∨ _ ∨ ∃ a ∈ adds, _))

instance (adds : List Addition) : Decidable (WellNamed adds) :=
  decidable_of_iff
    ((adds.map (·.name)).Nodup ∧ (adds.map Addition.node).Nodup ∧
      (∀ a ∈ adds, ∀ b ∈ adds, a.node = b.name → a.name = b.name) ∧
      (∀ a ∈ adds, ¬ a.GoesBy ingress) ∧ ∀ a ∈ adds, ¬ a.GoesBy mainHandler)
    ⟨fun h => ⟨h.1, h.2.1, h.2.2.1, h.2.2.2.1, h.2.2.2.2⟩,
      fun h => ⟨h.1, h.2, h.3, h.4, h.5⟩⟩

variable {adds : List Addition}

/-! ## What entries stand for -/

/-- Where keys are distinct, the last addition with the key of an addition is that addition. -/
theorem last_of_nodup {key : Addition → String} (h : (adds.map key).Nodup) {a : Addition}
    (ha : a ∈ adds) : (adds.reverse.find? fun b => key b = key a) = some a := by
  have hsome : (adds.reverse.find? fun b => key b = key a).isSome := by
    rw [List.find?_isSome]
    exact ⟨a, List.mem_reverse.mpr ha, by simp⟩
  obtain ⟨last, hlast⟩ := Option.isSome_iff_exists.mp hsome
  have hmem : last ∈ adds := List.mem_reverse.mp (List.mem_of_find?_eq_some hlast)
  have hkey : key last = key a := by simpa using List.find?_some hlast
  rw [hlast, List.inj_on_of_nodup_map h hmem ha hkey]

section WellNamed

variable (hw : WellNamed adds)
include hw

/-- A tween is known by any name that it goes by. -/
theorem WellNamed.eq_of_goesBy {a b : Addition} (ha : a ∈ adds) (hb : b ∈ adds) {entry : String}
    (hea : a.GoesBy entry) (heb : b.GoesBy entry) : a = b := by
  have hname : a.name = b.name → a = b := List.inj_on_of_nodup_map hw.nodup_names ha hb
  rcases hea with rfl | rfl
  · rcases heb with h | h
    · exact hname h
    · exact hname (hw.apart b hb a ha h.symm).symm
  · rcases heb with h | h
    · exact hname (hw.apart a ha b hb h)
    · exact List.inj_on_of_nodup_map hw.nodup_nodes ha hb h

theorem WellNamed.lastNamed_name {a : Addition} (ha : a ∈ adds) :
    lastNamed adds a.name = some a :=
  last_of_nodup hw.nodup_names ha

theorem WellNamed.lastAt_node {a : Addition} (ha : a ∈ adds) : lastAt adds a.node = some a :=
  last_of_nodup hw.nodup_nodes ha

theorem WellNamed.isNode_iff {n : String} :
    IsNode adds n ↔ n = ingress ∨ n = mainHandler ∨ ∃ a ∈ adds, a.node = n := by
  refine or_congr_right (or_congr_right ⟨?_, ?_⟩)
  · rintro ⟨a, hlast, rfl⟩
    exact ⟨a, mem_of_lastNamed hlast, rfl⟩
  · rintro ⟨a, ha, rfl⟩
    exact ⟨a, hw.lastNamed_name ha, rfl⟩

/-- An entry stands for the end of the graph or the tween that goes by it. -/
theorem WellNamed.means_iff {entry n : String} :
    Means adds entry n ↔ (entry = ingress ∧ n = ingress) ∨ (entry = mainHandler ∧ n = mainHandler) ∨
      ∃ a ∈ adds, a.GoesBy entry ∧ a.node = n := by
  constructor
  · intro h
    cases h with
    | node hnode =>
        rcases hw.isNode_iff.mp hnode with h | h | ⟨a, ha, h⟩
        · exact .inl ⟨h, h⟩
        · exact .inr (.inl ⟨h, h⟩)
        · exact .inr (.inr ⟨a, ha, .inr h.symm, h⟩)
    | @name a _ hlast => exact .inr (.inr ⟨a, mem_of_lastNamed hlast, .inl rfl, rfl⟩)
  · rintro (⟨rfl, rfl⟩ | ⟨rfl, rfl⟩ | ⟨a, ha, hentry, rfl⟩)
    · exact .node (.inl rfl)
    · exact .node (.inr (.inl rfl))
    · have hnode : IsNode adds a.node := hw.isNode_iff.mpr (.inr (.inr ⟨a, ha, rfl⟩))
      rcases hentry with rfl | rfl
      · by_cases hname : IsNode adds a.name
        · -- the name is a node of its own only if it is the tween's own alias
          rcases hw.isNode_iff.mp hname with h | h | ⟨b, hb, h⟩
          · exact absurd (.inl h.symm) (hw.ingress_not_goesBy a ha)
          · exact absurd (.inl h.symm) (hw.mainHandler_not_goesBy a ha)
          · obtain rfl := hw.eq_of_goesBy hb ha (.inr h.symm) (.inl rfl)
            rw [h] at hnode ⊢
            exact .node hnode
        · exact .name hname (hw.lastNamed_name ha)
      · exact .node hnode

theorem WellNamed.exists_means_iff {entry : String} :
    (∃ n, Means adds entry n) ↔ Present adds entry := by
  simp only [hw.means_iff]
  constructor
  · rintro ⟨n, ⟨h, -⟩ | ⟨h, -⟩ | ⟨a, ha, h, -⟩⟩
    · exact .inl h
    · exact .inr (.inl h)
    · exact .inr (.inr ⟨a, ha, h⟩)
  · rintro (h | h | ⟨a, ha, h⟩)
    · exact ⟨_, .inl ⟨h, rfl⟩⟩
    · exact ⟨_, .inr (.inl ⟨h, rfl⟩)⟩
    · exact ⟨_, .inr (.inr ⟨a, ha, h, rfl⟩)⟩

/-- An entry stands for the node of a tween exactly when the tween goes by it. -/
theorem WellNamed.means_node_iff {a : Addition} (ha : a ∈ adds) {entry : String} :
    Means adds entry a.node ↔ a.GoesBy entry := by
  rw [hw.means_iff]
  constructor
  · rintro (⟨-, h⟩ | ⟨-, h⟩ | ⟨b, hb, hentry, h⟩)
    · exact absurd (.inr h.symm) (hw.ingress_not_goesBy a ha)
    · exact absurd (.inr h.symm) (hw.mainHandler_not_goesBy a ha)
    · rwa [hw.eq_of_goesBy ha hb (.inr rfl) (.inr h.symm)]
  · intro h
    exact .inr (.inr ⟨a, ha, h, rfl⟩)

/-! ## The edges of a tween -/

/-- A tween is outside of something when one of its own entries names something present, or when
another tween is placed under it. -/
theorem WellNamed.exists_inner_iff {a : Addition} (ha : a ∈ adds) :
    (∃ inner, Edge adds a.node inner) ↔
      (∃ o ∈ a.inners, Present adds o) ∨ ∃ b ∈ adds, ∃ u ∈ b.outers, a.GoesBy u := by
  constructor
  · rintro ⟨inner, hedge⟩
    rcases edge_iff.mp hedge with
      ⟨hend, -⟩ | ⟨b, hb, u, hu, houter, -⟩ | ⟨b, hb, o, ho, houter, hinner⟩
    · exact absurd (.inr hend.symm) (hw.ingress_not_goesBy a ha)
    · exact .inr ⟨b, hb, u, hu, (hw.means_node_iff ha).mp houter⟩
    · obtain rfl := hw.eq_of_goesBy ha hb ((hw.means_node_iff ha).mp houter) (.inr rfl)
      exact .inl ⟨o, ho, hw.exists_means_iff.mp ⟨_, hinner⟩⟩
  · rintro (⟨o, ho, hpresent⟩ | ⟨b, hb, u, hu, hcalled⟩)
    · obtain ⟨n, hn⟩ := hw.exists_means_iff.mpr hpresent
      exact ⟨n, .placedOver ha ho ((hw.means_node_iff ha).mpr (.inr rfl)) hn⟩
    · exact ⟨b.node, .placedUnder hb hu ((hw.means_node_iff ha).mpr hcalled)
        ((hw.means_node_iff hb).mpr (.inr rfl))⟩

/-- A tween is inside of something when one of its own entries names something present, or when
another tween is placed over it. -/
theorem WellNamed.exists_outer_iff {a : Addition} (ha : a ∈ adds) :
    (∃ outer, Edge adds outer a.node) ↔
      (∃ u ∈ a.outers, Present adds u) ∨ ∃ b ∈ adds, ∃ o ∈ b.inners, a.GoesBy o := by
  constructor
  · rintro ⟨outer, hedge⟩
    rcases edge_iff.mp hedge with
      ⟨-, hend⟩ | ⟨b, hb, u, hu, houter, hinner⟩ | ⟨b, hb, o, ho, -, hinner⟩
    · exact absurd (.inr hend.symm) (hw.mainHandler_not_goesBy a ha)
    · obtain rfl := hw.eq_of_goesBy ha hb ((hw.means_node_iff ha).mp hinner) (.inr rfl)
      exact .inl ⟨u, hu, hw.exists_means_iff.mp ⟨_, houter⟩⟩
    · exact .inr ⟨b, hb, o, ho, (hw.means_node_iff ha).mp hinner⟩
  · rintro (⟨u, hu, hpresent⟩ | ⟨b, hb, o, ho, hcalled⟩)
    · obtain ⟨n, hn⟩ := hw.exists_means_iff.mpr hpresent
      exact ⟨n, .placedUnder ha hu hn ((hw.means_node_iff ha).mpr (.inr rfl))⟩
    · exact ⟨b.node, .placedOver hb ho ((hw.means_node_iff hb).mpr (.inr rfl))
        ((hw.means_node_iff ha).mpr hcalled)⟩

end WellNamed

/-! ## Placements that are not satisfied -/

/-- A tween was placed over others, but none of its entries names anything that is present, and no
tween is placed under it. -/
def UnmetOver (adds : List Addition) (a : Addition) : Prop :=
  ∃ entries, a.above = some entries ∧ (∀ o ∈ entries, ¬ Present adds o) ∧
    ∀ b ∈ adds, ∀ u ∈ b.below.getD [], ¬ a.GoesBy u

def UnmetUnder (adds : List Addition) (a : Addition) : Prop :=
  ∃ entries, a.below = some entries ∧ (∀ u ∈ entries, ¬ Present adds u) ∧
    ∀ b ∈ adds, ∀ o ∈ b.above.getD [], ¬ a.GoesBy o

/-- The aliases of the additions with a property, in alphabetical order. -/
def AliasesOf (adds : List Addition) (p : Addition → Prop) (aliases : List String) : Prop :=
  aliases.Pairwise (· < ·) ∧ ∀ n, n ∈ aliases ↔ ∃ a ∈ adds, p a ∧ a.node = n

/-- The entries that a tween is placed under are those it was added with, and the ingress where it
was added with none on either side. -/
theorem mem_outers_iff {a : Addition} {entry : String} :
    entry ∈ a.outers ↔
      entry ∈ a.below.getD [] ∨ (a.below = none ∧ a.above = none ∧ entry = ingress) := by
  unfold Addition.outers
  cases a.below <;> cases a.above <;> simp

section WellNamed

variable (hw : WellNamed adds)
include hw

theorem WellNamed.unmetOver_iff {a : Addition} (ha : a ∈ adds) :
    UnmetOver adds a ↔ a.above.isSome ∧ ¬ ∃ inner, Edge adds a.node inner := by
  rw [hw.exists_inner_iff ha, not_or, UnmetOver, Addition.inners]
  cases habove : a.above with
  | none => simp
  | some entries =>
      -- the ingress that stands for an empty placement is not a name of the tween
      have hunder : (∃ b ∈ adds, ∃ u ∈ b.outers, a.GoesBy u) ↔
          ∃ b ∈ adds, ∃ u ∈ b.below.getD [], a.GoesBy u := by
        refine exists_congr fun b => and_congr_right fun _ => exists_congr fun u => ?_
        rw [mem_outers_iff]
        constructor
        · rintro ⟨hu | ⟨-, -, rfl⟩, hcalled⟩
          · exact ⟨hu, hcalled⟩
          · exact absurd hcalled (hw.ingress_not_goesBy a ha)
        · rintro ⟨hu, hcalled⟩
          exact ⟨.inl hu, hcalled⟩
      rw [hunder]
      simp

theorem WellNamed.unmetUnder_iff {a : Addition} (ha : a ∈ adds) :
    UnmetUnder adds a ↔ a.isPlacedUnder ∧ ¬ ∃ outer, Edge adds outer a.node := by
  rw [hw.exists_outer_iff ha, not_or, UnmetUnder, Addition.isPlacedUnder]
  simp only [mem_outers_iff]
  cases hbelow : a.below with
  | none =>
      cases habove : a.above with
      | none => simp [Present]
      | some entries => simp
  | some entries => simp [Addition.inners]

end WellNamed

theorem nodup_missingOver (adds : List Addition) :
    (ofAdditions adds).order.missingOver.Nodup := by
  rw [missingOver, placedOver_ofAdditions]
  exact (nodup_foldl_addOnce _ List.nodup_nil).filter _

theorem nodup_missingUnder (adds : List Addition) :
    (ofAdditions adds).order.missingUnder.Nodup := by
  rw [missingUnder, placedUnder_ofAdditions]
  exact (nodup_foldl_addOnce _ List.nodup_nil).filter _

theorem pairwise_mergeSort_compareText {l : List String} (h : l.Nodup) :
    (l.mergeSort Text.compareText).Pairwise (· < ·) := by
  have hle : (l.mergeSort Text.compareText).Pairwise fun a b => Text.compareText a b = true := by
    refine List.pairwise_mergeSort ?_ ?_ l
    · intro a b c hab hbc
      exact decide_eq_true (String.le_trans (of_decide_eq_true hab) (of_decide_eq_true hbc))
    · intro a b
      simpa [Text.compareText] using String.le_total a b
  have hne : (l.mergeSort Text.compareText).Pairwise (· ≠ ·) :=
    (List.mergeSort_perm l Text.compareText).symm.nodup h
  refine (hle.and hne).imp ?_
  rintro a b ⟨hab, hne⟩
  exact String.not_le.mp fun hba => hne (String.le_antisymm (of_decide_eq_true hab) hba)

/-- Tweens are reported by the alphabetical list of their aliases, if there are any. -/
theorem unplaced_iff {p : Addition → Prop} {missing : List String} (h : missing.Nodup)
    (hmem : ∀ n, n ∈ missing ↔ ∃ a ∈ adds, p a ∧ a.node = n) {side text : String} :
    (missing ≠ [] ∧ unplaced side missing = .configuration text) ↔
      ∃ aliases ≠ [], AliasesOf adds p aliases ∧
        text = "Detected tweens with no satisfied " ++ side ++ " dependencies: "
          ++ Text.joinWith ", " aliases := by
  have hsorted : AliasesOf adds p (missing.mergeSort Text.compareText) :=
    ⟨pairwise_mergeSort_compareText h, fun n => List.mem_mergeSort.trans (hmem n)⟩
  have hnil : missing.mergeSort Text.compareText = [] ↔ missing = [] := by
    rw [← List.length_eq_zero_iff, List.length_mergeSort, List.length_eq_zero_iff]
  rw [unplaced, Error.configuration.injEq]
  constructor
  · rintro ⟨hne, rfl⟩
    exact ⟨_, mt hnil.mp hne, hsorted, rfl⟩
  · rintro ⟨aliases, hne, haliases, rfl⟩
    have hsame : missing.mergeSort Text.compareText = aliases :=
      hsorted.1.eq_of_mem_iff haliases.1 fun n => (hsorted.2 n).trans (haliases.2 n).symm
    rw [hsame]
    exact ⟨mt hnil.mpr (hsame ▸ hne), rfl⟩

/-- **Which placements are reported.** The configuration is refused exactly when a tween was placed
over others, no entry of which is present, while no tween is placed under it; or, if there is no
such tween, when one is like that on its other side. The failure lists all of them by alias. -/
theorem implicit_configuration_iff (hw : WellNamed adds) (text : String) :
    (ofAdditions adds).implicit = .error (.configuration text) ↔
      (∃ aliases ≠ [], AliasesOf adds (UnmetOver adds) aliases ∧
        text = "Detected tweens with no satisfied over dependencies: "
          ++ Text.joinWith ", " aliases) ∨
      (∀ a ∈ adds, ¬ UnmetOver adds a) ∧
        ∃ aliases ≠ [], AliasesOf adds (UnmetUnder adds) aliases ∧
          text = "Detected tweens with no satisfied under dependencies: "
            ++ Text.joinWith ", " aliases := by
  have hover : ∀ n, n ∈ (ofAdditions adds).order.missingOver ↔
      ∃ a ∈ adds, UnmetOver adds a ∧ a.node = n := fun n =>
    mem_missingOver_iff.trans <| exists_congr fun _ => and_congr_right fun ha =>
      and_congr_left' (hw.unmetOver_iff ha).symm
  have hunder : ∀ n, n ∈ (ofAdditions adds).order.missingUnder ↔
      ∃ a ∈ adds, UnmetUnder adds a ∧ a.node = n := fun n =>
    mem_missingUnder_iff.trans <| exists_congr fun _ => and_congr_right fun ha =>
      and_congr_left' (hw.unmetUnder_iff ha).symm
  rw [implicit_error_iff, resolve_configuration_iff, eq_nil_iff_of_mem_iff hover,
    unplaced_iff (nodup_missingOver adds) hover, unplaced_iff (nodup_missingUnder adds) hunder]
  rfl

/-- Two tweens placed over what is not present, one of them under an alias. -/
def stranded : List Addition :=
  [{ name := "retry", factory := passing, above := some ["missing", "gone"] },
    { name := "pkg.auth", factory := passing, knownAs := some "auth", above := some [] },
    { name := "timing", factory := passing, below := some ["absent"] }]

theorem reported_stranded :
    WellNamed stranded ∧ (ofAdditions stranded).implicit = .error (.configuration
      "Detected tweens with no satisfied over dependencies: auth, retry") := by
  have hw : WellNamed stranded := by decide
  refine ⟨hw, (implicit_configuration_iff hw _).mpr (.inl ⟨["auth", "retry"], ?_, ⟨?_, ?_⟩, rfl⟩)⟩
  · decide
  · decide
  · intro n
    simp [stranded, UnmetOver, Present, Addition.GoesBy, Addition.node, ingress, mainHandler,
      eq_comm (b := n), or_comm]

def covered : List Addition :=
  [{ name := "a", factory := passing, above := some ["missing"] },
    { name := "b", factory := passing, below := some ["a"] }]

/-- That a placement names nothing present is not always reported: another tween's placement may
satisfy it. -/
theorem unmet_hidden_by_other :
    ¬ ∀ adds, WellNamed adds →
      (∃ a ∈ adds, ∃ entries, a.above = some entries ∧ ∀ o ∈ entries, ¬ Present adds o) →
        ∃ text, (ofAdditions adds).implicit = .error (.configuration text) := by
  intro hall
  have hw : WellNamed covered := by decide
  have himplicit : (ofAdditions covered).implicit = .ok [("a", passing), ("b", passing)] := rfl
  obtain ⟨text, herror⟩ := hall covered hw ⟨_, List.mem_cons_self, _, rfl, by decide⟩
  rw [himplicit] at herror
  cases herror

end Tweens

end WebDispatch
