import Mathlib.Data.ENat.Basic
import Mathlib.Data.List.Induction
import Mathlib.Data.List.MinMax
import Mathlib.Data.Prod.Lex
import WebDispatch.Http.Accept

/-!
# What a client likes best

The ranges of a client are ranked by their quality and, at equal quality, by how few wildcards they
have. The qualities are positive, since a range without a positive one is dropped, so that these
ranks are ordered. An offer has the rank of the best range that matches it, and none if no range
does. The best offer is found by one pass over all offers and ranges that keeps the best pair so
far: it leads the others, being the first of those of the highest rank.

* `MediaRange.rank`, `Preference.rank` — ranks of ranges and of offers;
* `Preference.Leads` — the first offer of the highest rank;
* `Preference.leads_of_best?`, `Preference.not_accepts_of_best?` — what the pass finds.
-/

namespace WebDispatch

namespace Fraction

variable {p q : Fraction}

/-- More than zero, which an undefined number is not. -/
def Positive (q : Fraction) : Prop := less (.finite false 0) q = true

/-- The place of a number on the line, its sign apart. -/
def size : Fraction → ℕ∞
  | .finite _ units => units
  | .infinite _ => ⊤
  | .undefined => 0

theorem Positive.cases (h : q.Positive) : (∃ n, q = .finite false n) ∨ q = .infinite false := by
  cases q with
  | finite negative units =>
      cases negative with
      | false => exact Or.inl ⟨units, rfl⟩
      | true =>
          have hpos : (0 : Int) < -units := by simpa [Positive, less, signed] using h
          omega
  | infinite negative =>
      have hsign : negative = false := by simpa [Positive, less] using h
      exact Or.inr (hsign ▸ rfl)
  | undefined => exact absurd h (by simp [Positive, less])

theorem less_iff (hp : p.Positive) (hq : q.Positive) : less p q = true ↔ p.size < q.size := by
  obtain ⟨m, rfl⟩ | rfl := hp.cases
  · obtain ⟨n, rfl⟩ | rfl := hq.cases
    · simp [less, signed, size]
    · simp [less, size]
  · obtain ⟨n, rfl⟩ | rfl := hq.cases
    · simp [less, size]
    · simp [less, size]

theorem same_iff (hp : p.Positive) (hq : q.Positive) : same p q = true ↔ p.size = q.size := by
  obtain ⟨m, rfl⟩ | rfl := hp.cases
  · obtain ⟨n, rfl⟩ | rfl := hq.cases
    · have hsame : same (.finite false m) (.finite false n) = true ↔ (m : Int) = n := by
        simp [same, signed]
      have hsize : ((m : ℕ∞) = n) ↔ m = n := Nat.cast_inj
      rw [hsame, size, size, hsize]
      omega
    · simp [same, size]
  · obtain ⟨n, rfl⟩ | rfl := hq.cases
    · simp [same, size]
    · simp [same, size]

end Fraction

namespace Http

abbrev Rank : Type := ℕ∞ ×ₗ ℕᵒᵈ

namespace MediaRange

variable {r s : MediaRange}

/-- How much a client likes what a range matches. -/
def rank (r : MediaRange) : Rank := toLex (r.quality.size, OrderDual.toDual r.wildcards)

theorem better_iff (hr : r.quality.Positive) (hs : s.quality.Positive) :
    r.better s = true ↔ s.rank < r.rank := by
  unfold better rank
  rw [Prod.Lex.toLex_lt_toLex, OrderDual.toDual_lt_toDual]
  simp only [Bool.or_eq_true, Bool.and_eq_true, decide_eq_true_eq, Fraction.less_iff hs hr,
    Fraction.same_iff hr hs]
  constructor
  · rintro (h | ⟨heq, h⟩)
    · exact Or.inl h
    · exact Or.inr ⟨heq.symm, h⟩
  · rintro (h | ⟨heq, h⟩)
    · exact Or.inl h
    · exact Or.inr ⟨heq.symm, h⟩

/-- The rank of the best of some ranges that match an offer, if there is one. -/
def bestRank (list : List MediaRange) (offer : String) : WithBot Rank :=
  ((list.filter (·.matchesOffer offer)).map rank).maximum

theorem bestRank_eq_bot_iff {list : List MediaRange} {offer : String} :
    bestRank list offer = ⊥ ↔ ∀ r ∈ list, ¬ r.matchesOffer offer := by
  rw [bestRank, List.maximum_eq_bot, List.map_eq_nil_iff, List.filter_eq_nil_iff]

theorem bestRank_cons_of_matches {offer : String} (h : r.matchesOffer offer)
    (list : List MediaRange) :
    bestRank (r :: list) offer = max (r.rank : WithBot Rank) (bestRank list offer) := by
  rw [bestRank, List.filter_cons, if_pos h, List.map_cons, List.maximum_cons, bestRank]

theorem bestRank_cons_of_not_matches {offer : String} (h : ¬ r.matchesOffer offer)
    (list : List MediaRange) : bestRank (r :: list) offer = bestRank list offer := by
  rw [bestRank, List.filter_cons, if_neg h, bestRank]

end MediaRange

namespace Preference

open MediaRange (bestRank bestRank_eq_bot_iff bestRank_cons_of_matches bestRank_cons_of_not_matches)

variable {p : Preference} {list : List MediaRange} {offers : List String} {o offer : String}
  {b : Option (String × MediaRange)} {r : MediaRange}

def Proper : Preference → Prop
  | any => True
  | ranges list => ∀ r ∈ list, r.quality.Positive

theorem proper_parse (header : String) : (parse header).Proper := by
  intro r hr
  exact (List.mem_filter.mp hr).2

/-! ## The ranks of offers -/

/-- The rank of an offer, if it is accepted. Without a list of ranges all offers are alike. -/
def rank (p : Preference) (offer : String) : WithBot Rank :=
  match p with
  | any => (toLex (⊤, OrderDual.toDual 0) : Rank)
  | ranges list => bestRank list offer

theorem accepts_iff : p.accepts offer = true ↔ p.rank offer ≠ ⊥ := by
  cases p with
  | any => simp [accepts, rank]
  | ranges list =>
      rw [rank, Ne, bestRank_eq_bot_iff]
      simp [accepts]

/-! ## One offer after another -/

def reached (b : Option (String × MediaRange)) : WithBot Rank := b.elim ⊥ fun e => e.2.rank

/-- A pair takes the place of the best one so far exactly if its rank is higher. -/
theorem improve_eq (hr : r.quality.Positive) (hb : ∀ e ∈ b, e.2.quality.Positive) :
    improve b offer r =
      if r.matchesOffer offer ∧ reached b < r.rank then some (offer, r) else b := by
  unfold improve
  by_cases hmatch : r.matchesOffer offer
  · cases b with
    | none => simp [hmatch, reached]
    | some e =>
        have hbetter : r.better e.2 = true ↔ e.2.rank < r.rank :=
          MediaRange.better_iff hr (hb e rfl)
        have hreached : reached (some e) < r.rank ↔ e.2.rank < r.rank := WithBot.coe_lt_coe
        simp only [hmatch, hbetter, hreached, Bool.not_true, Bool.false_eq_true, if_false, true_and]
  · simp [hmatch]

/-- An offer takes the place of the best one so far exactly if its rank is higher. -/
theorem consider_spec (hlist : ∀ r ∈ list, r.quality.Positive)
    (hb : ∀ e ∈ b, e.2.quality.Positive) (offer : String) :
    (reached b < bestRank list offer →
      ∃ r ∈ list, consider list b offer = some (offer, r) ∧ r.rank = bestRank list offer) ∧
    (¬ reached b < bestRank list offer → consider list b offer = b) := by
  induction list generalizing b with
  | nil => exact ⟨fun h => absurd h not_lt_bot, fun _ => rfl⟩
  | cons r list ih =>
      have hr := hlist r List.mem_cons_self
      have hrest : ∀ s ∈ list, s.quality.Positive := fun s hs => hlist s (List.mem_cons_of_mem r hs)
      have hstep : consider (r :: list) b offer = consider list (improve b offer r) offer := rfl
      rw [hstep, improve_eq hr hb]
      by_cases hmatch : r.matchesOffer offer
      · rw [bestRank_cons_of_matches hmatch]
        by_cases hlt : reached b < r.rank
        · -- the pair of this range is the best one so far, and a later range may be better still
          rw [if_pos ⟨hmatch, hlt⟩]
          refine ⟨fun _ => ?_, fun hnot => absurd (lt_max_of_lt_left hlt) hnot⟩
          obtain ⟨hbetter, hkept⟩ := ih hrest (b := some (offer, r)) (by simpa using hr)
          by_cases hmore : (r.rank : WithBot Rank) < bestRank list offer
          · obtain ⟨s, hs, hconsider, hrank⟩ := hbetter hmore
            refine ⟨s, List.mem_cons_of_mem r hs, hconsider, ?_⟩
            rw [hrank, max_eq_right hmore.le]
          · refine ⟨r, List.mem_cons_self, hkept hmore, ?_⟩
            rw [max_eq_left (not_lt.mp hmore)]
        · rw [if_neg fun h => hlt h.2]
          obtain ⟨hbetter, hkept⟩ := ih hrest hb
          have hle : (r.rank : WithBot Rank) ≤ reached b := not_lt.mp hlt
          constructor
          · intro h
            have hmore := (lt_max_iff.mp h).resolve_left hlt
            obtain ⟨s, hs, hconsider, hrank⟩ := hbetter hmore
            refine ⟨s, List.mem_cons_of_mem r hs, hconsider, ?_⟩
            rw [hrank, max_eq_right (hle.trans hmore.le)]
          · exact fun h => hkept fun hmore => h (lt_max_of_lt_right hmore)
      · rw [bestRank_cons_of_not_matches hmatch, if_neg fun h => hmatch h.1]
        obtain ⟨hbetter, hkept⟩ := ih hrest hb
        refine ⟨fun h => ?_, hkept⟩
        obtain ⟨s, hs, hfound⟩ := hbetter h
        exact ⟨s, List.mem_cons_of_mem r hs, hfound⟩

/-! ## The best offer -/

/-- An offer that is accepted is the first one of the highest rank. -/
def Leads (p : Preference) (offers : List String) (o : String) : Prop :=
  ∃ before after, offers = before ++ o :: after ∧ p.rank o ≠ ⊥ ∧
    (∀ s ∈ before, p.rank s < p.rank o) ∧ ∀ s ∈ after, p.rank s ≤ p.rank o

theorem Leads.rank_le (h : Leads p offers o) : ∀ s ∈ offers, p.rank s ≤ p.rank o := by
  obtain ⟨before, after, rfl, -, hbefore, hafter⟩ := h
  intro s hs
  rcases List.mem_append.mp hs with hs | hs
  · exact (hbefore s hs).le
  · rcases List.mem_cons.mp hs with rfl | hs
    · exact le_rfl
    · exact hafter s hs

/-- An offer goes on leading if the next one is not liked more. -/
theorem Leads.snoc (h : Leads p offers o) (hle : p.rank offer ≤ p.rank o) :
    Leads p (offers ++ [offer]) o := by
  obtain ⟨before, after, rfl, hrank, hbefore, hafter⟩ := h
  refine ⟨before, after ++ [offer], by simp, hrank, hbefore, fun s hs => ?_⟩
  rcases List.mem_append.mp hs with hs | hs
  · exact hafter s hs
  · rw [List.mem_singleton.mp hs]
    exact hle

theorem leads_snoc_of_lt (hrank : p.rank offer ≠ ⊥)
    (hlt : ∀ s ∈ offers, p.rank s < p.rank offer) : Leads p (offers ++ [offer]) offer :=
  ⟨offers, [], rfl, hrank, hlt, fun _ hs => absurd hs List.not_mem_nil⟩

/-- The pass finds the offer that leads, with a range of its rank, or no offer is accepted. -/
theorem foldl_consider (hlist : ∀ r ∈ list, r.quality.Positive) (offers : List String) :
    (offers.foldl (consider list) none = none ∧ ∀ s ∈ offers, (ranges list).rank s = ⊥) ∨
      ∃ o, ∃ r ∈ list, offers.foldl (consider list) none = some (o, r) ∧
        r.rank = (ranges list).rank o ∧ Leads (ranges list) offers o := by
  induction offers using List.reverseRecOn with
  | nil => exact Or.inl ⟨rfl, fun _ hs => absurd hs List.not_mem_nil⟩
  | append_singleton offers offer ih =>
      rw [List.foldl_append, List.foldl_cons, List.foldl_nil]
      rcases ih with ⟨hfold, hnone⟩ | ⟨o, r, hr, hfold, hrank, hleads⟩
      · rw [hfold]
        obtain ⟨hbetter, hkept⟩ := consider_spec hlist (b := none) nofun offer
        by_cases hlt : reached none < (ranges list).rank offer
        · obtain ⟨s, hs, hconsider, hs'⟩ := hbetter hlt
          refine Or.inr ⟨offer, s, hs, hconsider, hs', ?_⟩
          exact leads_snoc_of_lt (ne_bot_of_gt hlt) fun t ht => (hnone t ht).symm ▸ hlt
        · refine Or.inl ⟨hkept hlt, fun t ht => ?_⟩
          rcases List.mem_append.mp ht with ht | ht
          · exact hnone t ht
          · rw [List.mem_singleton.mp ht]
            exact not_bot_lt_iff.mp hlt
      · rw [hfold]
        have hreached : reached (some (o, r)) = (ranges list).rank o := hrank
        obtain ⟨hbetter, hkept⟩ :=
          consider_spec hlist (b := some (o, r)) (by simpa using hlist r hr) offer
        rw [hreached] at hbetter hkept
        by_cases hlt : (ranges list).rank o < (ranges list).rank offer
        · obtain ⟨s, hs, hconsider, hs'⟩ := hbetter hlt
          refine Or.inr ⟨offer, s, hs, hconsider, hs', ?_⟩
          exact leads_snoc_of_lt (ne_bot_of_gt hlt) fun t ht =>
            (hleads.rank_le t ht).trans_lt hlt
        · exact Or.inr ⟨o, r, hr, hkept hlt, hrank, hleads.snoc (not_lt.mp hlt)⟩

theorem leads_of_best? (hp : p.Proper) (h : p.best? offers = some o) : Leads p offers o := by
  cases p with
  | any =>
      obtain ⟨rest, rfl⟩ := List.head?_eq_some_iff.mp h
      exact ⟨[], rest, rfl, by simp [rank], fun _ hs => absurd hs List.not_mem_nil,
        fun _ _ => le_rfl⟩
  | ranges list =>
      obtain ⟨e, hfold, rfl⟩ := Option.map_eq_some_iff.mp h
      rcases foldl_consider hp offers with ⟨hnone, -⟩ | ⟨o, r, -, hsome, -, hleads⟩
      · rw [hnone] at hfold
        cases hfold
      · rw [hsome] at hfold
        cases hfold
        exact hleads

theorem not_accepts_of_best? (hp : p.Proper) (h : p.best? offers = none) :
    ∀ o ∈ offers, ¬ p.accepts o := by
  intro o ho
  cases p with
  | any =>
      rw [List.head?_eq_none_iff.mp h] at ho
      exact absurd ho List.not_mem_nil
  | ranges list =>
      rw [accepts_iff, not_not]
      have hfold := Option.map_eq_none_iff.mp h
      rcases foldl_consider hp offers with ⟨-, hnone⟩ | ⟨o, r, -, hsome, -, -⟩
      · exact hnone o ho
      · rw [hfold] at hsome
        cases hsome

end Preference

end Http

end WebDispatch
