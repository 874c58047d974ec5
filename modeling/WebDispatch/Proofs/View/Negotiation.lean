import Mathlib.Data.List.Nodup
import WebDispatch.Proofs.Http.Preference
import WebDispatch.Proofs.View.Ranking

/-!
# Negotiating between buckets

The views of a slot that have a media type are tried in the order in which the client prefers the
types. That order is found by taking the best type, and then again the best of those that are left,
until none of these is accepted. Since the best one leads the others, what comes out is a stable
sort of the accepted types by their rank.

* `Negotiation` — taking one type after another; it comes to an end (`negotiation_preferred`);
* `mediaTypes` — the media types of additions, in the order in which they were first given;
* `views_negotiated` — the views that are tried for a request, in order.
-/

namespace WebDispatch

open WebDispatch.Http (Preference)

theorem Request.proper_accept (r : Request) : r.accept.Proper := by
  unfold accept
  split
  · exact Preference.proper_parse _
  · trivial

theorem Request.accept_of_no_header {r : Request} (h : r.header? "accept" = none) :
    r.accept = .any := by
  rw [accept, h]

namespace MultiView

/-! ## One type after another -/

variable {p : Preference} {offers types : List String} {best : String}

/-- The best of the offers is taken, and then those that are left are negotiated, until none of
them is the best. -/
inductive Negotiation (p : Preference) : List String → List String → Prop where
  | done {offers : List String} (h : p.best? offers = none) : Negotiation p offers []
  | take {offers types : List String} {best : String} (h : p.best? offers = some best)
    (hrest : Negotiation p (without offers best) types) : Negotiation p offers (best :: types)

theorem preferred_of_none (h : p.best? offers = none) : preferred p offers = [] := by
  rw [preferred]
  split
  · rfl
  · next hbest =>
    rw [h] at hbest
    cases hbest

theorem preferred_of_some (h : p.best? offers = some best) :
    preferred p offers = best :: preferred p (without offers best) := by
  rw [preferred]
  split
  · next hnone =>
    rw [h] at hnone
    cases hnone
  · next hbest =>
    rw [h] at hbest
    rw [Option.some.inj hbest]

/-- Whatever the offers are, negotiating comes to an end. -/
theorem negotiation_preferred (p : Preference) (offers : List String) :
    Negotiation p offers (preferred p offers) := by
  induction offers using preferred.induct p with
  | case1 offers hnone =>
      rw [preferred_of_none hnone]
      exact .done hnone
  | case2 offers best hbest ih =>
      rw [preferred_of_some hbest]
      exact .take hbest ih

/-! ## The order that comes out -/

/-- A type has a higher rank than another, or stands before it at the same rank. -/
def Precedes (p : Preference) (offers : List String) (s t : String) : Prop :=
  p.rank t < p.rank s ∨ p.rank t = p.rank s ∧ [s, t].Sublist offers

theorem without_middle {before after : List String} (h : (before ++ best :: after).Nodup) :
    without (before ++ best :: after) best = before ++ after := by
  have hnot : best ∉ before ++ after := (List.nodup_cons.mp (List.nodup_middle.mp h)).1
  have hkept : (before ++ after).filter (· ≠ best) = before ++ after := by
    rw [List.filter_eq_self]
    intro s hs
    have hne : s ≠ best := fun heq => hnot (heq ▸ hs)
    simpa using hne
  rw [without, List.filter_append, List.filter_cons_of_neg (by simp), ← List.filter_append, hkept]

theorem Negotiation.perm (h : Negotiation p offers types) (hp : p.Proper) (hoffers : offers.Nodup) :
    types.Perm (offers.filter p.accepts) := by
  induction h with
  | @done offers hnone =>
      have hfilter : offers.filter p.accepts = [] := by
        rw [List.filter_eq_nil_iff]
        exact Preference.not_accepts_of_best? hp hnone
      rw [hfilter]
  | @take offers types best hbest _ ih =>
      obtain ⟨before, after, rfl, hrank, -⟩ := Preference.leads_of_best? hp hbest
      have hsub : (before ++ after).Sublist (before ++ best :: after) := by simp
      rw [without_middle hoffers] at ih
      have hrest := ih (hoffers.sublist hsub)
      have haccepts : p.accepts best = true := Preference.accepts_iff.mpr hrank
      rw [List.filter_append, List.filter_cons_of_pos haccepts]
      refine (hrest.cons best).trans ?_
      rw [List.filter_append]
      exact List.perm_middle.symm

theorem Negotiation.pairwise (h : Negotiation p offers types) (hp : p.Proper)
    (hoffers : offers.Nodup) : types.Pairwise (Precedes p offers) := by
  induction h with
  | done => exact List.Pairwise.nil
  | @take offers types best hbest hrest ih =>
      obtain ⟨before, after, rfl, -, hbefore, hafter⟩ := Preference.leads_of_best? hp hbest
      rw [without_middle hoffers] at hrest ih
      have hsub : (before ++ after).Sublist (before ++ best :: after) := by simp
      have hnodup : (before ++ after).Nodup := hoffers.sublist hsub
      refine List.pairwise_cons.mpr ⟨fun t ht => ?_, ?_⟩
      · -- what stands before the best type has a lower rank, and what comes after it no higher one
        have hmem := (List.mem_filter.mp ((hrest.perm hp hnodup).subset ht)).1
        rcases List.mem_append.mp hmem with hleft | hright
        · exact Or.inl (hbefore t hleft)
        · rcases (hafter t hright).lt_or_eq with hlt | heq
          · exact Or.inl hlt
          · refine Or.inr ⟨heq, ?_⟩
            have hpair : [best, t].Sublist (best :: after) :=
              (List.singleton_sublist.mpr hright).cons_cons best
            exact hpair.trans (List.sublist_append_right before _)
      · refine (ih hnodup).imp ?_
        rintro s t (hlt | ⟨heq, hst⟩)
        · exact Or.inl hlt
        · exact Or.inr ⟨heq, hst.trans hsub⟩

theorem preferred_any (h : offers.Nodup) : preferred .any offers = offers := by
  induction offers with
  | nil => exact preferred_of_none rfl
  | cons o offers ih =>
      have hbest : Preference.any.best? (o :: offers) = some o := rfl
      have hrest : without ([] ++ o :: offers) o = [] ++ offers := without_middle h
      rw [List.nil_append, List.nil_append] at hrest
      rw [preferred_of_some hbest, hrest, ih (List.nodup_cons.mp h).2]

/-! ## The media types of a slot -/

variable {name : String} {adds : List Addition}

/-- The media types of additions, in the order in which they were first given. -/
def mediaTypes (adds : List Addition) : List String :=
  (adds.filterMap fun a => mediaType? a.accept).eraseDups

theorem accepts_add (m : MultiView) (a : Addition) :
    (m.add a.view a.order a.phash a.accept).accepts =
      match mediaType? a.accept with
      | some type => if type ∈ m.accepts then m.accepts else m.accepts ++ [type]
      | none => m.accepts := by
  unfold add mediaType?
  cases a.accept.filter fun a => !Text.hasChar a '*' with
  | none => rfl
  | some type => simp only [List.contains_iff_mem]

theorem nodup_accepts (name : String) (adds : List Addition) :
    (ofAdditions name adds).accepts.Nodup := by
  induction adds using List.reverseRecOn with
  | nil => exact List.nodup_nil
  | append_singleton adds a ih =>
      rw [ofAdditions_snoc, accepts_add]
      cases mediaType? a.accept with
      | none => exact ih
      | some type =>
          simp only
          split
          · exact ih
          · next hnew =>
            exact List.nodup_append.mpr ⟨ih, List.nodup_singleton type, by
              rintro s hs t ht rfl
              exact hnew (List.mem_singleton.mp ht ▸ hs)⟩

@[simp] theorem mediaTypes_snoc (adds : List Addition) (a : Addition) :
    mediaTypes (adds ++ [a]) =
      match mediaType? a.accept with
      | some type => if type ∈ mediaTypes adds then mediaTypes adds else mediaTypes adds ++ [type]
      | none => mediaTypes adds := by
  unfold mediaTypes
  rw [List.filterMap_append, List.eraseDups_append]
  generalize adds.filterMap (fun a => mediaType? a.accept) = given
  cases htype : mediaType? a.accept with
  | none => simp [htype]
  | some type =>
      by_cases hmem : type ∈ given
      · simp [htype, List.removeAll, hmem]
      · simp [htype, List.removeAll, hmem, List.eraseDups_cons]

@[simp] theorem accepts_ofAdditions (name : String) (adds : List Addition) :
    (ofAdditions name adds).accepts = mediaTypes adds := by
  induction adds using List.reverseRecOn with
  | nil => rfl
  | append_singleton adds a ih => rw [ofAdditions_snoc, accepts_add, mediaTypes_snoc, ih]

/-- **The views for a request.** Negotiating comes to an end with the accepted ones of the media
types that views were added for, each once, and all of them for a request without a readable list.
A type of higher rank comes before one of lower rank, and types of one rank come in the order in
which they were first given. The buckets of these types are tried in this order, each as it is
stored, and then the views without a media type. -/
theorem views_negotiated (name : String) (adds : List Addition) (r : Request) :
    ∃ types, Negotiation r.accept (mediaTypes adds) types ∧
      (ofAdditions name adds).views r =
        (types.flatMap (fun type => (ofAdditions name adds).bucket (some type)) ++
          (ofAdditions name adds).bucket none).map Candidate.view ∧
      types.Nodup ∧ types.Perm ((mediaTypes adds).filter r.accept.accepts) ∧
      types.Pairwise (Precedes r.accept (mediaTypes adds)) ∧
      (r.header? "accept" = none → types = mediaTypes adds) := by
  have hnodup : (mediaTypes adds).Nodup := accepts_ofAdditions name adds ▸ nodup_accepts name adds
  have hrun := negotiation_preferred r.accept (mediaTypes adds)
  have hperm := hrun.perm r.proper_accept hnodup
  refine ⟨preferred r.accept (mediaTypes adds), hrun, ?_, ?_, hperm, ?_, ?_⟩
  · rw [views, accepts_ofAdditions]
    rfl
  · exact hperm.nodup_iff.mpr (hnodup.filter _)
  · exact hrun.pairwise r.proper_accept hnodup
  · intro hnone
    rw [Request.accept_of_no_header hnone, preferred_any hnodup]

end MultiView

end WebDispatch
