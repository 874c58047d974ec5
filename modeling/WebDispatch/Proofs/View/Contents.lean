import Mathlib.Data.List.Nodup
import WebDispatch.Proofs.View.Ranking
import WebDispatch.Registry

/-!
# What a slot holds

Views come to a slot one after the other. The first is stored as it is, one of the same identity
takes its place, and with another identity the slot begins to hold several. Whatever its shape, a
slot holds one candidate for each identity that came to it, which is the last of that identity
(`holdsLast_stored`), provided that views of one identity have one media type: by its media type a
view finds the one that it replaces.

* `Slot.candidates` — what a slot holds, whatever its shape;
* `mem_candidates_merged` — one view comes to a slot;
* `LastOf`, `HoldsLast` — the last additions of each identity, and a slot that holds just these.
-/

namespace WebDispatch

def View.candidate (v : View) : Candidate := ⟨v.order, v, v.phash⟩

def View.addition (v : View) : MultiView.Addition := ⟨v, v.order, v.phash, v.accept⟩

namespace Candidate

variable {c d : Candidate} {bucket : List Candidate}

theorem phash_ne_of_nodup {before after : List Candidate}
    (h : ((before ++ d :: after).map phash).Nodup) {e : Candidate} (he : e ∈ after) :
    e.phash ≠ d.phash := by
  intro heq
  rw [List.map_append, List.map_cons] at h
  have htail := (List.nodup_append.mp h).2.1
  exact (List.nodup_cons.mp htail).1 (heq ▸ List.mem_map_of_mem he)

/-- A candidate comes to a bucket, and one of its identity goes. -/
theorem mem_insertRanked (h : (bucket.map phash).Nodup) :
    d ∈ c.insertRanked bucket ↔ d = c ∨ d ∈ bucket ∧ d.phash ≠ c.phash := by
  rcases new_or_replaces c bucket with hnew | ⟨before, e, after, rfl, he, hbefore⟩
  · rw [insertRanked_of_new hnew, List.mem_mergeSort, List.mem_append, List.mem_singleton, or_comm]
    exact or_congr_right ⟨fun hd => ⟨hd, hnew d hd⟩, And.left⟩
  · rw [insertRanked_of_replaces he hbefore]
    simp only [List.mem_append, List.mem_cons]
    constructor
    · rintro (hd | rfl | hd)
      · exact Or.inr ⟨Or.inl hd, hbefore d hd⟩
      · exact Or.inl rfl
      · exact Or.inr ⟨Or.inr (Or.inr hd), he ▸ phash_ne_of_nodup h hd⟩
    · rintro (rfl | ⟨hd | rfl | hd, hne⟩)
      · exact Or.inr (Or.inl rfl)
      · exact Or.inl hd
      · exact absurd he hne
      · exact Or.inr (Or.inr hd)

theorem nodup_insertRanked (h : (bucket.map phash).Nodup) :
    ((c.insertRanked bucket).map phash).Nodup := by
  rcases new_or_replaces c bucket with hnew | ⟨before, e, after, rfl, he, hbefore⟩
  · rw [insertRanked_of_new hnew]
    refine ((List.mergeSort_perm _ _).map phash).nodup_iff.mpr ?_
    rw [List.map_append, List.map_singleton, List.nodup_append]
    refine ⟨h, List.nodup_singleton _, ?_⟩
    rintro p hp q hq rfl
    obtain ⟨d, hd, rfl⟩ := List.mem_map.mp hp
    exact hnew d hd (List.mem_singleton.mp hq)
  · -- the identities stay as they are
    rw [insertRanked_of_replaces he hbefore]
    simpa only [List.map_append, List.map_cons, he] using h

end Candidate

namespace MultiView

variable {m : MultiView} {c : Candidate} {v : View}

def all (m : MultiView) : List Candidate := m.candidates ++ m.mediaCandidates.values.flatten

/-- There is one bucket for each media type and in it one candidate for each identity, and every
candidate is in the bucket of its own media type. -/
structure Tidy (m : MultiView) : Prop where
  types : m.mediaCandidates.keys.Nodup
  distinct : ∀ type, ((m.bucket type).map Candidate.phash).Nodup
  placed : ∀ type, ∀ c ∈ m.bucket type, mediaType? c.view.accept = type

theorem tidy_empty (name : String) : ({ name := name } : MultiView).Tidy where
  types := List.nodup_nil
  distinct type := by cases type <;> exact List.nodup_nil
  placed type c hc := by cases type <;> cases hc

theorem types_add (h : m.mediaCandidates.keys.Nodup) (view : View) (order : Nat) (phash : String)
    (accept : Option String) :
    (m.add view order phash accept).mediaCandidates.keys.Nodup := by
  unfold add
  cases accept.filter fun a => !Text.hasChar a '*' with
  | none => exact h
  | some type => exact OrderedMap.nodup_keys_alter h type _ _

theorem Tidy.add (h : m.Tidy) (v : View) : (m.add v v.order v.phash v.accept).Tidy where
  types := types_add h.types v v.order v.phash v.accept
  distinct type := by
    rw [bucket_add]
    split
    · exact Candidate.nodup_insertRanked (h.distinct type)
    · exact h.distinct type
  placed type c hc := by
    rw [bucket_add] at hc
    split at hc
    · next htype =>
      rcases (Candidate.mem_insertRanked (h.distinct type)).mp hc with rfl | ⟨hc, -⟩
      · exact htype
      · exact h.placed type c hc
    · exact h.placed type c hc

theorem bucket_of_mem (h : m.Tidy) {type : String} {bucket : List Candidate}
    (hmem : (type, bucket) ∈ m.mediaCandidates.toList) : m.bucket (some type) = bucket := by
  have hget := (OrderedMap.get?_eq_some_iff h.types).mpr hmem
  show (m.mediaCandidates.get? type).getD [] = bucket
  rw [hget, Option.getD_some]

theorem mem_all_of_mem_bucket (type : Option String) (h : c ∈ m.bucket type) : c ∈ m.all := by
  rw [all, List.mem_append, List.mem_flatten]
  cases type with
  | none => exact Or.inl h
  | some type =>
      refine Or.inr ?_
      rw [bucket] at h
      cases hget : m.mediaCandidates.get? type with
      | none =>
          rw [hget] at h
          cases h
      | some bucket =>
          rw [hget] at h
          obtain ⟨entry, hfind, rfl⟩ := Option.map_eq_some_iff.mp hget
          exact ⟨entry.2, List.mem_map_of_mem (List.mem_of_find?_eq_some hfind), h⟩

theorem mem_all_iff (h : m.Tidy) : c ∈ m.all ↔ ∃ type, c ∈ m.bucket type := by
  constructor
  · rw [all, List.mem_append, List.mem_flatten]
    rintro (hc | ⟨bucket, hbucket, hc⟩)
    · exact ⟨none, hc⟩
    · obtain ⟨⟨type, bucket⟩, hmem, rfl⟩ := List.mem_map.mp hbucket
      exact ⟨some type, (bucket_of_mem h hmem).symm ▸ hc⟩
  · rintro ⟨type, hc⟩
    exact mem_all_of_mem_bucket type hc

/-- A view comes to several, and the one of its identity goes. -/
theorem mem_all_add (h : m.Tidy)
    (haccept : ∀ c ∈ m.all, c.phash = v.phash → c.view.accept = v.accept) :
    c ∈ (m.add v v.order v.phash v.accept).all ↔
      c = v.candidate ∨ c ∈ m.all ∧ c.phash ≠ v.phash := by
  rw [mem_all_iff (h.add v), mem_all_iff h]
  constructor
  · rintro ⟨type, hc⟩
    rw [bucket_add] at hc
    split at hc
    · rcases (Candidate.mem_insertRanked (h.distinct type)).mp hc with rfl | ⟨hc, hne⟩
      · exact Or.inl rfl
      · exact Or.inr ⟨⟨type, hc⟩, hne⟩
    · next htype =>
      refine Or.inr ⟨⟨type, hc⟩, fun heq => htype ?_⟩
      rw [← haccept c ((mem_all_iff h).mpr ⟨type, hc⟩) heq]
      exact h.placed type c hc
  · rintro (rfl | ⟨⟨type, hc⟩, hne⟩)
    · refine ⟨mediaType? v.accept, ?_⟩
      rw [bucket_add, if_pos rfl]
      exact (Candidate.mem_insertRanked (h.distinct _)).mpr (Or.inl rfl)
    · refine ⟨type, ?_⟩
      rw [bucket_add]
      split
      · exact (Candidate.mem_insertRanked (h.distinct type)).mpr (Or.inr ⟨hc, hne⟩)
      · exact hc

theorem nodup_all (h : m.Tidy)
    (haccept : ∀ c ∈ m.all, ∀ d ∈ m.all, c.phash = d.phash → c.view.accept = d.view.accept) :
    (m.all.map Candidate.phash).Nodup := by
  -- candidates of different buckets have different media types
  have hapart : ∀ {t u : Option String}, t ≠ u → ∀ c ∈ m.bucket t, ∀ d ∈ m.bucket u,
      c.phash ≠ d.phash := by
    intro t u htu c hc d hd heq
    have hsame := haccept c ((mem_all_iff h).mpr ⟨t, hc⟩) d ((mem_all_iff h).mpr ⟨u, hd⟩) heq
    rw [← h.placed t c hc, ← h.placed u d hd, hsame] at htu
    exact htu rfl
  have htypes : m.mediaCandidates.toList.Pairwise fun p q => p.1 ≠ q.1 :=
    List.pairwise_map.mp h.types
  rw [List.Nodup, List.pairwise_map, all, List.pairwise_append, List.pairwise_flatten]
  refine ⟨List.pairwise_map.mp (h.distinct none), ⟨?_, ?_⟩, ?_⟩
  · intro bucket hbucket
    obtain ⟨⟨type, bucket⟩, hmem, rfl⟩ := List.mem_map.mp hbucket
    exact List.pairwise_map.mp (bucket_of_mem h hmem ▸ h.distinct (some type))
  · rw [OrderedMap.values, List.pairwise_map]
    refine htypes.imp_of_mem fun {p q} hp hq hpq c hc d hd => ?_
    have hne : some p.1 ≠ some q.1 := fun heq => hpq (Option.some.inj heq)
    exact hapart hne c (bucket_of_mem h hp ▸ hc) d (bucket_of_mem h hq ▸ hd)
  · intro c hc d hd
    obtain ⟨bucket, hbucket, hd⟩ := List.mem_flatten.mp hd
    obtain ⟨⟨type, bucket⟩, hmem, rfl⟩ := List.mem_map.mp hbucket
    exact hapart (Option.some_ne_none type).symm c hc d (bucket_of_mem h hmem ▸ hd)

end MultiView

/-! ## One view comes to a slot -/

namespace Slot

def candidates : Slot → List Candidate
  | .single v => [v.candidate]
  | .multi m => m.all

def Tidy : Slot → Prop
  | .single _ => True
  | .multi m => m.Tidy

theorem nodup_candidates {slot : Slot} (h : slot.Tidy)
    (haccept : ∀ c ∈ slot.candidates, ∀ d ∈ slot.candidates, c.phash = d.phash →
      c.view.accept = d.view.accept) : (slot.candidates.map Candidate.phash).Nodup := by
  cases slot with
  | single v => exact List.nodup_singleton _
  | multi m => exact MultiView.nodup_all h haccept

end Slot

namespace Registry

variable {old : Slot} {v : View} {c : Candidate}

theorem tidy_merged (h : old.Tidy) (name : String) (v : View) :
    (merged (some old) name v).Tidy := by
  cases old with
  | single u =>
      rw [merged]
      split
      · trivial
      · exact ((MultiView.tidy_empty name).add u).add v
  | multi m => exact MultiView.Tidy.add h v

/-- A view comes to a slot, and the one of its identity goes. -/
theorem mem_candidates_merged (h : old.Tidy) (name : String)
    (haccept : ∀ c ∈ old.candidates, c.phash = v.phash → c.view.accept = v.accept) :
    c ∈ (merged (some old) name v).candidates ↔
      c = v.candidate ∨ c ∈ old.candidates ∧ c.phash ≠ v.phash := by
  cases old with
  | single u =>
      have hstays :
          c ∈ [u.candidate] ∧ c.phash ≠ v.phash ↔ c = u.candidate ∧ u.phash ≠ v.phash := by
        rw [List.mem_singleton]
        constructor
        · rintro ⟨rfl, hne⟩
          exact ⟨rfl, hne⟩
        · rintro ⟨rfl, hne⟩
          exact ⟨rfl, hne⟩
      rw [Slot.candidates, hstays, merged]
      split
      · next heq => simp [Slot.candidates, heq]
      · next hne =>
        -- the view that was alone so far is added before the one that comes
        have hempty : ∀ c, c ∉ ({ name := name } : MultiView).all := fun c => List.not_mem_nil
        have hfirst : ∀ c, c ∈ (({ name := name } : MultiView).add u u.order u.phash u.accept).all ↔
            c = u.candidate := by
          intro c
          rw [MultiView.mem_all_add (MultiView.tidy_empty name) fun c hc => absurd hc (hempty c)]
          exact or_iff_left fun hc => hempty c hc.1
        rw [Slot.candidates, MultiView.mem_all_add ((MultiView.tidy_empty name).add u), hfirst]
        · exact or_congr_right (and_congr_right fun hc => hc ▸ Iff.rfl)
        · intro c hc heq
          obtain rfl := (hfirst c).mp hc
          exact absurd heq hne
  | multi m => exact MultiView.mem_all_add h haccept

end Registry

/-! ## Runs -/

namespace MultiView

variable {adds : List Addition} {a b : Addition}

def LastOf (adds : List Addition) (a : Addition) : Prop :=
  ∃ before after, adds = before ++ a :: after ∧ ∀ b ∈ after, b.phash ≠ a.phash

theorem LastOf.mem (h : LastOf adds a) : a ∈ adds := by
  obtain ⟨before, after, rfl, -⟩ := h
  exact List.mem_append_right _ List.mem_cons_self

@[simp] theorem lastOf_snoc_iff :
    LastOf (adds ++ [b]) a ↔ a = b ∨ LastOf adds a ∧ a.phash ≠ b.phash := by
  constructor
  · rintro ⟨before, after, hadds, hafter⟩
    rcases List.eq_nil_or_concat after with rfl | ⟨after, c, rfl⟩
    · exact Or.inl (List.singleton_inj.mp (List.append_inj_right' hadds rfl)).symm
    · rw [List.concat_eq_append, ← List.cons_append, ← List.append_assoc] at hadds
      obtain ⟨rfl, hlast⟩ := List.append_inj' hadds rfl
      obtain rfl := List.singleton_inj.mp hlast
      refine Or.inr ⟨⟨before, after, rfl, fun d hd => hafter d (by simp [hd])⟩, ?_⟩
      exact (hafter b (by simp)).symm
  · rintro (rfl | ⟨⟨before, after, rfl, hafter⟩, hne⟩)
    · exact ⟨adds, [], rfl, fun b hb => absurd hb List.not_mem_nil⟩
    · refine ⟨before, after ++ [b], by simp, fun d hd => ?_⟩
      rcases List.mem_append.mp hd with hd | hd
      · exact hafter d hd
      · rw [List.mem_singleton.mp hd]
        exact hne.symm

end MultiView

namespace Slot

open MultiView (Addition LastOf)

variable {adds : List Addition} {slot : Slot} {c : Candidate} {v : View} {name : String}

/-- What a slot that was empty holds after views have come to it. -/
def stored (name : String) (adds : List Addition) : Option Slot :=
  adds.foldl (fun old a => some (Registry.merged old name a.view)) none

@[simp] theorem stored_snoc (name : String) (adds : List Addition) (a : Addition) :
    stored name (adds ++ [a]) = some (Registry.merged (stored name adds) name a.view) := by
  simp [stored]

/-- A slot holds the last addition of each identity, each once, and it holds several views where
there have been several identities. -/
structure HoldsLast (adds : List Addition) (slot : Slot) : Prop where
  distinct : (slot.candidates.map Candidate.phash).Nodup
  mem_iff : ∀ c, c ∈ slot.candidates ↔ ∃ a, LastOf adds a ∧ c = a.candidate
  single_iff : (∃ v, slot = .single v) ↔ ∀ a ∈ adds, ∀ b ∈ adds, a.phash = b.phash

/-- Every view comes with what it says of itself. -/
def Own (adds : List Addition) : Prop := ∀ a ∈ adds, ∃ v : View, a = v.addition

/-- Views of one identity have one media type. -/
def SameTypes (adds : List Addition) : Prop :=
  ∀ a ∈ adds, ∀ b ∈ adds, a.phash = b.phash → a.accept = b.accept

/-- A candidate is one of the views that came. -/
theorem exists_view_of_mem (hown : Own adds)
    (hmem : ∀ c, c ∈ slot.candidates ↔ ∃ a, LastOf adds a ∧ c = a.candidate)
    (hc : c ∈ slot.candidates) : ∃ v : View, v.addition ∈ adds ∧ c = v.candidate := by
  obtain ⟨a, hlast, rfl⟩ := (hmem c).mp hc
  obtain ⟨v, rfl⟩ := hown a hlast.mem
  exact ⟨v, hlast.mem, rfl⟩

theorem distinct_of_mem_iff (hown : Own adds) (htypes : SameTypes adds) (htidy : slot.Tidy)
    (hmem : ∀ c, c ∈ slot.candidates ↔ ∃ a, LastOf adds a ∧ c = a.candidate) :
    (slot.candidates.map Candidate.phash).Nodup := by
  refine nodup_candidates htidy fun c hc d hd heq => ?_
  obtain ⟨u, hu, rfl⟩ := exists_view_of_mem hown hmem hc
  obtain ⟨w, hw, rfl⟩ := exists_view_of_mem hown hmem hd
  exact htypes _ hu _ hw heq

theorem mem_iff_snoc (name : String) (hown : Own adds)
    (htypes : SameTypes (adds ++ [v.addition])) (htidy : slot.Tidy)
    (hmem : ∀ c, c ∈ slot.candidates ↔ ∃ a, LastOf adds a ∧ c = a.candidate) (c : Candidate) :
    c ∈ (Registry.merged (some slot) name v).candidates ↔
      ∃ a, LastOf (adds ++ [v.addition]) a ∧ c = a.candidate := by
  rw [Registry.mem_candidates_merged htidy name, hmem]
  · constructor
    · rintro (rfl | ⟨⟨a, hlast, rfl⟩, hne⟩)
      · exact ⟨v.addition, MultiView.lastOf_snoc_iff.mpr (Or.inl rfl), rfl⟩
      · exact ⟨a, MultiView.lastOf_snoc_iff.mpr (Or.inr ⟨hlast, hne⟩), rfl⟩
    · rintro ⟨a, hlast, rfl⟩
      rcases MultiView.lastOf_snoc_iff.mp hlast with rfl | ⟨hlast, hne⟩
      · exact Or.inl rfl
      · exact Or.inr ⟨⟨a, hlast, rfl⟩, hne⟩
  · intro c hc heq
    obtain ⟨u, hu, rfl⟩ := exists_view_of_mem hown hmem hc
    exact htypes u.addition (List.mem_append_left _ hu) v.addition (by simp) heq

/-- A slot goes on holding one view as long as those that come have its identity. -/
theorem single_iff_snoc (hown : Own adds)
    (hmem : ∀ c, c ∈ slot.candidates ↔ ∃ a, LastOf adds a ∧ c = a.candidate)
    (hsingle : (∃ u, slot = .single u) ↔ ∀ a ∈ adds, ∀ b ∈ adds, a.phash = b.phash) :
    (∃ u, Registry.merged (some slot) name v = .single u) ↔
      ∀ a ∈ adds ++ [v.addition], ∀ b ∈ adds ++ [v.addition], a.phash = b.phash := by
  cases slot with
  | single u =>
      have hall := hsingle.mp ⟨u, rfl⟩
      obtain ⟨w, hw, hcandidate⟩ := exists_view_of_mem hown hmem List.mem_cons_self
      have hphash : w.addition.phash = u.phash := (congrArg Candidate.phash hcandidate).symm
      rw [Registry.merged]
      split
      · next heq =>
        refine iff_of_true ⟨v, rfl⟩ ?_
        have hone : ∀ a ∈ adds ++ [v.addition], a.phash = v.phash := by
          intro a ha
          rcases List.mem_append.mp ha with ha | ha
          · rw [hall a ha _ hw, hphash, heq]
          · rw [List.mem_singleton.mp ha]
            rfl
        exact fun a ha b hb => (hone a ha).trans (hone b hb).symm
      · next hne =>
        refine iff_of_false (fun ⟨u, hu⟩ => nomatch hu) fun hsame => hne ?_
        rw [← hphash]
        exact hsame _ (List.mem_append_left _ hw) v.addition (by simp)
  | multi m =>
      refine iff_of_false (fun ⟨u, hu⟩ => nomatch hu) fun hsame => ?_
      obtain ⟨u, hu⟩ := hsingle.mpr fun a ha b hb =>
        hsame a (List.mem_append_left _ ha) b (List.mem_append_left _ hb)
      cases hu

theorem holdsLast_singleton (v : View) : HoldsLast [v.addition] (.single v) where
  distinct := List.nodup_singleton _
  mem_iff c := by
    rw [candidates, List.mem_singleton]
    constructor
    · rintro rfl
      exact ⟨v.addition, ⟨[], [], rfl, fun b hb => absurd hb List.not_mem_nil⟩, rfl⟩
    · rintro ⟨a, hlast, rfl⟩
      rw [List.mem_singleton.mp hlast.mem]
      rfl
  single_iff := by
    refine iff_of_true ⟨v, rfl⟩ fun a ha b hb => ?_
    rw [List.mem_singleton.mp ha, List.mem_singleton.mp hb]

/-- After views have come to an empty slot, it holds the last one of each identity. -/
theorem holdsLast_stored (name : String) (hown : Own adds) (htypes : SameTypes adds)
    (hsome : adds ≠ []) : ∃ slot, stored name adds = some slot ∧ HoldsLast adds slot := by
  suffices hstored : ∃ slot, stored name adds = some slot ∧ slot.Tidy ∧ HoldsLast adds slot by
    obtain ⟨slot, hslot, -, hholds⟩ := hstored
    exact ⟨slot, hslot, hholds⟩
  -- tidiness is what the next view needs to find its place
  induction adds using List.reverseRecOn with
  | nil => exact absurd rfl hsome
  | append_singleton adds a ih =>
      obtain ⟨v, rfl⟩ := hown a (by simp)
      rw [stored_snoc]
      by_cases hnil : adds = []
      · subst hnil
        exact ⟨.single v, rfl, trivial, holdsLast_singleton v⟩
      · have hown' : Own adds := fun a ha => hown a (List.mem_append_left _ ha)
        have htypes' : SameTypes adds := fun a ha b hb =>
          htypes a (List.mem_append_left _ ha) b (List.mem_append_left _ hb)
        obtain ⟨slot, hslot, htidy, hholds⟩ := ih hown' htypes' hnil
        rw [hslot]
        have htidy' := Registry.tidy_merged htidy name v
        have hmem := mem_iff_snoc name hown' htypes htidy hholds.mem_iff
        exact ⟨_, rfl, htidy', distinct_of_mem_iff hown htypes htidy' hmem, hmem,
          single_iff_snoc hown' hholds.mem_iff hholds.single_iff⟩

end Slot

end WebDispatch
