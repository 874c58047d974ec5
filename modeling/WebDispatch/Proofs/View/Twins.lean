import WebDispatch.Proofs.View.Ranking
import WebDispatch.Registry

/-!
# Slots that hold related views

Two slots to which related views came in the same order hold related views in the same places. What
the views are related by may be anything, as long as it leaves them the same rank, the same identity
and the same media type.

* `Candidate.Related`, `MultiView.Related`, `Slot.Related` — a relation of views, lifted to what
  holds them;
* `related_insertRanked`, `related_add`, `related_merged` — one more view on both sides;
* `forall₂_views`, `rel_find?` — the views that are tried, and the one that is found.
-/

namespace WebDispatch

variable {R S : View → View → Prop}

/-! ## Candidates -/

/-- Candidates of the same rank and identity, whose views are related. -/
structure Candidate.Related (R : View → View → Prop) (c c' : Candidate) : Prop where
  order : c.order = c'.order
  phash : c.phash = c'.phash
  view : R c.view c'.view

namespace Candidate

variable {c c' : Candidate} {bucket bucket' : List Candidate}

theorem Related.mono (hRS : ∀ v v', R v v' → S v v') (h : c.Related R c') : c.Related S c' :=
  ⟨h.order, h.phash, hRS _ _ h.view⟩

theorem any_phash_eq (hc : c.phash = c'.phash) (h : List.Forall₂ (Related R) bucket bucket') :
    (bucket.any fun d => d.phash = c.phash) = bucket'.any fun d => d.phash = c'.phash := by
  induction h with
  | nil => rfl
  | cons hd _ ih => rw [List.any_cons, List.any_cons, ih, hd.phash, hc]

theorem related_replaceFirst (hc : Related R c c') (h : List.Forall₂ (Related R) bucket bucket') :
    List.Forall₂ (Related R) (replaceFirst c bucket) (replaceFirst c' bucket') := by
  induction h with
  | nil => exact .nil
  | @cons d d' rest rest' hd hrest ih =>
      have hsame : d.phash = c.phash ↔ d'.phash = c'.phash := by rw [hd.phash, hc.phash]
      by_cases hphash : d.phash = c.phash
      · rw [replaceFirst, replaceFirst, if_pos hphash, if_pos (hsame.mp hphash)]
        exact .cons hc hrest
      · rw [replaceFirst, replaceFirst, if_neg hphash, if_neg (mt hsame.mpr hphash)]
        exact .cons hd ih

theorem related_insertRanked (hc : Related R c c')
    (h : List.Forall₂ (Related R) bucket bucket') :
    List.Forall₂ (Related R) (c.insertRanked bucket) (c'.insertRanked bucket') := by
  have hsorted : List.Forall₂ (Related R) ((bucket ++ [c]).mergeSort comesBefore)
      ((bucket' ++ [c']).mergeSort comesBefore) :=
    Sorting.forall₂_mergeSort (fun _ _ hd => hd.order) (List.rel_append h (.cons hc .nil))
  unfold insertRanked
  rw [any_phash_eq hc.phash h]
  split
  · exact related_replaceFirst hc h
  · exact hsorted

end Candidate

/-! ## Several views -/

namespace MultiView

variable {m m' : MultiView}

/-- Slots that know the same media types and hold related candidates for each. -/
structure Related (R : View → View → Prop) (m m' : MultiView) : Prop where
  name : m.name = m'.name
  accepts : m.accepts = m'.accepts
  buckets : ∀ type, List.Forall₂ (Candidate.Related R) (m.bucket type) (m'.bucket type)

theorem Related.mono (hRS : ∀ v v', R v v' → S v v') (h : m.Related R m') : m.Related S m' where
  name := h.name
  accepts := h.accepts
  buckets type := (h.buckets type).imp fun _ _ => Candidate.Related.mono hRS

theorem Related.mismatch_eq (h : m.Related R m') : m.mismatch = m'.mismatch := by
  rw [mismatch, mismatch, h.name]

theorem related_empty (name : String) : Related R { name := name } { name := name } where
  name := rfl
  accepts := rfl
  buckets type := by cases type <;> exact .nil

@[simp] theorem name_add (m : MultiView) (v : View) (order : Nat) (phash : String)
    (accept : Option String) : (m.add v order phash accept).name = m.name := by
  unfold add
  dsimp only
  split <;> rfl

theorem accepts_add_congr (h : m.accepts = m'.accepts) (v v' : View) (order : Nat) (phash : String)
    (accept : Option String) :
    (m.add v order phash accept).accepts = (m'.add v' order phash accept).accepts := by
  unfold add
  dsimp only
  split
  · show (if m.accepts.contains _ then m.accepts else m.accepts ++ [_]) =
      if m'.accepts.contains _ then m'.accepts else m'.accepts ++ [_]
    rw [h]
  · exact h

theorem related_add (hm : Related R m m') {v v' : View} (hv : R v v') (order : Nat)
    (phash : String) (accept : Option String) :
    Related R (m.add v order phash accept) (m'.add v' order phash accept) where
  name := (name_add m v order phash accept).trans (hm.name.trans (name_add m' v' _ _ _).symm)
  accepts := accepts_add_congr hm.accepts v v' order phash accept
  buckets type := by
    rw [bucket_add, bucket_add]
    split
    · exact Candidate.related_insertRanked ⟨rfl, rfl, hv⟩ (hm.buckets type)
    · exact hm.buckets type

/-- The same media types are negotiated, so that the same buckets are tried. -/
theorem forall₂_views (hm : Related R m m') {r s : Request} (haccept : r.accept = s.accept) :
    List.Forall₂ R (m.views r) (m'.views s) := by
  have hbuckets : List.Forall₂ (Candidate.Related R)
      ((preferred r.accept m.accepts).flatMap (fun type => m.bucket (some type)) ++ m.bucket none)
      ((preferred s.accept m'.accepts).flatMap (fun type => m'.bucket (some type)) ++
        m'.bucket none) := by
    rw [haccept, hm.accepts]
    refine List.rel_append ?_ (hm.buckets none)
    induction preferred s.accept m'.accepts with
    | nil => exact .nil
    | cons type types ih =>
        rw [List.flatMap_cons, List.flatMap_cons]
        exact List.rel_append (hm.buckets (some type)) ih
  exact List.rel_map (fun _ _ hc => hc.view) hbuckets

theorem rel_find? {views views' : List View} (h : List.Forall₂ R views views')
    {p p' : View → Bool} (hp : ∀ v v', R v v' → p v = p' v') :
    Option.Rel R (views.find? p) (views'.find? p') := by
  induction h with
  | nil => exact .none
  | @cons v v' rest rest' hv _ ih =>
      rw [List.find?_cons, List.find?_cons, hp v v' hv]
      cases p' v' with
      | true => exact .some hv
      | false => exact ih

end MultiView

/-! ## Slots -/

/-- Slots that hold one related view each, or related ones in the same places. -/
inductive Slot.Related (R : View → View → Prop) : Slot → Slot → Prop
  | single {v v' : View} (h : R v v') : Related R (.single v) (.single v')
  | multi {m m' : MultiView} (h : m.Related R m') : Related R (.multi m) (.multi m')

theorem Slot.Related.mono {s s' : Slot} (hRS : ∀ v v', R v v' → S v v') (h : s.Related R s') :
    s.Related S s' := by
  cases h with
  | single hv => exact .single (hRS _ _ hv)
  | multi hm => exact .multi (hm.mono hRS)

/-- Views that compete alike. -/
structure View.CompetesLike (v v' : View) : Prop where
  order : v.order = v'.order
  phash : v.phash = v'.phash
  accept : v.accept = v'.accept

namespace Registry

variable {old old' : Option Slot} {v v' : View}

theorem related_merged (hR : ∀ u u', R u u' → u.CompetesLike u')
    (hold : Option.Rel (Slot.Related R) old old') (name : String) (hv : R v v') :
    (merged old name v).Related R (merged old' name v') := by
  have hsame := hR v v' hv
  have hjoin {m m' : MultiView} (hm : m.Related R m') :
      (Slot.multi (m.add v v.order v.phash v.accept)).Related R
        (.multi (m'.add v' v'.order v'.phash v'.accept)) := by
    rw [hsame.order, hsame.phash, hsame.accept]
    exact .multi (MultiView.related_add hm hv _ _ _)
  cases hold with
  | none => exact .single hv
  | some hslot =>
      cases hslot with
      | @single u u' hu =>
          have hold := hR u u' hu
          have hidentity : u.phash = v.phash ↔ u'.phash = v'.phash := by
            rw [hold.phash, hsame.phash]
          show Slot.Related R (if u.phash = v.phash then _ else _)
            (if u'.phash = v'.phash then _ else _)
          rw [if_congr hidentity rfl rfl]
          split
          · exact .single hv
          · refine hjoin ?_
            rw [hold.order, hold.phash, hold.accept]
            exact MultiView.related_add (MultiView.related_empty name) hu _ _ _
      | multi hm => exact hjoin hm

/-- A related view on both sides leaves the slots related. -/
theorem related_addView {r r' : Registry} (hR : ∀ u u', R u u' → u.CompetesLike u')
    (h : ∀ key, Option.Rel (Slot.Related R) (r.views.get? key) (r'.views.get? key)) (key : ViewKey)
    (hv : R v v') (k : ViewKey) :
    Option.Rel (Slot.Related R) ((r.addView key v).views.get? k)
      ((r'.addView key v').views.get? k) := by
  simp only [get?_addView]
  split
  · exact .some (related_merged hR (h key) key.name hv)
  · exact h k

/-- The same slots are occupied, so that the first ones are related. -/
theorem rel_findSome? {r r' : Registry}
    (h : ∀ key, Option.Rel (Slot.Related R) (r.views.get? key) (r'.views.get? key))
    (grid : List ViewKey) :
    Option.Rel (Slot.Related R) (grid.findSome? r.views.get?) (grid.findSome? r'.views.get?) := by
  induction grid with
  | nil => exact .none
  | cons k grid ih =>
      rw [List.findSome?_cons, List.findSome?_cons]
      have hk := h k
      generalize r.views.get? k = slot, r'.views.get? k = slot' at hk ⊢
      cases hk with
      | none => exact ih
      | some hslot => exact .some hslot

end Registry

end WebDispatch
