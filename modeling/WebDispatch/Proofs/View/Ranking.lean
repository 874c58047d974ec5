import Mathlib.Data.List.Induction
import WebDispatch.Proofs.Sorting
import WebDispatch.View.Multi

/-!
# Ranked buckets

The views of a slot are kept in buckets, one for each media type and one for all others. A bucket is
ranked when its orders ascend, so that the candidate tried first has the lowest. A newcomer sorts
its bucket; a candidate that replaces another is put in its place, whatever its own order. So adding
keeps a bucket ranked exactly when the candidate fits its place (`ranked_insertRanked_iff_fits`), and
the buckets stay ranked throughout a run exactly when every candidate does.
-/

namespace WebDispatch

namespace Candidate

/-- Orders ascend. -/
def Ranked (bucket : List Candidate) : Prop := bucket.Pairwise fun c d => c.order ≤ d.order

/-- Where a candidate of the same identity stands in a bucket, those before it have no higher and
those after it no lower order than this one. A newcomer fits anywhere. -/
def Fits (c : Candidate) (bucket : List Candidate) : Prop :=
  ∀ before d after, bucket = before ++ d :: after → d.phash = c.phash →
    (∀ e ∈ before, e.phash ≠ c.phash) →
    (∀ e ∈ before, e.order ≤ c.order) ∧ ∀ e ∈ after, c.order ≤ e.order

/-- A newcomer to a bucket, or a candidate that fits between others that are ranked. -/
def LeavesRanked (c : Candidate) (bucket : List Candidate) : Prop :=
  (∀ d ∈ bucket, d.phash ≠ c.phash) ∨
    Ranked (bucket.eraseP fun d => d.phash = c.phash) ∧ c.Fits bucket

/-! ## One bucket -/

theorem replaceFirst_append {c d : Candidate} {before after : List Candidate}
    (hd : d.phash = c.phash) (hbefore : ∀ e ∈ before, e.phash ≠ c.phash) :
    replaceFirst c (before ++ d :: after) = before ++ c :: after := by
  induction before with
  | nil => simp [replaceFirst, hd]
  | cons e before ih =>
      have he : e.phash ≠ c.phash := hbefore e List.mem_cons_self
      rw [List.cons_append, replaceFirst, if_neg he,
        ih fun f hf => hbefore f (List.mem_cons_of_mem e hf), List.cons_append]

theorem insertRanked_of_new {c : Candidate} {bucket : List Candidate}
    (h : ∀ d ∈ bucket, d.phash ≠ c.phash) :
    c.insertRanked bucket = (bucket ++ [c]).mergeSort comesBefore := by
  rw [insertRanked, if_neg]
  simpa using h

theorem insertRanked_of_replaces {c d : Candidate} {before after : List Candidate}
    (hd : d.phash = c.phash) (hbefore : ∀ e ∈ before, e.phash ≠ c.phash) :
    c.insertRanked (before ++ d :: after) = before ++ c :: after := by
  rw [insertRanked, if_pos, replaceFirst_append hd hbefore]
  simp [hd]

/-- A candidate is a newcomer to a bucket, or replaces the first of its identity. -/
theorem new_or_replaces (c : Candidate) (bucket : List Candidate) :
    (∀ d ∈ bucket, d.phash ≠ c.phash) ∨
      ∃ before d after, bucket = before ++ d :: after ∧ d.phash = c.phash ∧
        ∀ e ∈ before, e.phash ≠ c.phash := by
  cases h : bucket.find? fun d => d.phash = c.phash with
  | none =>
      rw [List.find?_eq_none] at h
      exact Or.inl fun d hd => by simpa using h d hd
  | some d =>
      obtain ⟨hd, before, after, hbucket, hbefore⟩ := List.find?_eq_some_iff_append.mp h
      refine Or.inr ⟨before, d, after, hbucket, by simpa using hd, ?_⟩
      exact fun e he => by simpa using hbefore e he

theorem ranked_mergeSort (bucket : List Candidate) : Ranked (bucket.mergeSort comesBefore) := by
  have hsorted : (bucket.mergeSort comesBefore).Pairwise fun c d => comesBefore c d = true :=
    List.pairwise_mergeSort (Sorting.rank_trans Candidate.order) (Sorting.rank_total _) bucket
  exact hsorted.imp fun h => of_decide_eq_true h

theorem ranked_middle_iff {before after : List Candidate} {d : Candidate} :
    Ranked (before ++ d :: after) ↔
      Ranked (before ++ after) ∧
        (∀ e ∈ before, e.order ≤ d.order) ∧ ∀ e ∈ after, d.order ≤ e.order := by
  simp only [Ranked, List.pairwise_append, List.pairwise_cons, List.forall_mem_cons]
  constructor
  · rintro ⟨hbefore, ⟨hd, hafter⟩, hcross⟩
    exact ⟨⟨hbefore, hafter, fun e he => (hcross e he).2⟩, fun e he => (hcross e he).1, hd⟩
  · rintro ⟨⟨hbefore, hafter, hcross⟩, hbelow, habove⟩
    exact ⟨hbefore, ⟨habove, hafter⟩, fun e he => ⟨hbelow e he, hcross e he⟩⟩

theorem fits_of_new {c : Candidate} {bucket : List Candidate}
    (h : ∀ d ∈ bucket, d.phash ≠ c.phash) : c.Fits bucket := by
  rintro before d after rfl hd
  exact absurd hd (h d (by simp))

/-- A newcomer leaves its bucket ranked. A candidate that replaces another does exactly when those
that stay are ranked and it fits the place. -/
theorem ranked_insertRanked_iff {c : Candidate} {bucket : List Candidate} :
    Ranked (c.insertRanked bucket) ↔ c.LeavesRanked bucket := by
  unfold LeavesRanked
  rcases new_or_replaces c bucket with hnew | ⟨before, d, after, rfl, hd, hbefore⟩
  · rw [insertRanked_of_new hnew]
    exact iff_of_true (ranked_mergeSort _) (Or.inl hnew)
  · have herase : (before ++ d :: after).eraseP (fun d => d.phash = c.phash) = before ++ after := by
      rw [List.eraseP_append_right _ (by simpa using hbefore), List.eraseP_cons_of_pos (by simpa)]
    rw [insertRanked_of_replaces hd hbefore, ranked_middle_iff, herase]
    constructor
    · rintro ⟨hothers, hplace⟩
      refine Or.inr ⟨hothers, ?_⟩
      intro before' d' after' hbucket hd' hbefore'
      have hsame : before ++ c :: after = before' ++ c :: after' := by
        rw [← insertRanked_of_replaces hd hbefore, hbucket, insertRanked_of_replaces hd' hbefore']
      have hranked : Ranked (before' ++ c :: after') := by
        rw [← hsame]
        exact ranked_middle_iff.mpr ⟨hothers, hplace⟩
      exact (ranked_middle_iff.mp hranked).2
    · rintro (hnew | ⟨hothers, hfits⟩)
      · exact absurd hd (hnew d (by simp))
      · exact ⟨hothers, hfits before d after rfl hd hbefore⟩

/-- Adding a candidate keeps a bucket ranked exactly when the candidate fits its place. -/
theorem ranked_insertRanked_iff_fits {c : Candidate} {bucket : List Candidate}
    (h : Ranked bucket) : Ranked (c.insertRanked bucket) ↔ c.Fits bucket := by
  rw [ranked_insertRanked_iff]
  constructor
  · rintro (hnew | ⟨-, hfits⟩)
    · exact fits_of_new hnew
    · exact hfits
  · intro hfits
    exact Or.inr ⟨h.sublist List.eraseP_sublist, hfits⟩

end Candidate

namespace MultiView

/-! ## All buckets -/

/-- The media type of the bucket that a view goes to; none for views without a type of their own. -/
def mediaType? (accept : Option String) : Option String :=
  accept.filter fun a => !Text.hasChar a '*'

def bucket (m : MultiView) : Option String → List Candidate
  | none => m.candidates
  | some type => (m.mediaCandidates.get? type).getD []

def Ranked (m : MultiView) : Prop := ∀ type, Candidate.Ranked (m.bucket type)

/-- A view goes to its bucket, and leaves the others as they are. -/
theorem bucket_add (m : MultiView) (view : View) (order : Nat) (phash : String)
    (accept type : Option String) :
    (m.add view order phash accept).bucket type =
      if mediaType? accept = type then
        (⟨order, view, phash⟩ : Candidate).insertRanked (m.bucket type)
      else m.bucket type := by
  unfold add mediaType?
  cases accept.filter fun a => !Text.hasChar a '*' with
  | none =>
      cases type with
      | none => rfl
      | some b => rfl
  | some a =>
      cases type with
      | none => rfl
      | some b =>
          simp only [bucket, OrderedMap.get?_alter, Option.some.injEq]
          by_cases hab : a = b
          · simp [hab]
          · simp [hab]

/-! ## Runs -/

/-- What is given when a view is added. -/
structure Addition where
  view : View
  order : Nat
  phash : String
  accept : Option String := none

def Addition.candidate (a : Addition) : Candidate := ⟨a.order, a.view, a.phash⟩

def ofAdditions (name : String) (adds : List Addition) : MultiView :=
  adds.foldl (fun m a => m.add a.view a.order a.phash a.accept) { name := name }

@[simp] theorem ofAdditions_snoc (name : String) (adds : List Addition) (a : Addition) :
    ofAdditions name (adds ++ [a]) =
      (ofAdditions name adds).add a.view a.order a.phash a.accept := by
  simp [ofAdditions]

theorem ranked_nil (name : String) : (ofAdditions name []).Ranked := by
  intro type
  cases type with
  | none => exact List.Pairwise.nil
  | some a => exact List.Pairwise.nil

theorem ranked_add_iff {m : MultiView} {a : Addition} :
    (m.add a.view a.order a.phash a.accept).Ranked ↔
      (∀ type, type ≠ mediaType? a.accept → Candidate.Ranked (m.bucket type)) ∧
        Candidate.Ranked (a.candidate.insertRanked (m.bucket (mediaType? a.accept))) := by
  constructor
  · intro hranked
    refine ⟨?_, ?_⟩
    · intro type htype
      have hbucket := hranked type
      rwa [bucket_add, if_neg (Ne.symm htype)] at hbucket
    · have hbucket := hranked (mediaType? a.accept)
      rwa [bucket_add, if_pos rfl] at hbucket
  · rintro ⟨hothers, hbucket⟩ type
    rw [bucket_add]
    split
    · next htype => exact htype ▸ hbucket
    · next htype => exact hothers type (Ne.symm htype)

/-- One addition keeps the buckets ranked exactly when its candidate fits. -/
theorem ranked_snoc_iff {name : String} {adds : List Addition} {a : Addition}
    (h : (ofAdditions name adds).Ranked) :
    (ofAdditions name (adds ++ [a])).Ranked ↔
      a.candidate.Fits ((ofAdditions name adds).bucket (mediaType? a.accept)) := by
  rw [ofAdditions_snoc, ranked_add_iff, Candidate.ranked_insertRanked_iff_fits (h _)]
  exact and_iff_right fun type _ => h type

/-- **Ranked throughout.** Over any run of additions, all buckets are ranked at every moment exactly
when every added candidate fits the place that it takes. After any run, they are ranked exactly when
the other buckets were so before the last addition and its candidate leaves its own ranked. The
first candidate of a ranked bucket has the lowest order in it. -/
theorem ranked_throughout_iff (name : String) (adds : List Addition) :
    ((∀ done later, adds = done ++ later → (ofAdditions name done).Ranked) ↔
      ∀ done a later, adds = done ++ a :: later →
        a.candidate.Fits ((ofAdditions name done).bucket (mediaType? a.accept))) ∧
    (∀ a, (ofAdditions name (adds ++ [a])).Ranked ↔
      (∀ type, type ≠ mediaType? a.accept →
        Candidate.Ranked ((ofAdditions name adds).bucket type)) ∧
      a.candidate.LeavesRanked ((ofAdditions name adds).bucket (mediaType? a.accept))) ∧
    ∀ m : MultiView, m.Ranked → ∀ type first rest, m.bucket type = first :: rest →
      ∀ c ∈ rest, first.order ≤ c.order := by
  refine ⟨⟨?_, ?_⟩, ?_, ?_⟩
  · rintro hranked done a later rfl
    have hnext := hranked (done ++ [a]) later (by simp)
    exact (ranked_snoc_iff (hranked done (a :: later) rfl)).mp hnext
  · intro hfits done
    -- the additions so far are taken away from the end
    induction done using List.reverseRecOn with
    | nil => exact fun _ _ => ranked_nil name
    | append_singleton done a ih =>
        intro later hadds
        rw [List.append_assoc, List.singleton_append] at hadds
        exact (ranked_snoc_iff (ih (a :: later) hadds)).mpr (hfits done a later hadds)
  · intro a
    rw [ofAdditions_snoc, ranked_add_iff, Candidate.ranked_insertRanked_iff]
  · intro m hm type first rest hbucket c hc
    have hranked := hm type
    rw [hbucket] at hranked
    exact (List.pairwise_cons.mp hranked).1 c hc

/-- A candidate that comes back with a higher order keeps its place before one of lower order. -/
theorem not_ranked_after_higher_order :
    ¬(ofAdditions "" [⟨default, 1, "a", none⟩, ⟨default, 2, "b", none⟩,
      ⟨default, 3, "a", none⟩]).Ranked := by
  intro h
  have hbucket := h none
  have hsorted : [(⟨1, default, "a"⟩ : Candidate), ⟨2, default, "b"⟩].mergeSort
      Candidate.comesBefore = [⟨1, default, "a"⟩, ⟨2, default, "b"⟩] :=
    List.mergeSort_of_pairwise (by simp [Candidate.comesBefore])
  simp [ofAdditions, add, bucket, Candidate.insertRanked, Candidate.replaceFirst, hsorted,
    Candidate.Ranked] at hbucket

end MultiView

end WebDispatch
