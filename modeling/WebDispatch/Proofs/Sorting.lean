import Mathlib.Data.List.Forall2

/-!
# Sorting by rank

Candidates for a request are sorted by their order and sources of settings by their priority. Both
are ranks that several members of a list may share, and it matters in which order these stand.

* `rank_trans`, `rank_total` — any two members of a list can be sorted by rank;
* `level_mergeSort` — those of one rank keep their order;
* `forall₂_mergeSort` — lists of equal ranks, member by member, are sorted alike.
-/

namespace WebDispatch.Sorting

variable {α : Type} (rank : α → Nat)

theorem rank_trans (a b c : α) (hab : decide (rank a ≤ rank b) = true)
    (hbc : decide (rank b ≤ rank c) = true) : decide (rank a ≤ rank c) = true :=
  decide_eq_true (Nat.le_trans (of_decide_eq_true hab) (of_decide_eq_true hbc))

theorem rank_total (a b : α) :
    (decide (rank a ≤ rank b) || decide (rank b ≤ rank a)) = true := by
  rw [Bool.or_eq_true, decide_eq_true_eq, decide_eq_true_eq]
  exact Nat.le_total _ _

def level (l : List α) (k : Nat) : List α := l.filter fun a => rank a = k

variable {rank}

@[simp] theorem mem_level_iff {l : List α} {k : Nat} {a : α} :
    a ∈ level rank l k ↔ a ∈ l ∧ rank a = k := by
  rw [level, List.mem_filter, decide_eq_true_eq]

/-- Sorting is stable. -/
@[simp] theorem level_mergeSort (l : List α) (k : Nat) :
    level rank (l.mergeSort fun a b => rank a ≤ rank b) k = level rank l k := by
  have hequal : (level rank l k).Pairwise fun a b => decide (rank a ≤ rank b) = true := by
    refine List.pairwise_of_forall_mem_list fun a ha b hb => decide_eq_true ?_
    exact Nat.le_of_eq ((mem_level_iff.mp ha).2.trans (mem_level_iff.mp hb).2.symm)
  have hsub : (level rank (level rank l k) k).Sublist
      (level rank (l.mergeSort fun a b => rank a ≤ rank b) k) :=
    (List.sublist_mergeSort (rank_trans rank) (rank_total rank) hequal
      List.filter_sublist).filter _
  have hlevel : level rank (level rank l k) k = level rank l k := by
    rw [level, level, List.filter_filter]
    simp only [Bool.and_self]
  rw [hlevel] at hsub
  refine (hsub.eq_of_length ?_).symm
  exact ((List.mergeSort_perm l _).filter _).length_eq.symm

theorem forall₂_mergeSort {R : α → α → Prop} (hrank : ∀ a b, R a b → rank a = rank b)
    {l l' : List α} (h : List.Forall₂ R l l') :
    List.Forall₂ R (l.mergeSort fun a b => rank a ≤ rank b)
      (l'.mergeSort fun a b => rank a ≤ rank b) := by
  have hpairs : ∀ p ∈ l.zip l', R p.1 p.2 := fun p hp => List.forall₂_zip h hp
  have hlength := h.length_eq
  -- both are sorted by sorting their pairs, by the ranks on the left
  have hleft := List.map_mergeSort (r := fun p q : α × α => rank p.1 ≤ rank q.1)
    (s := fun a b => decide (rank a ≤ rank b)) (f := Prod.fst) (l := l.zip l') fun _ _ _ _ => rfl
  have hright := List.map_mergeSort (r := fun p q : α × α => rank p.1 ≤ rank q.1)
    (s := fun a b => decide (rank a ≤ rank b)) (f := Prod.snd) (l := l.zip l') fun p hp q hq => by
      rw [hrank _ _ (hpairs p hp), hrank _ _ (hpairs q hq)]
  rw [List.map_fst_zip (Nat.le_of_eq hlength)] at hleft
  rw [List.map_snd_zip (Nat.le_of_eq hlength.symm)] at hright
  rw [← hleft, ← hright, List.forall₂_map_left_iff, List.forall₂_map_right_iff, List.forall₂_same]
  exact fun p hp => hpairs p (List.mem_mergeSort.mp hp)

end WebDispatch.Sorting
