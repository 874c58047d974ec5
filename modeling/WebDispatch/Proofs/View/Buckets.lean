import Mathlib.Data.List.Dedup
import WebDispatch.Proofs.View.Contents

/-!
# What a bucket holds

The views of a slot come to buckets, one for each media type and one for all others. Over any run of
additions a bucket holds one candidate for each identity that came to it, the last one of it. Where
an identity always comes with the same rank, a replacement fits its place, so that the bucket stays
in the order of the ranks; candidates of one rank stand in the order in which their identities first
came.

* `history` — the additions that go to a bucket; `Earlier` — which identity came first;
* `Contents` — what a bucket holds after its history; `Contents.add` — one more addition;
* `size_add` — the number of views grows by new identities;
* `bucket_contents` — the buckets after any run.
-/

namespace WebDispatch

namespace OrderedMap

variable {κ β : Type} [DecidableEq κ]

theorem length_flatten_insertEntry (k : κ) (new : List β) (entries : List (κ × List β)) :
    ((insertEntry k new entries).map (·.2)).flatten.length +
        (((entries.find? fun e => e.1 = k).map (·.2)).getD []).length =
      (entries.map (·.2)).flatten.length + new.length := by
  induction entries with
  | nil => simp [insertEntry]
  | cons e rest ih =>
      by_cases h : e.1 = k
      · rw [insertEntry, if_pos h]
        simp only [List.find?_cons, h, decide_true, List.map_cons, List.flatten_cons,
          List.length_append, Option.map_some, Option.getD_some]
        omega
      · rw [insertEntry, if_neg h]
        simp only [List.find?_cons, h, decide_false, List.map_cons, List.flatten_cons,
          List.length_append]
        omega

/-- The lists of a map grow by as much as the one that is altered. -/
theorem length_flatten_alter (m : OrderedMap κ (List β)) (k : κ) (f : List β → List β) :
    (m.alter k [] f).values.flatten.length + ((m.get? k).getD []).length =
      m.values.flatten.length + (f ((m.get? k).getD [])).length :=
  length_flatten_insertEntry k _ m.toList

end OrderedMap

namespace Candidate

variable {c : Candidate} {bucket : List Candidate}

def level (bucket : List Candidate) (rank : Nat) : List Candidate :=
  bucket.filter fun c => c.order = rank

@[simp] theorem level_mergeSort (bucket : List Candidate) (rank : Nat) :
    level (bucket.mergeSort comesBefore) rank = level bucket rank :=
  Sorting.level_mergeSort bucket rank

theorem length_insertRanked (c : Candidate) (bucket : List Candidate) :
    (c.insertRanked bucket).length =
      if c.phash ∈ bucket.map phash then bucket.length else bucket.length + 1 := by
  rcases new_or_replaces c bucket with hnew | ⟨before, d, after, rfl, hd, hbefore⟩
  · rw [insertRanked_of_new hnew, List.length_mergeSort, List.length_append, List.length_singleton,
      if_neg]
    rintro hmem
    obtain ⟨d, hd, heq⟩ := List.mem_map.mp hmem
    exact hnew d hd heq
  · rw [insertRanked_of_replaces hd hbefore, if_pos]
    · simp
    · exact List.mem_map.mpr ⟨d, by simp, hd⟩

end Candidate

namespace MultiView

open Candidate (level)

variable {adds : List Addition} {a : Addition} {bucket : List Candidate} {p q : String}

/-- What was added to the bucket of a media type, the earliest first. -/
def history (adds : List Addition) (type : Option String) : List Addition :=
  adds.filter fun a => mediaType? a.accept = type

/-- Where an addition goes: to its bucket, and there to its identity. -/
def Addition.place (a : Addition) : Option String × String := (mediaType? a.accept, a.phash)

/-- One identity was there at a moment when another had not come yet. -/
def Earlier (adds : List Addition) (p q : String) : Prop :=
  ∃ done later, adds = done ++ later ∧ p ∈ done.map Addition.phash ∧ q ∉ done.map Addition.phash

/-- Each identity always comes with the same rank. -/
def SteadyRanks (adds : List Addition) : Prop :=
  ∀ a ∈ adds, ∀ b ∈ adds, a.phash = b.phash → a.order = b.order

/-- A lower rank, or the same one and an identity that came first. -/
def RanksBefore (adds : List Addition) (c d : Candidate) : Prop :=
  c.order < d.order ∨ c.order = d.order ∧ Earlier adds c.phash d.phash

/-- What a bucket holds after its history. -/
structure Contents (adds : List Addition) (bucket : List Candidate) : Prop where
  /-- There is one candidate for each identity that came. -/
  identities : (bucket.map Candidate.phash).Perm (adds.map Addition.phash).dedup
  /-- It is the last one of its identity. -/
  last : ∀ c ∈ bucket, ∃ a, LastOf adds a ∧ c = a.candidate
  /-- With steady ranks, candidates stand by rank and, within a rank, by who came first. -/
  ranked : SteadyRanks adds → bucket.Pairwise (RanksBefore adds)

/-! ## One more addition -/

theorem Earlier.snoc (h : Earlier adds p q) (a : Addition) : Earlier (adds ++ [a]) p q := by
  obtain ⟨done, later, rfl, hp, hq⟩ := h
  exact ⟨done, later ++ [a], List.append_assoc done later [a], hp, hq⟩

theorem earlier_snoc_of_new (hp : p ∈ adds.map Addition.phash)
    (hnew : a.phash ∉ adds.map Addition.phash) : Earlier (adds ++ [a]) p a.phash :=
  ⟨adds, [a], rfl, hp, hnew⟩

theorem RanksBefore.snoc {c d : Candidate} (h : RanksBefore adds c d) (a : Addition) :
    RanksBefore (adds ++ [a]) c d :=
  h.imp_right fun hsame => ⟨hsame.1, hsame.2.snoc a⟩

theorem SteadyRanks.of_snoc (h : SteadyRanks (adds ++ [a])) : SteadyRanks adds :=
  fun b hb c hc => h b (List.mem_append_left _ hb) c (List.mem_append_left _ hc)

theorem mem_dedup_snoc_iff :
    p ∈ ((adds ++ [a]).map Addition.phash).dedup ↔ p = a.phash ∨ p ∈ adds.map Addition.phash := by
  rw [List.mem_dedup, List.map_append, List.mem_append, List.map_singleton, List.mem_singleton,
    or_comm]

theorem contents_nil : Contents [] [] where
  identities := List.Perm.refl []
  last _ hc := absurd hc List.not_mem_nil
  ranked _ := List.Pairwise.nil

namespace Contents

theorem nodup (h : Contents adds bucket) : (bucket.map Candidate.phash).Nodup :=
  h.identities.nodup_iff.mpr (List.nodup_dedup _)

theorem mem_map_phash_iff (h : Contents adds bucket) :
    p ∈ bucket.map Candidate.phash ↔ p ∈ adds.map Addition.phash :=
  h.identities.mem_iff.trans List.mem_dedup

theorem identities_snoc (h : Contents adds bucket) (a : Addition) :
    ((a.candidate.insertRanked bucket).map Candidate.phash).Perm
      ((adds ++ [a]).map Addition.phash).dedup := by
  rw [List.perm_ext_iff_of_nodup (Candidate.nodup_insertRanked h.nodup) (List.nodup_dedup _)]
  intro p
  rw [mem_dedup_snoc_iff, ← h.mem_map_phash_iff]
  simp only [List.mem_map, Candidate.mem_insertRanked h.nodup]
  constructor
  · rintro ⟨c, rfl | ⟨hc, -⟩, rfl⟩
    · exact Or.inl rfl
    · exact Or.inr ⟨c, hc, rfl⟩
  · rintro (rfl | ⟨c, hc, rfl⟩)
    · exact ⟨a.candidate, Or.inl rfl, rfl⟩
    · by_cases hphash : c.phash = a.phash
      · exact ⟨a.candidate, Or.inl rfl, hphash.symm⟩
      · exact ⟨c, Or.inr ⟨hc, hphash⟩, rfl⟩

theorem last_snoc (h : Contents adds bucket) (a : Addition) :
    ∀ c ∈ a.candidate.insertRanked bucket, ∃ b, LastOf (adds ++ [a]) b ∧ c = b.candidate := by
  intro c hc
  rcases (Candidate.mem_insertRanked h.nodup).mp hc with rfl | ⟨hc, hne⟩
  · exact ⟨a, lastOf_snoc_iff.mpr (Or.inl rfl), rfl⟩
  · obtain ⟨b, hlast, rfl⟩ := h.last c hc
    exact ⟨b, lastOf_snoc_iff.mpr (Or.inr ⟨hlast, hne⟩), rfl⟩

/-- A newcomer stands behind those of its rank, all of which came before it. -/
theorem ranked_of_new (h : Contents adds bucket) (hsteady : SteadyRanks adds)
    (hnew : ∀ d ∈ bucket, d.phash ≠ a.phash) :
    ((bucket ++ [a.candidate]).mergeSort Candidate.comesBefore).Pairwise
      (RanksBefore (adds ++ [a])) := by
  have hearlier : ∀ c ∈ bucket, Earlier (adds ++ [a]) c.phash a.phash := by
    intro c hc
    refine earlier_snoc_of_new (h.mem_map_phash_iff.mp (List.mem_map_of_mem hc)) fun hmem => ?_
    obtain ⟨d, hd, hphash⟩ := List.mem_map.mp (h.mem_map_phash_iff.mpr hmem)
    exact hnew d hd hphash
  have hbefore : (bucket ++ [a.candidate]).Pairwise fun c d =>
      c.order = d.order → Earlier (adds ++ [a]) c.phash d.phash := by
    rw [List.pairwise_append]
    refine ⟨(h.ranked hsteady).imp ?_, List.pairwise_singleton _ _, ?_⟩
    · intro c d hcd hsame
      exact ((hcd.resolve_left (Nat.not_lt.mpr (Nat.le_of_eq hsame.symm))).2).snoc a
    · intro c hc d hd _
      rw [List.mem_singleton.mp hd]
      exact hearlier c hc
  have hrank := Candidate.ranked_mergeSort (bucket ++ [a.candidate])
  rw [Candidate.Ranked, List.pairwise_iff_forall_sublist] at hrank
  rw [List.pairwise_iff_forall_sublist]
  intro c d hcd
  rcases Nat.lt_or_eq_of_le (hrank hcd) with hlt | hsame
  · exact Or.inl hlt
  -- both are of one rank, whose candidates keep their order when they are sorted
  · have hlevel : [c, d].Sublist (level (bucket ++ [a.candidate]) c.order) := by
      rw [← Candidate.level_mergeSort]
      have hfilter := hcd.filter fun e => e.order = c.order
      simpa [level, hsame] using hfilter
    have hpair := hlevel.trans List.filter_sublist
    exact Or.inr ⟨hsame, (List.pairwise_iff_forall_sublist.mp hbefore) hpair hsame⟩

/-- A candidate that replaces another has its rank, and so takes its place. -/
theorem ranked_of_replaces {before after : List Candidate} {d : Candidate}
    (h : Contents adds (before ++ d :: after)) (hsteady : SteadyRanks (adds ++ [a]))
    (hd : d.phash = a.phash) : (before ++ a.candidate :: after).Pairwise
      (RanksBefore (adds ++ [a])) := by
  obtain ⟨b, hlast, rfl⟩ := h.last d (by simp)
  have horder : b.order = a.order :=
    hsteady b (List.mem_append_left _ hlast.mem) a (by simp) hd
  have hsnoc : (before ++ b.candidate :: after).Pairwise (RanksBefore (adds ++ [a])) :=
    (h.ranked hsteady.of_snoc).imp fun hcd => hcd.snoc a
  have hphash : b.candidate.phash = a.candidate.phash := hd
  have hrank : b.candidate.order = a.candidate.order := horder
  simpa only [List.pairwise_append, List.pairwise_cons, List.forall_mem_cons, RanksBefore, hphash,
    hrank] using hsnoc

theorem ranked_snoc (h : Contents adds bucket) (hsteady : SteadyRanks (adds ++ [a])) :
    (a.candidate.insertRanked bucket).Pairwise (RanksBefore (adds ++ [a])) := by
  rcases Candidate.new_or_replaces a.candidate bucket with
    hnew | ⟨before, d, after, rfl, hd, hbefore⟩
  · rw [Candidate.insertRanked_of_new hnew]
    exact h.ranked_of_new hsteady.of_snoc hnew
  · rw [Candidate.insertRanked_of_replaces hd hbefore]
    exact h.ranked_of_replaces hsteady hd

theorem add (h : Contents adds bucket) (a : Addition) :
    Contents (adds ++ [a]) (a.candidate.insertRanked bucket) where
  identities := h.identities_snoc a
  last := h.last_snoc a
  ranked := h.ranked_snoc

end Contents

/-! ## Runs -/

@[simp] theorem history_snoc (adds : List Addition) (a : Addition) (type : Option String) :
    history (adds ++ [a]) type =
      if mediaType? a.accept = type then history adds type ++ [a] else history adds type := by
  rw [history, List.filter_append]
  by_cases htype : mediaType? a.accept = type
  · simp [htype, history]
  · simp [htype, history]

theorem contents_bucket (name : String) (adds : List Addition) (type : Option String) :
    Contents (history adds type) ((ofAdditions name adds).bucket type) := by
  induction adds using List.reverseRecOn with
  | nil => cases type <;> exact contents_nil
  | append_singleton adds a ih =>
      rw [ofAdditions_snoc, bucket_add, history_snoc]
      split
      · exact ih.add a
      · exact ih

/-! ## The number of views -/

/-- The views are as many more as the bucket has grown by. -/
theorem size_add_length (m : MultiView) (a : Addition) :
    (m.add a.view a.order a.phash a.accept).size + (m.bucket (mediaType? a.accept)).length =
      m.size + (a.candidate.insertRanked (m.bucket (mediaType? a.accept))).length := by
  unfold add mediaType?
  cases a.accept.filter fun a => !Text.hasChar a '*' with
  | none =>
      change (a.candidate.insertRanked m.candidates).length +
        m.mediaCandidates.values.flatten.length + m.candidates.length =
        m.candidates.length + m.mediaCandidates.values.flatten.length +
          (a.candidate.insertRanked m.candidates).length
      omega
  | some type =>
      have halter := m.mediaCandidates.length_flatten_alter type a.candidate.insertRanked
      change m.candidates.length +
        (m.mediaCandidates.alter type [] a.candidate.insertRanked).values.flatten.length +
          ((m.mediaCandidates.get? type).getD []).length =
        m.candidates.length + m.mediaCandidates.values.flatten.length +
          (a.candidate.insertRanked ((m.mediaCandidates.get? type).getD [])).length
      omega

theorem size_add (m : MultiView) (a : Addition) :
    (m.add a.view a.order a.phash a.accept).size =
      if a.phash ∈ (m.bucket (mediaType? a.accept)).map Candidate.phash then m.size
      else m.size + 1 := by
  have hsize := m.size_add_length a
  have hlength := Candidate.length_insertRanked a.candidate (m.bucket (mediaType? a.accept))
  by_cases hmem : a.candidate.phash ∈ (m.bucket (mediaType? a.accept)).map Candidate.phash
  · rw [if_pos hmem] at hlength
    refine Eq.trans ?_ (if_pos hmem).symm
    omega
  · rw [if_neg hmem] at hlength
    refine Eq.trans ?_ (if_neg hmem).symm
    omega

theorem mem_history_iff {type : Option String} :
    p ∈ (history adds type).map Addition.phash ↔ (type, p) ∈ adds.map Addition.place := by
  simp only [history, List.mem_map, List.mem_filter, decide_eq_true_eq, Addition.place,
    Prod.mk.injEq]
  constructor
  · rintro ⟨a, ⟨ha, htype⟩, hp⟩
    exact ⟨a, ha, htype, hp⟩
  · rintro ⟨a, ha, htype, hp⟩
    exact ⟨a, ⟨ha, htype⟩, hp⟩

theorem length_dedup_snoc_of_mem {α : Type} [DecidableEq α] {l : List α} {x : α} (h : x ∈ l) :
    (l ++ [x]).dedup.length = l.dedup.length := by
  rw [(List.perm_append_singleton x l).dedup.length_eq, List.dedup_cons_of_mem h]

theorem length_dedup_snoc_of_notMem {α : Type} [DecidableEq α] {l : List α} {x : α} (h : x ∉ l) :
    (l ++ [x]).dedup.length = l.dedup.length + 1 := by
  rw [(List.perm_append_singleton x l).dedup.length_eq, List.dedup_cons_of_notMem h,
    List.length_cons]

/-- There are as many views as places to which some view was added. -/
@[simp] theorem size_ofAdditions (name : String) (adds : List Addition) :
    (ofAdditions name adds).size = (adds.map Addition.place).dedup.length := by
  induction adds using List.reverseRecOn with
  | nil => rfl
  | append_singleton adds a ih =>
      have hplace : a.phash ∈ ((ofAdditions name adds).bucket (mediaType? a.accept)).map
          Candidate.phash ↔ a.place ∈ adds.map Addition.place := by
        rw [(contents_bucket name adds _).mem_map_phash_iff, mem_history_iff]
        rfl
      rw [ofAdditions_snoc, size_add, ih, List.map_append, List.map_singleton]
      by_cases hmem : a.place ∈ adds.map Addition.place
      · rw [if_pos (hplace.mpr hmem), length_dedup_snoc_of_mem hmem]
      · rw [if_neg (mt hplace.mp hmem), length_dedup_snoc_of_notMem hmem]

/-- **What the buckets hold.** After any run of additions, each bucket holds one candidate for each
identity that was added to it, which is the last one added, and there are as many views as such
identities in all buckets. Where each identity of a bucket was always added with one rank, its
candidates stand by rank, those of one rank in the order in which their identities first came. -/
theorem bucket_contents (name : String) (adds : List Addition) :
    (∀ type, Contents (history adds type) ((ofAdditions name adds).bucket type)) ∧
      (ofAdditions name adds).size = (adds.map Addition.place).dedup.length :=
  ⟨contents_bucket name adds, size_ofAdditions name adds⟩

def repeated : List Addition :=
  let answering (text : String) : View :=
    { description := text, call := fun _ => return Http.Response.ofText text }
  [⟨answering "late", 30, "late", none⟩, ⟨answering "old", 10, "early", none⟩,
    ⟨answering "next", 10, "next", some "text/*"⟩, ⟨answering "new", 10, "early", none⟩]

theorem bucket_contents_repeated :
    ((ofAdditions "" repeated).bucket none).Pairwise (RanksBefore (history repeated none)) ∧
      (ofAdditions "" repeated).size = 3 := by
  obtain ⟨hcontents, hsize⟩ := bucket_contents "" repeated
  have hsteady : SteadyRanks (history repeated none) := by
    unfold SteadyRanks
    decide
  exact ⟨(hcontents none).ranked hsteady, hsize.trans (by decide)⟩

end MultiView

end WebDispatch
