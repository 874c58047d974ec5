import WebDispatch.Proofs.Regex.Sequences

/-!
# Where sequences of expressions match

The matcher lists the places where a match can end, and keeps the first of those at one position.
`Passes` says where a sequence of expressions leads in its own right, expression by expression. The
two agree on whether a sequence matches, and what the matcher finds is among what `Passes` admits
(`passes_of_mem_ends`, `ends_ne_nil_of_passes`): what is dropped at a position leads no further than
what is kept.

For the expressions that patterns without expressions of their own are made of, the places are known
in full: a text (`passes_literals`), a group that takes characters of a set
(`mem_ends_segment`, `mem_ends_remainder`).
-/

namespace WebDispatch.Regex

variable {p q m : Place} {r : Regex} {rs ss : List Regex} {set : CharSet} {cs : List Char}

/-! ## Places kept -/

theorem mem_of_mem_distinct {l : List Place} (h : q ∈ distinct l) : q ∈ l := by
  induction l with
  | nil => exact h
  | cons p l ih =>
      rw [distinct, List.mem_cons] at h
      rcases h with rfl | h
      · exact List.mem_cons_self
      · exact List.mem_cons_of_mem _ (ih (List.mem_filter.mp h).1)

theorem exists_mem_distinct {l : List Place} (h : q ∈ l) : ∃ q' ∈ distinct l, q'.pos = q.pos := by
  induction l with
  | nil => cases h
  | cons p l ih =>
      rw [distinct]
      rcases List.mem_cons.mp h with rfl | h
      · exact ⟨q, List.mem_cons_self, rfl⟩
      · obtain ⟨q', hq', hpos⟩ := ih h
        by_cases hp : q'.pos = p.pos
        · exact ⟨p, List.mem_cons_self, hp.symm.trans hpos⟩
        · exact ⟨q', List.mem_cons_of_mem _ (List.mem_filter.mpr ⟨hq', by simpa using hp⟩), hpos⟩

/-- Nothing is lost where the places at one position are equal. -/
theorem mem_distinct_iff {l : List Place} (h : ∀ q ∈ l, ∀ q' ∈ l, q.pos = q'.pos → q = q') :
    q ∈ distinct l ↔ q ∈ l := by
  constructor
  · exact mem_of_mem_distinct
  · intro hq
    obtain ⟨q', hq', hpos⟩ := exists_mem_distinct hq
    rw [h q hq q' (mem_of_mem_distinct hq') hpos.symm]
    exact hq'

/-! ## Single expressions -/

def Place.after (p : Place) (taken rest : List Char) : Place :=
  { pos := p.pos + taken.length
    before := taken.getLast?.or p.before
    rest := rest
    captures := p.captures }

theorem Place.after_after (p : Place) (s t u v : List Char) :
    (p.after s t).after u v = p.after (s ++ u) v := by
  simp [Place.after, Nat.add_assoc, Option.or_assoc]

theorem ends_chars_cons {c : Char} {rest : List Char} (hrest : p.rest = c :: rest)
    (hc : set.contains c = true) : ends (.chars set) p = [p.after [c] rest] := by
  rw [ends.eq_def]
  simp only [hrest, hc, if_true]
  rfl

theorem mem_ends_chars :
    q ∈ ends (.chars set) p ↔
      ∃ c rest, p.rest = c :: rest ∧ set.contains c = true ∧ q = p.after [c] rest := by
  constructor
  · intro h
    rw [ends.eq_def] at h
    dsimp only at h
    split at h
    · cases h
    · next c rest hrest =>
        split at h
        · next hc => exact ⟨c, rest, hrest, hc, List.mem_singleton.mp h⟩
        · cases h
  · rintro ⟨c, rest, hrest, hc, rfl⟩
    rw [ends_chars_cons hrest hc]
    exact List.mem_singleton_self _

theorem mem_ends_look {condition : Look} :
    q ∈ ends (.look condition) p ↔ p.satisfies condition = true ∧ q = p := by
  rw [ends]
  split
  · next h => simp [h]
  · next h => simp [h]

theorem contains_complement_single (c d : Char) :
    (CharSet.single c).complement.contains d = true ↔ d ≠ c := by
  have hlast : d.toNat ≤ CharSet.lastCode := by
    have hvalid : d.toNat < 0xD800 ∨ 0xDFFF < d.toNat ∧ d.toNat < 0x110000 := d.valid
    rw [CharSet.lastCode]
    omega
  have hne : d ≠ c ↔ d.toNat ≠ c.toNat := not_congr Char.toNat_inj.symm
  rw [hne, CharSet.contains, CharSet.complement, CharSet.single]
  by_cases hfirst : 0 < c.toNat <;> by_cases hmore : c.toNat + 1 ≤ CharSet.lastCode <;>
    simp [CharSet.gapsFrom, hfirst, hmore] <;> omega

/-! ## Repetitions of characters -/

/-- One place is reached from another by passing one or more characters of a set. -/
def Reaches (set : CharSet) (p q : Place) : Prop :=
  ∃ taken rest, p.rest = taken ++ rest ∧ taken ≠ [] ∧
    (∀ c ∈ taken, set.contains c = true) ∧ q = p.after taken rest

theorem reaches_iff_of_rest {c : Char} {rest : List Char} (hrest : p.rest = c :: rest)
    (hc : set.contains c = true) :
    Reaches set p q ↔ q = p.after [c] rest ∨ Reaches set (p.after [c] rest) q := by
  constructor
  · rintro ⟨taken, rest', hsplit, hne, hall, rfl⟩
    cases taken with
    | nil => exact absurd rfl hne
    | cons d taken =>
        obtain ⟨rfl, rfl⟩ := List.cons.inj (hrest.symm.trans hsplit)
        rw [List.forall_mem_cons] at hall
        cases taken with
        | nil => exact Or.inl rfl
        | cons e taken =>
            refine Or.inr ⟨e :: taken, rest', rfl, List.cons_ne_nil e taken, hall.2, ?_⟩
            exact (p.after_after [c] _ (e :: taken) rest').symm
  · rintro (rfl | ⟨taken, rest', hsplit, -, hall, rfl⟩)
    · exact ⟨[c], rest, hrest, List.cons_ne_nil c [], by simpa using hc, rfl⟩
    · refine ⟨c :: taken, rest', ?_, List.cons_ne_nil c taken,
        List.forall_mem_cons.mpr ⟨hc, hall⟩, p.after_after [c] _ taken rest'⟩
      rw [hrest, List.cons_append]
      exact congrArg (c :: ·) hsplit

theorem Reaches.exists_rest (h : Reaches set p q) :
    ∃ c rest, p.rest = c :: rest ∧ set.contains c = true := by
  obtain ⟨taken, rest, hsplit, hne, hall, -⟩ := h
  cases taken with
  | nil => exact absurd rfl hne
  | cons c taken => exact ⟨c, taken ++ rest, hsplit, hall c List.mem_cons_self⟩

theorem Reaches.pos_lt (h : Reaches set p q) : p.pos < q.pos := by
  obtain ⟨taken, rest, -, hne, -, rfl⟩ := h
  exact Nat.lt_add_of_pos_right (List.length_pos_iff.mpr hne)

/-- Of the places reached there is one at each position. -/
theorem Reaches.eq_of_pos_eq (h : Reaches set p q) (h' : Reaches set p m) (hpos : q.pos = m.pos) :
    q = m := by
  obtain ⟨taken, rest, hsplit, -, -, rfl⟩ := h
  obtain ⟨taken', rest', hsplit', -, -, rfl⟩ := h'
  obtain ⟨rfl, rfl⟩ :=
    List.append_inj (hsplit.symm.trans hsplit') (Nat.add_left_cancel hpos)
  rfl

/-- A repetition finds every place that is reached: none has been entered or passed before. -/
theorem mem_found_oneOrMore {greedy : Bool} {fuel : Nat} {l : Loop} (hfuel : p.rest.length < fuel)
    (hentered : ∀ n ∈ l.entered, n < p.pos) (hpassed : ∀ n ∈ l.passed, n ≤ p.pos) :
    q ∈ (oneOrMore (ends (.chars set)) greedy fuel p l).found ↔
      q ∈ l.found ∨ Reaches set p q := by
  induction fuel generalizing p l with
  | zero => omega
  | succ fuel ih =>
      have hnew : l.entered.contains p.pos = false := by
        simp only [List.contains_eq_mem, decide_eq_false_iff_not]
        intro hmem
        exact Nat.lt_irrefl _ (hentered _ hmem)
      rw [oneOrMore, hnew]
      simp only [Bool.false_eq_true, if_false]
      by_cases hstep : ∃ c rest, p.rest = c :: rest ∧ set.contains c = true
      · obtain ⟨c, rest, hrest, hc⟩ := hstep
        have hunpassed : l.passed.contains (p.after [c] rest).pos = false := by
          simp only [List.contains_eq_mem, decide_eq_false_iff_not]
          intro hmem
          exact Nat.not_succ_le_self _ (hpassed _ hmem)
        have hshorter : (p.after [c] rest).rest.length < fuel := by
          rw [hrest, List.length_cons] at hfuel
          exact Nat.lt_of_succ_lt_succ hfuel
        have hentered' : ∀ n ∈ p.pos :: l.entered, n < (p.after [c] rest).pos := by
          refine List.forall_mem_cons.mpr ⟨Nat.lt_succ_self _, fun n hn => ?_⟩
          exact Nat.lt_succ_of_lt (hentered n hn)
        have hpassed' : ∀ n ∈ (p.after [c] rest).pos :: l.passed, n ≤ (p.after [c] rest).pos := by
          refine List.forall_mem_cons.mpr ⟨Nat.le_refl _, fun n hn => ?_⟩
          exact Nat.le_succ_of_le (hpassed n hn)
        rw [ends_chars_cons hrest hc, List.foldl_cons, List.foldl_nil,
          reaches_iff_of_rest hrest hc]
        simp only [hunpassed, Bool.false_eq_true, if_false]
        -- the place behind the character is found before or after those behind it
        cases greedy with
        | true =>
            simp only [if_true, Loop.find, List.mem_cons]
            rw [ih hshorter hentered' hpassed', or_left_comm]
        | false =>
            simp only [Bool.false_eq_true, if_false, Loop.find]
            rw [ih hshorter hentered' hpassed', List.mem_cons, or_assoc, or_left_comm]
      · have hnone : ends (.chars set) p = [] := by
          rw [List.eq_nil_iff_forall_not_mem]
          intro m hm
          obtain ⟨c, rest, hrest, hc, -⟩ := mem_ends_chars.mp hm
          exact hstep ⟨c, rest, hrest, hc⟩
        rw [hnone, List.foldl_nil]
        exact (or_iff_left fun h => hstep h.exists_rest).symm

theorem mem_oneOrMoreEnds {greedy : Bool} :
    q ∈ oneOrMoreEnds (ends (.chars set)) greedy p ↔ Reaches set p q := by
  rw [oneOrMoreEnds, List.mem_reverse, mem_found_oneOrMore (by omega) (by simp) (by simp)]
  simp

theorem mem_ends_oneOrMore :
    q ∈ ends (.loop 1 none true (.chars set)) p ↔ Reaches set p q := by
  rw [ends, loopEnds, times, List.flatMap_singleton, mem_distinct_iff, mem_oneOrMoreEnds]
  intro q hq m hm
  exact (mem_oneOrMoreEnds.mp hq).eq_of_pos_eq (mem_oneOrMoreEnds.mp hm)

theorem mem_ends_zeroOrMore :
    q ∈ ends (.loop 0 none false (.chars set)) p ↔ q = p ∨ Reaches set p q := by
  have hmem : ∀ q, q ∈ p :: oneOrMoreEnds (ends (.chars set)) false p ↔
      q = p ∨ Reaches set p q := by
    intro q
    rw [List.mem_cons, mem_oneOrMoreEnds]
  rw [ends, loopEnds]
  simp only [Bool.false_eq_true, if_false]
  rw [mem_distinct_iff, hmem]
  intro q hq m hm hpos
  rcases (hmem q).mp hq with rfl | hq
  · rcases (hmem m).mp hm with rfl | hm
    · rfl
    · exact absurd hpos (Nat.ne_of_lt hm.pos_lt)
  · rcases (hmem m).mp hm with rfl | hm
    · exact absurd hpos (Nat.ne_of_gt hq.pos_lt)
    · exact hq.eq_of_pos_eq hm hpos

/-! ## Groups -/

def Place.capture (p : Place) (index : Nat) (taken : List Char) : Place :=
  { p with captures := (index, taken) :: p.captures }

theorem mem_ends_group {index : Nat} {name : Option String} :
    q ∈ ends (.group index name r) p ↔
      ∃ m ∈ ends r p, q = m.capture index (p.rest.take (m.pos - p.pos)) := by
  rw [ends, List.mem_map]
  simp only [eq_comm, Place.capture]

theorem take_after {taken rest : List Char} (h : p.rest = taken ++ rest) :
    p.rest.take ((p.after taken rest).pos - p.pos) = taken := by
  have hlength : (p.after taken rest).pos - p.pos = taken.length := Nat.add_sub_cancel_left _ _
  rw [hlength, h, List.take_left]

theorem forall_contains_complement {c : Char} {taken : List Char} :
    (∀ d ∈ taken, (CharSet.single c).complement.contains d = true) ↔ c ∉ taken := by
  simp only [contains_complement_single]
  constructor
  · intro h hmem
    exact h c hmem rfl
  · rintro h d hd rfl
    exact h hd

/-- The group of a plain field takes some characters other than a slash. -/
theorem mem_ends_segment {index : Nat} {name : String} :
    q ∈ ends (.group index (some name) segmentBody) p ↔
      ∃ taken rest, p.rest = taken ++ rest ∧ taken ≠ [] ∧ '/' ∉ taken ∧
        q = (p.after taken rest).capture index taken := by
  rw [segmentBody, mem_ends_group]
  constructor
  · rintro ⟨m, hm, rfl⟩
    obtain ⟨taken, rest, hsplit, hne, hall, rfl⟩ := mem_ends_oneOrMore.mp hm
    refine ⟨taken, rest, hsplit, hne, forall_contains_complement.mp hall, ?_⟩
    rw [take_after hsplit]
  · rintro ⟨taken, rest, hsplit, hne, hslash, rfl⟩
    refine ⟨p.after taken rest, mem_ends_oneOrMore.mpr
      ⟨taken, rest, hsplit, hne, forall_contains_complement.mpr hslash, rfl⟩, ?_⟩
    rw [take_after hsplit]

/-- The group of a remainder takes any characters but line feeds. -/
theorem mem_ends_remainder {index : Nat} {name : String} :
    q ∈ ends (.group index (some name) remainderBody) p ↔
      ∃ taken rest, p.rest = taken ++ rest ∧ '\n' ∉ taken ∧
        q = (p.after taken rest).capture index taken := by
  rw [remainderBody, mem_ends_group]
  constructor
  · rintro ⟨m, hm, rfl⟩
    rcases mem_ends_zeroOrMore.mp hm with rfl | ⟨taken, rest, hsplit, -, hall, rfl⟩
    · refine ⟨[], m.rest, rfl, List.not_mem_nil, ?_⟩
      rw [Nat.sub_self]
      rfl
    · refine ⟨taken, rest, hsplit, forall_contains_complement.mp hall, ?_⟩
      rw [take_after hsplit]
  · rintro ⟨taken, rest, hsplit, hline, rfl⟩
    refine ⟨p.after taken rest, mem_ends_zeroOrMore.mpr ?_, ?_⟩
    · by_cases hne : taken = []
      · subst hne
        rw [List.nil_append] at hsplit
        subst hsplit
        exact Or.inl rfl
      · exact Or.inr ⟨taken, rest, hsplit, hne, forall_contains_complement.mpr hline, rfl⟩
    · rw [take_after hsplit]

/-! ## Sequences -/

/-- Expressions match one after the other between two places. -/
def Passes : List Regex → Place → Place → Prop
  | [], p, q => q = p
  | r :: rs, p, q => ∃ m ∈ ends r p, Passes rs m q

theorem passes_append : Passes (rs ++ ss) p q ↔ ∃ m, Passes rs p m ∧ Passes ss m q := by
  induction rs generalizing p with
  | nil => simp [Passes]
  | cons r rs ih =>
      rw [List.cons_append, Passes]
      simp only [ih, Passes]
      constructor
      · rintro ⟨n, hn, m, hm, hq⟩
        exact ⟨m, ⟨n, hn, hm⟩, hq⟩
      · rintro ⟨m, ⟨n, hn, hm⟩, hq⟩
        exact ⟨n, hn, m, hm, hq⟩

theorem passes_singleton : Passes [r] p q ↔ q ∈ ends r p := by
  simp [Passes]

theorem passes_literals :
    Passes (literals cs) p q ↔ ∃ rest, p.rest = cs ++ rest ∧ q = p.after cs rest := by
  have hsingle : ∀ c d, (CharSet.single c).contains d = true ↔ d = c := by
    intro c d
    simp only [CharSet.contains, CharSet.single, List.any_cons, List.any_nil, Bool.or_false,
      Bool.and_eq_true, decide_eq_true_eq]
    rw [← Char.toNat_inj]
    omega
  induction cs generalizing p with
  | nil =>
      constructor
      · rintro rfl
        exact ⟨q.rest, rfl, rfl⟩
      · rintro ⟨rest, rfl, rfl⟩
        rfl
  | cons c cs ih =>
      constructor
      · rintro ⟨m, hm, hq⟩
        obtain ⟨d, rest, hrest, hd, rfl⟩ := mem_ends_chars.mp hm
        obtain rfl := (hsingle c d).mp hd
        obtain ⟨rest', hrest', rfl⟩ := ih.mp hq
        refine ⟨rest', ?_, p.after_after [d] _ cs rest'⟩
        rw [hrest]
        exact congrArg (d :: ·) hrest'
      · rintro ⟨rest, hrest, rfl⟩
        refine ⟨p.after [c] (cs ++ rest), mem_ends_chars.mpr
          ⟨c, cs ++ rest, hrest, (hsingle c c).mpr rfl, rfl⟩, ih.mpr ⟨rest, rfl, ?_⟩⟩
        exact (p.after_after [c] _ cs rest).symm

/-- The expression of a sequence is made of the first expression and that of the others, or is the
first expression where that of the others is empty. -/
theorem sequenceOf_pushed_cons (r : Regex) (rs : List Regex) :
    sequenceOf (pushed (r :: rs) []) = .seq r (sequenceOf (pushed rs [])) ∨
      sequenceOf (pushed rs []) = .empty ∧ sequenceOf (pushed (r :: rs) []) = r := by
  have hpushed : pushed (r :: rs) [] = pushed rs [] ++ [.piece r] := by simp [pushed]
  rw [hpushed]
  unfold sequenceOf
  rw [List.foldl_append, List.foldl_cons, List.foldl_nil]
  split
  · next h => cases h
  · next hp hempty =>
      cases hp
      exact Or.inr ⟨hempty, rfl⟩
  · next hp _ =>
      cases hp
      exact Or.inl rfl

theorem passes_of_mem_ends (h : q ∈ ends (sequenceOf (pushed rs [])) p) : Passes rs p q := by
  induction rs generalizing p with
  | nil => exact List.mem_singleton.mp h
  | cons r rs ih =>
      rcases sequenceOf_pushed_cons r rs with hseq | ⟨hempty, hone⟩
      · rw [hseq, ends] at h
        obtain ⟨m, hm, hq⟩ := List.mem_flatMap.mp (mem_of_mem_distinct h)
        exact ⟨m, hm, ih hq⟩
      · rw [hone] at h
        refine ⟨q, h, ih ?_⟩
        rw [hempty]
        exact List.mem_singleton_self q

theorem ends_ne_nil_of_passes (h : Passes rs p q) : ends (sequenceOf (pushed rs [])) p ≠ [] := by
  induction rs generalizing p with
  | nil => exact List.cons_ne_nil p []
  | cons r rs ih =>
      obtain ⟨m, hm, hq⟩ := h
      rcases sequenceOf_pushed_cons r rs with hseq | ⟨-, hone⟩
      · obtain ⟨n, hn⟩ := List.exists_mem_of_ne_nil _ (ih hq)
        obtain ⟨n', hn', -⟩ := exists_mem_distinct (List.mem_flatMap.mpr ⟨m, hm, hn⟩)
        rw [hseq, ends]
        exact List.ne_nil_of_mem hn'
      · rw [hone]
        exact List.ne_nil_of_mem hm

theorem groupNames_sequenceOf :
    (sequenceOf (pushed rs [])).groupNames = rs.flatMap groupNames := by
  induction rs with
  | nil => rfl
  | cons r rs ih =>
      rw [List.flatMap_cons, ← ih]
      rcases sequenceOf_pushed_cons r rs with hseq | ⟨hempty, hone⟩
      · rw [hseq, groupNames]
      · rw [hempty, hone, groupNames, List.append_nil]

/-! ## Whole texts -/

/-- The expression of a sequence that must match the whole of a text. -/
def anchored (rs : List Regex) : Regex :=
  sequenceOf (pushed (.look .textStart :: (rs ++ [.look .textEnd])) [])

theorem passes_anchored :
    Passes (.look .textStart :: (rs ++ [.look .textEnd])) p q ↔
      p.before = none ∧ Passes rs p q ∧ q.rest = [] := by
  constructor
  · rintro ⟨m, hm, h⟩
    obtain ⟨hstart, rfl⟩ := mem_ends_look.mp hm
    obtain ⟨m', hpasses, h⟩ := passes_append.mp h
    obtain ⟨hend, rfl⟩ := mem_ends_look.mp (passes_singleton.mp h)
    exact ⟨Option.isNone_iff_eq_none.mp hstart, hpasses, List.isEmpty_iff.mp hend⟩
  · rintro ⟨hstart, hpasses, hend⟩
    refine ⟨p, mem_ends_look.mpr ⟨Option.isNone_iff_eq_none.mpr hstart, rfl⟩, ?_⟩
    refine passes_append.mpr ⟨q, hpasses, passes_singleton.mpr (mem_ends_look.mpr ⟨?_, rfl⟩)⟩
    exact List.isEmpty_iff.mpr hend

theorem groupNames_anchored : (anchored rs).groupNames = rs.flatMap groupNames := by
  rw [anchored, groupNames_sequenceOf, List.flatMap_cons, List.flatMap_append]
  simp [groupNames]

/-- Behind the beginning of a text there is no match. -/
theorem searchFrom_anchored_eq_none {n : Nat} (h : p.before ≠ none) :
    searchFrom (anchored rs) n p = none := by
  have hends : ∀ p : Place, p.before ≠ none → ends (anchored rs) p = [] := by
    intro p h
    rw [List.eq_nil_iff_forall_not_mem]
    intro q hq
    exact h (passes_anchored.mp (passes_of_mem_ends hq)).1
  induction n generalizing p with
  | zero =>
      rw [searchFrom, hends p h]
      rfl
  | succ n ih =>
      rw [searchFrom, hends p h]
      dsimp only
      rw [Place.next?]
      split
      · rfl
      · exact ih (by simp)

theorem searchFrom_anchored (n : Nat) :
    searchFrom (anchored rs) n p = (ends (anchored rs) p).head? := by
  cases n with
  | zero => rfl
  | succ n =>
      rw [searchFrom]
      split
      · next q _ hq => rw [hq]; rfl
      · next hnil =>
          rw [hnil, Place.next?]
          split
          · rfl
          · exact searchFrom_anchored_eq_none (by simp)

/-- **Matches of whole texts.** A match that is found passes all of the text. -/
theorem passes_of_search? {s : String} (h : (anchored rs).search? s = some q) :
    Passes rs (Place.start s.toList) q ∧ q.rest = [] := by
  rw [search?, searchFrom_anchored] at h
  exact (passes_anchored.mp (passes_of_mem_ends (List.mem_of_mem_head? h))).2

/-- One is found if there is one. -/
theorem exists_search?_of_passes {s : String} (h : Passes rs (Place.start s.toList) q)
    (hrest : q.rest = []) : ∃ q', (anchored rs).search? s = some q' := by
  have hne := ends_ne_nil_of_passes (passes_anchored.mpr ⟨rfl, h, hrest⟩)
  rw [search?, searchFrom_anchored]
  exact Option.isSome_iff_exists.mp (List.isSome_head?.mpr hne)

end WebDispatch.Regex
