import WebDispatch.Proofs.Regex.GroupNames

/-!
# Sequences read item by item

A reader that comes to the end of a sequence has come past each of its items. `ReadsOn` says that a
sequence is read on from a place with a result, and each lemma takes one item off the text and adds
it to those read: an escaped text (`ReadsOn.of_escapeLiteral`), the bodies of groups, a named group
(`ReadsOn.of_group`). What has been read is thus known in full, and a group can only be passed if no
group before has its name.

No flags are in force at the places here.
-/

namespace WebDispatch.Regex

open Reading

variable {fuel groups : Nat} {items : List Item} {names : List String} {cs name rest : List Char}
  {c : Char} {out : Regex × Reading}

/-! ## Single items -/

theorem isMeta_ne {m : Char} (h : isMeta c = false) (hm : isMeta m = true) : c ≠ m := by
  rintro rfl
  rw [hm] at h
  cases h

/-- A character without a meaning of its own stands for itself. -/
theorem readSequence_char (h : isMeta c = false) :
    readSequence (fuel + 1) items ⟨c :: rest, {}, groups, names⟩ =
      readSequence fuel (.piece (.chars (.single c)) :: items)
        ⟨rest, {}, groups, names⟩ := by
  have hne : ∀ m, isMeta m = true → c ≠ m := fun m hm => isMeta_ne h hm
  have hspace : skipSpace ⟨c :: rest, {}, groups, names⟩ =
      some ((), ⟨c :: rest, {}, groups, names⟩) := rfl
  have hpeek : peek? ⟨c :: rest, {}, groups, names⟩ =
      some (some c, ⟨c :: rest, {}, groups, names⟩) := rfl
  rw [readSequence, bind_eq_of_eq hspace, bind_eq_of_eq hpeek]
  simp only [hne '|' (by decide), hne ')' (by decide), hne '(' (by decide), hne '[' (by decide),
    hne '*' (by decide), hne '+' (by decide), hne '?' (by decide), hne '{' (by decide),
    hne '\\' (by decide), hne '.' (by decide), hne '^' (by decide), hne '$' (by decide),
    decide_false, Bool.or_self, if_false, Bool.false_eq_true]
  rfl

theorem readEscape_meta (h : isMeta c = true) :
    readEscape ⟨c :: rest, {}, groups, names⟩ =
      some (.literal c, ⟨rest, {}, groups, names⟩) := by
  have htake : take ⟨c :: rest, {}, groups, names⟩ =
      some (c, ⟨rest, {}, groups, names⟩) := rfl
  have hget : (get : Reader Reading) ⟨rest, {}, groups, names⟩ =
      some (⟨rest, {}, groups, names⟩,
        ⟨rest, {}, groups, names⟩) := rfl
  rw [readEscape, bind_eq_of_eq htake, bind_eq_of_eq hget]
  simp only [h, if_true]
  rfl

/-- Behind a backslash any other one does too. -/
theorem readSequence_escape (h : isMeta c = true) :
    readSequence (fuel + 1) items ⟨'\\' :: c :: rest, {}, groups, names⟩ =
      readSequence fuel (.piece (.chars (.single c)) :: items)
        ⟨rest, {}, groups, names⟩ := by
  have hread : readSequence (fuel + 1) items
        ⟨'\\' :: c :: rest, {}, groups, names⟩ =
      (readEscape >>= fun atom => readSequence fuel (.piece (atom.piece {}) :: items))
        ⟨c :: rest, {}, groups, names⟩ := rfl
  rw [hread, bind_eq_of_eq (readEscape_meta h)]
  rfl

theorem readSequence_close :
    readSequence (fuel + 1) items ⟨')' :: rest, {}, groups, names⟩ =
      some (sequenceOf items, ⟨')' :: rest, {}, groups, names⟩) := rfl

theorem readSequence_bracket :
    readSequence (fuel + 1) items ⟨'[' :: rest, {}, groups, names⟩ =
      (readBracket fuel >>= fun set => readSequence fuel (.piece (.chars set) :: items))
        ⟨rest, {}, groups, names⟩ := rfl

theorem readSequence_open :
    readSequence (fuel + 1) items ⟨'(' :: rest, {}, groups, names⟩ =
      (readGroup fuel >>= fun item => readSequence fuel (item :: items))
        ⟨rest, {}, groups, names⟩ := rfl

theorem union_single (c : Char) : (⟨[]⟩ : CharSet).union (.single c) = .single c := by
  simp [CharSet.union, CharSet.ofRanges, CharSet.single, CharSet.joinFrom]

theorem readBracket_notSlash {set : CharSet} {s : Reading}
    (h : readBracket fuel ⟨'^' :: '/' :: ']' :: rest, {}, groups, names⟩ = some (set, s)) :
    set = (CharSet.single '/').complement ∧ s = ⟨rest, {}, groups, names⟩ := by
  match fuel with
  | 0 | 1 | 2 => cases h
  | fuel + 3 =>
      have hread : readBracket (fuel + 3) ⟨'^' :: '/' :: ']' :: rest, {}, groups, names⟩ =
          some (((⟨[]⟩ : CharSet).union (.single '/')).complement,
            ⟨rest, {}, groups, names⟩) := rfl
      rw [hread, union_single, Option.some.injEq, Prod.mk.injEq] at h
      exact ⟨h.1.symm, h.2.symm⟩

theorem openGroup_some {n : String} {s s' : Reading} {index : Nat}
    (h : openGroup (some n) s = some (index, s')) :
    n ∉ s.names ∧ index = s.groups + 1 ∧
      s' = { s with groups := s.groups + 1, names := s.names ++ [n] } := by
  have hget : (get : Reader Reading) s = some (s, s) := rfl
  rw [openGroup, bind_eq_of_eq hget] at h
  by_cases hmem : n ∈ s.names
  · simp only [List.contains_eq_mem, hmem] at h
    cases h
  · simp only [List.contains_eq_mem, hmem] at h
    have hopen : some (s.groups + 1,
        ({ s with groups := s.groups + 1, names := s.names ++ [n] } : Reading)) =
        some (index, s') := h
    rw [Option.some.injEq, Prod.mk.injEq] at hopen
    exact ⟨hmem, hopen.1.symm, hopen.2.symm⟩

theorem readGroup_named :
    readGroup (fuel + 1) ⟨"?P<".toList ++ rest, {}, groups, names⟩ = (do
      let written := (← get).rest.takeWhile (· ≠ '>')
      skip written.length
      let _ ← take
      if !isGroupName written then failure
      let index ← openGroup (some (String.ofList written))
      let body ← readChoice fuel
      if ← takeIf ")" then
        modify fun s => { s with flags := {} }
        return Item.piece (.group index (some (String.ofList written)) body)
      else failure : Reader Item) ⟨rest, {}, groups, names⟩ := rfl

/-- The name of a group is read up to the angle bracket, and must be one. -/
theorem readGroup_name (hname : '>' ∉ name) :
    readGroup (fuel + 1) ⟨"?P<".toList ++ (name ++ '>' :: rest), {}, groups, names⟩ = (do
      if !isGroupName name then failure
      let index ← openGroup (some (String.ofList name))
      let body ← readChoice fuel
      if ← takeIf ")" then
        modify fun s => { s with flags := {} }
        return Item.piece (.group index (some (String.ofList name)) body)
      else failure : Reader Item) ⟨rest, {}, groups, names⟩ := by
  have hget : (get : Reader Reading) ⟨name ++ '>' :: rest, {}, groups, names⟩ =
      some (⟨name ++ '>' :: rest, {}, groups, names⟩,
        ⟨name ++ '>' :: rest, {}, groups, names⟩) := rfl
  have hwritten : (name ++ '>' :: rest).takeWhile (· ≠ '>') = name := by
    rw [List.takeWhile_append_of_pos]
    · simp
    · rintro c hc
      exact decide_eq_true fun he => hname (he ▸ hc)
  have hskip : skip name.length ⟨name ++ '>' :: rest, {}, groups, names⟩ =
      some ((), ⟨'>' :: rest, {}, groups, names⟩) := by
    rw [skip]
    show some ((), (⟨(name ++ '>' :: rest).drop name.length, {}, groups, names⟩ : Reading)) = _
    rw [List.drop_left]
  have htake : take ⟨'>' :: rest, {}, groups, names⟩ =
      some ('>', ⟨rest, {}, groups, names⟩) := rfl
  rw [readGroup_named, bind_eq_of_eq hget]
  simp only [hwritten]
  rw [bind_eq_of_eq hskip, bind_eq_of_eq htake]

/-- A named group that has been read has a name that no group before has, and a body. -/
theorem exists_of_readGroup_named {item : Item} {s : Reading} (hname : '>' ∉ name)
    (h : readGroup fuel ⟨"?P<".toList ++ (name ++ '>' :: rest), {}, groups, names⟩ =
      some (item, s)) :
    String.ofList name ∉ names ∧
      ∃ fuel' body s', readChoice fuel' ⟨rest, {}, groups + 1, names ++ [String.ofList name]⟩ =
          some (body, s') ∧
        ∀ more, s'.rest = ')' :: more →
          item = .piece (.group (groups + 1) (some (String.ofList name)) body) ∧
            s = { s' with rest := more, flags := {} } := by
  match fuel with
  | 0 => cases h
  | fuel + 1 =>
      rw [readGroup_name hname] at h
      cases hform : isGroupName name with
      | false =>
          rw [hform] at h
          cases h
      | true =>
          simp only [hform, Bool.not_true, Bool.false_eq_true, if_false] at h
          obtain ⟨index, s₁, hopen, h⟩ := exists_of_bind_eq_some h
          obtain ⟨hnew, rfl, rfl⟩ := openGroup_some hopen
          obtain ⟨body, s', hbody, h⟩ := exists_of_bind_eq_some h
          refine ⟨hnew, fuel, body, s', hbody, fun more hmore => ?_⟩
          obtain ⟨_, flags, groups', names'⟩ := s'
          obtain rfl := hmore
          have hdone : some (Item.piece (.group (groups + 1) (some (String.ofList name)) body),
              (⟨more, {}, groups', names'⟩ : Reading)) = some (item, s) := h
          rw [Option.some.injEq, Prod.mk.injEq] at hdone
          exact ⟨hdone.1.symm, hdone.2.symm⟩

/-! ## Going on from a place -/

/-- A sequence is read from a place on, the items before it last first, with a result. -/
def ReadsOn (out : Regex × Reading) (items : List Item) (s : Reading) : Prop :=
  ∃ fuel, readSequence fuel items s = some out

def pushed (rs : List Regex) (items : List Item) : List Item := (rs.map Item.piece).reverse ++ items

theorem pushed_append (rs ss : List Regex) (items : List Item) :
    pushed (rs ++ ss) items = pushed ss (pushed rs items) := by
  simp [pushed]

def literals (cs : List Char) : List Regex := cs.map fun c => .chars (.single c)

def segmentBody : Regex := .loop 1 none true (.chars (CharSet.single '/').complement)

def remainderBody : Regex := .loop 0 none false (.chars (CharSet.single '\n').complement)

/-- A choice begins with a sequence, and is this sequence where no bar follows. -/
theorem exists_of_readChoice {s : Reading} (h : readChoice fuel s = some out) :
    ∃ first, ReadsOn first [] s ∧ (first.2.rest.head? ≠ some '|' → out = first) := by
  match fuel with
  | 0 => cases h
  | fuel + 1 =>
      rw [readChoice] at h
      obtain ⟨first, s₁, hfirst, hrest⟩ := exists_of_bind_eq_some h
      refine ⟨(first, s₁), ⟨fuel, hfirst⟩, fun hbar => ?_⟩
      have htake : takeIf "|" s₁ = some (false, s₁) := by
        have hcomes : comes "|" s₁ = some ("|".toList.isPrefixOf s₁.rest, s₁) := rfl
        have hnone : "|".toList.isPrefixOf s₁.rest = false := by
          cases hs : s₁.rest with
          | nil => rfl
          | cons c rest =>
              rw [hs] at hbar
              have hc : '|' ≠ c := fun hc => hbar (congrArg some hc.symm)
              simp [List.isPrefixOf, hc]
        rw [takeIf, bind_eq_of_eq hcomes, hnone]
        rfl
      rw [bind_eq_of_eq htake] at hrest
      exact (Option.some.inj hrest).symm

theorem exists_of_parseChars? {r : Regex} (h : parseChars? cs = some r) :
    ∃ out, ReadsOn out [] ⟨cs, {}, 0, []⟩ ∧ (out.2.rest = [] → r = out.1) := by
  rw [parseChars?] at h
  split at h
  · next r' s hrun =>
      rw [Option.ite_none_right_eq_some, Option.some.injEq] at h
      obtain ⟨-, rfl⟩ := h
      obtain ⟨first, hfirst, hout⟩ := exists_of_readChoice hrun
      refine ⟨first, hfirst, fun hend => ?_⟩
      rw [← hout (by simp [hend])]
  · cases h

namespace ReadsOn

theorem exists_succ {s : Reading} (h : ReadsOn out items s) :
    ∃ fuel, readSequence (fuel + 1) items s = some out := by
  obtain ⟨_ | fuel, h⟩ := h
  · cases h
  · exact ⟨fuel, h⟩

theorem of_char (hc : isMeta c = false) (h : ReadsOn out items ⟨c :: rest, {}, groups, names⟩) :
    ReadsOn out (.piece (.chars (.single c)) :: items) ⟨rest, {}, groups, names⟩ := by
  obtain ⟨fuel, h⟩ := h.exists_succ
  rw [readSequence_char hc] at h
  exact ⟨fuel, h⟩

theorem of_escape (hc : isMeta c = true)
    (h : ReadsOn out items ⟨'\\' :: c :: rest, {}, groups, names⟩) :
    ReadsOn out (.piece (.chars (.single c)) :: items) ⟨rest, {}, groups, names⟩ := by
  obtain ⟨fuel, h⟩ := h.exists_succ
  rw [readSequence_escape hc] at h
  exact ⟨fuel, h⟩

theorem of_escapeLiteral
    (h : ReadsOn out items ⟨escapeLiteral cs ++ rest, {}, groups, names⟩) :
    ReadsOn out (pushed (literals cs) items) ⟨rest, {}, groups, names⟩ := by
  induction cs generalizing items with
  | nil => exact h
  | cons c cs ih =>
      have hpushed : pushed (literals (c :: cs)) items =
          pushed (literals cs) (.piece (.chars (.single c)) :: items) :=
        pushed_append [.chars (.single c)] (literals cs) items
      rw [hpushed]
      rw [escapeLiteral, List.flatMap_cons, List.append_assoc] at h
      by_cases hc : isMeta c
      · rw [if_pos hc] at h
        exact ih (of_escape hc h)
      · rw [if_neg hc] at h
        exact ih (of_char (Bool.not_eq_true _ ▸ hc) h)

theorem of_start (h : ReadsOn out items ⟨'^' :: rest, {}, groups, names⟩) :
    ReadsOn out (.piece (.look .textStart) :: items) ⟨rest, {}, groups, names⟩ := by
  obtain ⟨fuel, h⟩ := h.exists_succ
  exact ⟨fuel, h⟩

theorem of_dollar (h : ReadsOn out items ⟨'$' :: rest, {}, groups, names⟩) :
    ReadsOn out (.piece (.look .textEnd) :: items) ⟨rest, {}, groups, names⟩ := by
  obtain ⟨fuel, h⟩ := h.exists_succ
  exact ⟨fuel, h⟩

theorem of_nil (h : ReadsOn out items ⟨[], {}, groups, names⟩) :
    out = (sequenceOf items, ⟨[], {}, groups, names⟩) := by
  obtain ⟨fuel, h⟩ := h.exists_succ
  exact (Option.some.inj h).symm

theorem of_dot (h : ReadsOn out items ⟨'.' :: rest, {}, groups, names⟩) :
    ReadsOn out (.piece (.chars (CharSet.single '\n').complement) :: items)
      ⟨rest, {}, groups, names⟩ := by
  obtain ⟨fuel, h⟩ := h.exists_succ
  exact ⟨fuel, h⟩

theorem of_notSlash (h : ReadsOn out items ⟨"[^/]".toList ++ rest, {}, groups, names⟩) :
    ReadsOn out (.piece (.chars (CharSet.single '/').complement) :: items)
      ⟨rest, {}, groups, names⟩ := by
  obtain ⟨fuel, h⟩ := h.exists_succ
  obtain ⟨set, s, hset, h⟩ := exists_of_bind_eq_some (readSequence_bracket.symm.trans h)
  obtain ⟨rfl, rfl⟩ := readBracket_notSlash hset
  exact ⟨fuel, h⟩

theorem of_plus {r : Regex}
    (h : ReadsOn out (.piece r :: items) ⟨'+' :: ')' :: rest, {}, groups, names⟩) :
    ReadsOn out (.piece (.loop 1 none true r) :: items) ⟨')' :: rest, {}, groups, names⟩ := by
  obtain ⟨fuel, h⟩ := h.exists_succ
  exact ⟨fuel, h⟩

theorem of_lazyStar {r : Regex}
    (h : ReadsOn out (.piece r :: items) ⟨'*' :: '?' :: rest, {}, groups, names⟩) :
    ReadsOn out (.piece (.loop 0 none false r) :: items) ⟨rest, {}, groups, names⟩ := by
  obtain ⟨fuel, h⟩ := h.exists_succ
  exact ⟨fuel, h⟩

theorem of_close (h : ReadsOn out items ⟨')' :: rest, {}, groups, names⟩) :
    out = (sequenceOf items, ⟨')' :: rest, {}, groups, names⟩) := by
  obtain ⟨fuel, h⟩ := h.exists_succ
  rw [readSequence_close] at h
  exact (Option.some.inj h).symm

theorem eq_segmentBody
    (h : ReadsOn out [] ⟨"[^/]+".toList ++ ')' :: rest, {}, groups, names⟩) :
    out = (segmentBody, ⟨')' :: rest, {}, groups, names⟩) :=
  of_close (of_plus (of_notSlash h))

theorem eq_remainderBody
    (h : ReadsOn out [] ⟨".*?".toList ++ ')' :: rest, {}, groups, names⟩) :
    out = (remainderBody, ⟨')' :: rest, {}, groups, names⟩) :=
  of_close (of_lazyStar (of_dot h))

/-- A group is passed by reading its body up to the parenthesis that closes it. -/
theorem of_group {body : List Char} {r : Regex} (hname : '>' ∉ name)
    (hbody : ∀ first groups names, ReadsOn first [] ⟨body ++ ')' :: rest, {}, groups, names⟩ →
      first = (r, ⟨')' :: rest, {}, groups, names⟩))
    (h : ReadsOn out items
      ⟨"(?P<".toList ++ (name ++ '>' :: (body ++ ')' :: rest)), {}, groups, names⟩) :
    String.ofList name ∉ names ∧
      ReadsOn out (.piece (.group (groups + 1) (some (String.ofList name)) r) :: items)
        ⟨rest, {}, groups + 1, names ++ [String.ofList name]⟩ := by
  obtain ⟨fuel, h⟩ := h.exists_succ
  obtain ⟨item, s, hgroup, h⟩ := exists_of_bind_eq_some (readSequence_open.symm.trans h)
  obtain ⟨hnew, fuel', r', s', hchoice, hclose⟩ := exists_of_readGroup_named hname hgroup
  obtain ⟨first, hfirst, hout⟩ := exists_of_readChoice hchoice
  obtain rfl := hbody first _ _ hfirst
  obtain ⟨rfl, rfl⟩ := Prod.mk.inj (hout (by simp))
  obtain ⟨rfl, rfl⟩ := hclose rest rfl
  exact ⟨hnew, fuel, h⟩

end ReadsOn

end WebDispatch.Regex
