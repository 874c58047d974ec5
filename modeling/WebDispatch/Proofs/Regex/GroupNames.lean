import WebDispatch.Regex.Reader

/-!
# The groups of an expression

Every group of an expression that has been read bears a name of the form that names of groups must
have (`wellNamed_of_parseChars?`). A reader is taken apart into its steps: `Yields` says what holds
of the result of a reader whenever there is one, and a sequence of readers yields what its last one
does.
-/

namespace WebDispatch.Regex

open Reading

variable {α β : Type}

/-! ## What readers yield -/

theorem bind_eq_of_eq {x : Reader α} {f : α → Reader β} {s s' : Reading} {a : α}
    (h : x s = some (a, s')) : (x >>= f) s = f a s' := by
  show ((x s).bind fun r => f r.1 r.2) = f a s'
  rw [h]
  rfl

theorem exists_of_bind_eq_some {x : Reader α} {f : α → Reader β} {s s' : Reading} {b : β}
    (h : (x >>= f) s = some (b, s')) :
    ∃ a s₁, x s = some (a, s₁) ∧ f a s₁ = some (b, s') := by
  obtain ⟨r, hr, hb⟩ := Option.bind_eq_some_iff.mp h
  exact ⟨r.1, r.2, hr, hb⟩

def Yields (x : Reader α) (p : α → Prop) : Prop := ∀ s a s', x s = some (a, s') → p a

section Yields

variable {p : α → Prop} {q : β → Prop}

theorem yields_pure {a : α} (h : p a) : Yields (pure a) p := by
  intro s b s' hb
  obtain ⟨rfl, -⟩ := Prod.mk.inj (Option.some.inj hb)
  exact h

theorem yields_failure : Yields (failure : Reader α) p := by
  intro s a s' h
  cases h

theorem yields_bind {x : Reader α} {f : α → Reader β} (hx : Yields x p)
    (hf : ∀ a, p a → Yields (f a) q) : Yields (x >>= f) q := by
  intro s b s' h
  obtain ⟨a, s₁, ha, hb⟩ := exists_of_bind_eq_some h
  exact hf a (hx s a s₁ ha) s₁ b s' hb

/-- A sequence of readers yields what its last one does. -/
theorem yields_then {x : Reader α} {f : α → Reader β} (hf : ∀ a, Yields (f a) q) :
    Yields (x >>= f) q :=
  yields_bind (p := fun _ => True) (fun _ _ _ _ => trivial) fun a _ => hf a

theorem yields_ite {c : Prop} [Decidable c] {x y : Reader α} (hx : Yields x p) (hy : Yields y p) :
    Yields (if c then x else y) p := by
  split
  · exact hx
  · exact hy

end Yields

/-! ## The names of groups -/

/-- Every group of an expression has a name of the right form, if it has one. -/
def WellNamed (r : Regex) : Prop := ∀ g ∈ r.groupNames, isGroupName g.2.toList = true

def Item.WellNamed : Item → Prop
  | .piece r => r.WellNamed
  | .flags => True

theorem wellNamed_append {r s : Regex} (hr : r.WellNamed) (hs : s.WellNamed) :
    ∀ g ∈ r.groupNames ++ s.groupNames, isGroupName g.2.toList = true := by
  intro g hg
  rcases List.mem_append.mp hg with hg | hg
  · exact hr g hg
  · exact hs g hg

theorem wellNamed_chars (set : CharSet) : (chars set).WellNamed := by
  intro g hg
  cases hg

theorem wellNamed_look (condition : Look) : (look condition).WellNamed := by
  intro g hg
  cases hg

theorem wellNamed_group {index : Nat} {name : Option String} {body : Regex}
    (hname : ∀ n, name = some n → isGroupName n.toList = true) (hbody : body.WellNamed) :
    (group index name body).WellNamed := by
  intro g hg
  rw [groupNames] at hg
  rcases List.mem_append.mp hg with hg | hg
  · obtain ⟨n, hn, rfl⟩ := Option.map_eq_some_iff.mp (Option.mem_toList.mp hg)
    exact hname n hn
  · exact hbody g hg

theorem wellNamed_sequenceOf {items : List Item} (h : ∀ item ∈ items, item.WellNamed) :
    (sequenceOf items).WellNamed := by
  have hempty : Regex.empty.WellNamed := by
    intro g hg
    cases hg
  unfold sequenceOf
  revert hempty
  generalize Regex.empty = r
  intro hr
  induction items generalizing r with
  | nil => exact hr
  | cons item items ih =>
      rw [List.forall_mem_cons] at h
      rw [List.foldl_cons]
      apply ih h.2
      split
      · exact hr
      · exact h.1
      · exact wellNamed_append h.1 hr

theorem yields_repeated {items : List Item} (h : ∀ item ∈ items, item.WellNamed) (least : Nat)
    (most : Option Nat) (lazy : Bool) :
    Yields (repeated items least most lazy) fun items' => ∀ item ∈ items', item.WellNamed := by
  unfold repeated
  refine yields_then fun s => ?_
  dsimp only
  split
  · rw [List.forall_mem_cons] at h
    exact yields_pure (List.forall_mem_cons.mpr h)
  · exact yields_failure

/-- All that the readers of choices, sequences and groups return is well named. -/
theorem yields_wellNamed (fuel : Nat) :
    Yields (readChoice fuel) WellNamed ∧
      (∀ items, (∀ item ∈ items, item.WellNamed) → Yields (readSequence fuel items) WellNamed) ∧
      Yields (readGroup fuel) Item.WellNamed := by
  induction fuel with
  | zero =>
      refine ⟨?_, fun items _ => ?_, ?_⟩
      · rw [readChoice]
        exact yields_failure
      · rw [readSequence]
        exact yields_failure
      · rw [readGroup]
        exact yields_failure
  | succ fuel ih =>
      obtain ⟨hchoice, hsequence, hgroup⟩ := ih
      refine ⟨?_, fun items hitems => ?_, ?_⟩
      · rw [readChoice]
        refine yields_bind (hsequence [] (by simp)) fun first hfirst => ?_
        refine yields_then fun more => yields_ite ?_ (yields_pure hfirst)
        exact yields_bind hchoice fun rest hrest => yields_pure (wellNamed_append hfirst hrest)
      · have hpush : ∀ item : Item, item.WellNamed →
            Yields (readSequence fuel (item :: items)) WellNamed := by
          intro item hitem
          exact hsequence _ (List.forall_mem_cons.mpr ⟨hitem, hitems⟩)
        have hrepeat : ∀ least most lazy, Yields (do
            let items' ← repeated items least most lazy
            readSequence fuel items') WellNamed := by
          intro least most lazy
          exact yields_bind (yields_repeated hitems least most lazy) hsequence
        have hatom : ∀ (flags : Flags) (atom : Atom),
            Yields (readSequence fuel (.piece (atom.piece flags) :: items)) WellNamed := by
          intro flags atom
          apply hpush
          cases atom with
          | literal a => exact wellNamed_chars _
          | set s => exact wellNamed_chars s
          | look l => exact wellNamed_look l
        have hdone : Yields (pure (sequenceOf items) : Reader Regex) WellNamed :=
          yields_pure (wellNamed_sequenceOf hitems)
        rw [readSequence]
        refine yields_then fun _ => yields_then fun next => ?_
        cases next with
        | none => exact hdone
        | some c =>
            refine yields_ite hdone (yields_then fun s => ?_)
            dsimp only
            refine yields_then fun _ => ?_
            refine yields_ite (yields_bind hgroup hpush) ?_
            refine yields_ite (yields_then fun set => hpush _ (wellNamed_chars set)) ?_
            refine yields_ite (yields_then fun lazy => hrepeat _ _ lazy) ?_
            refine yields_ite ?_ ?_
            · refine yields_ite (yields_then fun _ => ?_) ?_
              all_goals
                exact yields_then fun counts => yields_then fun _ => yields_then fun lazy =>
                  hrepeat counts.1 counts.2 lazy
            · refine yields_ite (yields_then (hatom _)) (yields_ite ?_ (yields_ite ?_ (yields_ite ?_ ?_)))
              · exact yields_ite (yields_then (hatom _)) (yields_then (hatom _))
              · exact yields_then (hatom _)
              · exact yields_then (hatom _)
              · exact yields_then (hatom _)
      · have hclose : ∀ (outer : Flags) (r : Regex), r.WellNamed → Yields (do
            if ← takeIf ")" then
              modify fun s => { s with flags := outer }
              return .piece r
            else failure) Item.WellNamed := by
          intro outer r hr
          exact yields_then fun _ => yields_ite (yields_then fun _ => yields_pure hr) yields_failure
        have hopen : ∀ (outer : Flags) (name : Option String),
            (∀ n, name = some n → isGroupName n.toList = true) → Yields (do
              let index ← openGroup name
              let body ← readChoice fuel
              if ← takeIf ")" then
                modify fun s => { s with flags := outer }
                return Item.piece (.group index name body)
              else failure) Item.WellNamed := by
          intro outer name hname
          refine yields_then fun index => yields_bind hchoice fun body hbody => ?_
          exact hclose outer _ (wellNamed_group hname hbody)
        rw [readGroup]
        refine yields_then fun _ => yields_then fun s => yields_then fun _ => yields_then fun named => ?_
        refine yields_ite (yields_then fun s' => yields_then fun _ => yields_then fun _ => ?_) ?_
        · -- a name of the wrong form ends the reading
          by_cases hname : isGroupName (s'.rest.takeWhile (· ≠ '>'))
          · simp only [hname]
            refine hopen s.flags _ fun n hn => ?_
            rw [← Option.some.inj hn, String.toList_ofList]
            exact hname
          · simp only [hname]
            exact yields_bind (p := fun _ => False) yields_failure fun _ h => h.elim
        · refine yields_then fun plain => yields_ite ?_ (hopen s.flags none (by simp))
          refine yields_then fun s' => yields_then fun _ => yields_then fun mark => ?_
          dsimp only
          split
          · exact yields_failure
          · refine yields_then fun _ => yields_ite (yields_ite yields_failure ?_) ?_
            · exact yields_pure trivial
            · exact yields_bind hchoice fun body hbody => hclose s.flags body hbody

/-- **Well-named groups.** Every group of an expression that has been read has a name of the right
form, if it has one. -/
theorem wellNamed_of_parseChars? {cs : List Char} {r : Regex} (h : parseChars? cs = some r) :
    r.WellNamed := by
  rw [parseChars?] at h
  split at h
  · next r' s hrun =>
      rw [Option.ite_none_right_eq_some, Option.some.injEq] at h
      obtain ⟨-, rfl⟩ := h
      exact (yields_wellNamed _).1 _ _ _ hrun
  · cases h

end WebDispatch.Regex
