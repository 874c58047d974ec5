import WebDispatch.Traversal

/-!
# Walks through resources

A walk goes from a resource to a child for each segment in turn. A segment that begins with `@@` is
never walked. From a resource, segments can be followed up to the first that cannot be walked; this
one names the view.

* `Walk`, `NamesView` — a walk, and where it cannot go on;
* `follow_spec` — following segments walks as far as there is a walk;
* `traverse_eq` — what a traversal reports, by following the segments of its whole path.
-/

namespace WebDispatch

namespace Traversal

/-- Segments lead from a resource to another: none begins with the mark of a view, and each is the
key of a child of the resource reached so far. -/
inductive Walk : Resource → List String → Resource → Prop where
  | nil (r : Resource) : Walk r [] r
  | cons {r next last : Resource} {s : String} {rest : List String} :
      Text.startsWith s viewMark = false → r.child? s = some next → Walk next rest last →
      Walk r (s :: rest) last

/-- A segment that cannot be walked from a resource names a view: what follows the mark, or all of
it where there is no child under it. -/
inductive NamesView (r : Resource) : String → String → Prop where
  | marked (view : String) : NamesView r (viewMark ++ view) view
  | missing {s : String} : Text.startsWith s viewMark = false → r.child? s = none → NamesView r s s

namespace Walk

variable {r last last' : Resource} {xs ys : List String}

/-- Where segments lead is determined. -/
theorem unique (h : Walk r xs last) (h' : Walk r xs last') : last = last' := by
  induction h with
  | nil r =>
      cases h'
      rfl
  | cons _ hchild _ ih =>
      cases h' with
      | cons _ hchild' hwalk' =>
          rw [hchild, Option.some.injEq] at hchild'
          subst hchild'
          exact ih hwalk'

theorem of_append (h : Walk r (xs ++ ys) last) : ∃ mid, Walk r xs mid ∧ Walk mid ys last := by
  induction xs generalizing r with
  | nil => exact ⟨r, nil r, h⟩
  | cons x xs ih =>
      cases h with
      | cons hmark hchild hwalk =>
          obtain ⟨mid, hxs, hys⟩ := ih hwalk
          exact ⟨mid, cons hmark hchild hxs, hys⟩

end Walk

theorem dropStart?_eq_some_iff {start s rest : String} :
    Text.dropStart? start s = some rest ↔ s = start ++ rest := by
  rw [Text.dropStart?, Text.startsWith]
  constructor
  · intro h
    split at h
    · next hstarts =>
      obtain ⟨t, ht⟩ := List.isPrefixOf_iff_prefix.mp hstarts
      rw [Option.some.injEq, ← ht, List.drop_left' String.length_toList] at h
      rw [← h, ← String.toList_inj, String.toList_append, String.toList_ofList, ht]
    · cases h
  · rintro rfl
    rw [if_pos, String.toList_append, List.drop_left' String.length_toList, String.ofList_toList]
    exact List.isPrefixOf_iff_prefix.mpr ⟨rest.toList, by rw [String.toList_append]⟩

theorem dropStart?_eq_none_iff {start s : String} :
    Text.dropStart? start s = none ↔ Text.startsWith s start = false := by
  simp [Text.dropStart?]

/-- Nothing is walked past a segment that names a view. -/
theorem NamesView.not_walk {r last : Resource} {s view : String} {rest : List String}
    (h : NamesView r s view) : ¬ Walk r (s :: rest) last := by
  intro hwalk
  cases hwalk with
  | cons hmark hchild _ =>
      cases h with
      | marked view =>
          rw [← dropStart?_eq_none_iff, dropStart?_eq_some_iff.mpr rfl] at hmark
          cases hmark
      | missing _ hnone =>
          rw [hnone] at hchild
          cases hchild

/-! ## Following segments -/

/-- How following segments ends: all are walked, or one of them names the view. -/
def Reach.Ends (f : Reach) (segments : List String) (last : Resource) : Prop :=
  f.viewName = none ∧ segments = f.walked ∧ f.rest = [] ∨
    ∃ s view, f.viewName = some view ∧ NamesView last s view ∧ segments = f.walked ++ s :: f.rest

theorem passed_follow_ne_nil (r : Resource) (segments : List String) :
    (follow r segments).passed ≠ [] := by
  fun_cases follow r segments <;> simp

theorem follow_spec (r : Resource) (segments : List String) :
    Walk r (follow r segments).walked ((follow r segments).last r) ∧
      (follow r segments).Ends segments ((follow r segments).last r) := by
  fun_induction follow r segments with
  | case1 r => exact ⟨Walk.nil r, Or.inl ⟨rfl, rfl, rfl⟩⟩
  | case2 r s rest view hmark =>
      rw [dropStart?_eq_some_iff] at hmark
      subst hmark
      exact ⟨Walk.nil r, Or.inr ⟨_, view, rfl, NamesView.marked view, rfl⟩⟩
  | case3 r s rest hmark hchild =>
      rw [dropStart?_eq_none_iff] at hmark
      exact ⟨Walk.nil r, Or.inr ⟨s, s, rfl, NamesView.missing hmark hchild, rfl⟩⟩
  | case4 r s rest hmark next hchild f ih =>
      rw [dropStart?_eq_none_iff] at hmark
      have hlast : ({ f with passed := r :: f.passed, walked := s :: f.walked } : Reach).last r =
          f.last next := by
        obtain ⟨p, ps, hpassed⟩ := List.exists_cons_of_ne_nil (passed_follow_ne_nil next rest)
        simp only [Reach.last, f, hpassed, List.getLast?_cons_cons]
        simp [List.getLast?_cons]
      rw [hlast]
      refine ⟨Walk.cons hmark hchild ih.1, ?_⟩
      rcases ih.2 with ⟨hview, hsegments, hrest⟩ | ⟨t, view, hview, hnames, hsegments⟩
      · exact Or.inl ⟨hview, congrArg (s :: ·) hsegments, hrest⟩
      · exact Or.inr ⟨t, view, hview, hnames, congrArg (s :: ·) hsegments⟩

/-! ## The whole path -/

/-- The path of the virtual root with the path to follow behind it. -/
def wholePath (request : Request) : String :=
  (virtualRootPath? request).getD "" ++ (route request).1

def wholeSegments (request : Request) : List String := Path.segments (wholePath request)

@[simp] theorem segments_slash : Path.segments "/" = [] := by decide

def outerSegments (request : Request) : List String :=
  ((virtualRootPath? request).map Path.segments).getD []

theorem traverse_eq {root : Resource} {request : Request} {reach : Reach}
    (hreach : follow root (wholeSegments request) = reach) :
    traverse root request =
      { context := reach.last root
        root := root
        viewName := reach.viewName.getD ""
        subpath := if reach.viewName.isNone then (route request).2 else reach.rest
        traversed := if reach.viewName.isNone then wholeSegments request
          else (wholeSegments request).take ((outerSegments request).length + reach.walked.length)
        virtualRoot := if reach.walked.length < (outerSegments request).length then root
          else (reach.passed[(outerSegments request).length]?).getD root
        virtualRootPath := outerSegments request } := by
  have hsegments : (if wholePath request = "/" then [] else Path.segments (wholePath request)) =
      wholeSegments request := by
    rw [wholeSegments]
    split
    · next hslash => rw [hslash, segments_slash]
    · rfl
  rw [← hreach, ← hsegments]
  rfl

end Traversal

end WebDispatch
