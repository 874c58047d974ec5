import WebDispatch.Proofs.Traversal.Walk

/-!
# How far a traversal goes

A traversal ends at the resource that the longest walkable beginning of its path leads to. Nothing
of the path is lost: the walked segments, the one that names the view and the subpath make it up, in
this order.

* `ownPath`, `routeSubpath` — what a request gives to follow, and the subpath its route captured;
* `follow_longest` — no beginning that can be walked is longer than what is followed;
* `passed_follow` — the resources passed on the way.
-/

namespace WebDispatch

def MatchValue.toPath : MatchValue → String
  | .text s => s
  | .segments items => "/" ++ Text.joinWith "/" items

def MatchValue.toSegments : MatchValue → List String
  | .text s => Path.segments s
  | .segments items => items

namespace Traversal

/-- The path that a request gives to follow, the virtual root aside: its own, or the one that its
route captured; `/` stands for none. -/
def ownPath (request : Request) : String :=
  let given := match request.matchdict with
    | none => request.pathInfo
    | some d => ((d.get? "traverse").map MatchValue.toPath).getD ""
  if given = "" then "/" else given

def routeSubpath (request : Request) : List String :=
  ((request.matchdict.bind fun d => d.get? "subpath").map MatchValue.toSegments).getD []

theorem route_eq (request : Request) : route request = (ownPath request, routeSubpath request) := by
  unfold route ownPath routeSubpath
  cases request.matchdict with
  | none => rfl
  | some d =>
      simp only [Option.bind_some, Prod.mk.injEq]
      constructor
      · rcases d.get? "traverse" with _ | s | items
        · rfl
        · rfl
        · -- a list of segments never gives the empty path
          have hne : "/" ++ Text.joinWith "/" items ≠ "" := by simp
          exact (if_neg hne).symm
      · rcases d.get? "subpath" with _ | s | items <;> rfl

theorem wholePath_eq (request : Request) :
    wholePath request = (virtualRootPath? request).getD "" ++ ownPath request := by
  rw [wholePath, route_eq]

/-! ## The longest walk -/

theorem walked_begins (r : Resource) (segments : List String) :
    (follow r segments).walked <+: segments := by
  rcases (follow_spec r segments).2 with ⟨-, hall, -⟩ | ⟨s, view, -, -, hsplit⟩
  · exact hall ▸ List.prefix_rfl
  · exact ⟨_, hsplit.symm⟩

/-- A beginning of the segments that can be walked lies within what is followed: it cannot go on
over the segment that names the view. -/
theorem follow_longest {r last : Resource} {segments longer : List String}
    (hlonger : longer <+: segments) (hwalk : Walk r longer last) :
    longer <+: (follow r segments).walked := by
  obtain ⟨hfollowed, hends⟩ := follow_spec r segments
  rcases hends with ⟨-, hall, -⟩ | ⟨s, view, -, hnames, hsplit⟩
  · rwa [← hall]
  · have hstop : (follow r segments).walked ++ [s] <+: segments := by
      refine ⟨(follow r segments).rest, ?_⟩
      rw [List.append_assoc, List.singleton_append, ← hsplit]
    rcases List.prefix_or_prefix_of_prefix hlonger hstop with hshort | ⟨more, hmore⟩
    · rcases List.prefix_concat_iff.mp hshort with rfl | hshort
      · obtain ⟨mid, hmid, hover⟩ := hwalk.of_append
        rw [hmid.unique hfollowed] at hover
        exact absurd hover hnames.not_walk
      · exact hshort
    · rw [← hmore, List.append_assoc] at hwalk
      obtain ⟨mid, hmid, hover⟩ := hwalk.of_append
      rw [hmid.unique hfollowed] at hover
      exact absurd hover hnames.not_walk

/-- The resources passed are those that the beginnings of the walk lead to. -/
theorem passed_follow (r : Resource) (segments : List String) :
    ∀ i ≤ (follow r segments).walked.length, ∃ x, (follow r segments).passed[i]? = some x ∧
      Walk r ((follow r segments).walked.take i) x := by
  fun_induction follow r segments with
  | case1 r | case2 r s rest view hmark | case3 r s rest hmark hchild =>
      intro i hi
      obtain rfl : i = 0 := by simpa using hi
      exact ⟨r, rfl, Walk.nil r⟩
  | case4 r s rest hmark next hchild f ih =>
      intro i hi
      cases i with
      | zero => exact ⟨r, rfl, Walk.nil r⟩
      | succ i =>
          obtain ⟨x, hx, hwalk⟩ := ih i (by simpa [f] using hi)
          exact ⟨x, hx, Walk.cons (dropStart?_eq_none_iff.mp hmark) hchild hwalk⟩

/-- What a view is named by a segment that cannot be walked. -/
theorem NamesView.eq_dropStart {r : Resource} {s view : String} (h : NamesView r s view) :
    view = (Text.dropStart? viewMark s).getD s := by
  cases h with
  | marked view => rw [dropStart?_eq_some_iff.mpr rfl, Option.getD_some]
  | missing hmark _ => rw [dropStart?_eq_none_iff.mpr hmark, Option.getD_none]

/-- **The longest walk.** A traversal follows the segments of the path of the virtual root with the
request's own path behind it. Its context is where the longest beginning of them leads that can be
walked. If that is all of them, the view has the empty name and the subpath is the captured one;
else the next segment names the view, without the mark if it has one, and the subpath is what comes
behind it. -/
theorem context_at_end_of_longest_walk (root : Resource) (request : Request) :
    wholeSegments request =
        Path.segments ((virtualRootPath? request).getD "" ++ ownPath request) ∧
      ∃ walked, walked <+: wholeSegments request ∧
        Walk root walked (traverse root request).context ∧
        (∀ longer last, longer <+: wholeSegments request → Walk root longer last →
          longer <+: walked) ∧
        (wholeSegments request = walked ∧ (traverse root request).viewName = "" ∧
            (traverse root request).subpath = routeSubpath request ∨
          ∃ s, wholeSegments request = walked ++ s :: (traverse root request).subpath ∧
            (traverse root request).viewName = (Text.dropStart? viewMark s).getD s) := by
  refine ⟨by rw [wholeSegments, wholePath_eq], ?_⟩
  obtain ⟨hwalk, hends⟩ := follow_spec root (wholeSegments request)
  have hlongest : ∀ longer last, longer <+: wholeSegments request → Walk root longer last →
      longer <+: (follow root (wholeSegments request)).walked :=
    fun longer last hlonger hlast => follow_longest hlonger hlast
  generalize hreach : follow root (wholeSegments request) = reach at hwalk hends hlongest
  rw [traverse_eq hreach, route_eq]
  rcases hends with ⟨hview, hall, -⟩ | ⟨s, view, hview, hnames, hsplit⟩
  · refine ⟨reach.walked, hall ▸ List.prefix_rfl, hwalk, hlongest, Or.inl ⟨hall, ?_, ?_⟩⟩
    · simp only [hview, Option.getD_none]
    · simp only [hview, Option.isNone_none, if_true]
  · refine ⟨reach.walked, ⟨_, hsplit.symm⟩, hwalk, hlongest, Or.inr ⟨s, ?_, ?_⟩⟩
    · simpa only [hview, Option.isNone_some, Bool.false_eq_true, if_false] using hsplit
    · simp only [hview, Option.getD_some]
      exact hnames.eq_dropStart

end Traversal

end WebDispatch
