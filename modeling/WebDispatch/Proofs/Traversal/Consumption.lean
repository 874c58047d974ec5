import WebDispatch.Proofs.Traversal.Walk

/-!
# What a traversal reports as consumed

A traversal walks along the path of the virtual root and the path of the request. Its report
accounts for the walk when the consumed segments are those that were walked and, where the walk ended
early, one segment that names the view stands between them and the subpath.

Where the walk ends early, the segments of the virtual root are counted twice: the report counts as
many segments too many as that path has (`traverse_spec`). So a report accounts for the walk exactly
when there are none, or all of the path was walked (`accounted_iff`).
-/

namespace WebDispatch

namespace Traversal

/-- The report of a traversal accounts for its walk: the consumed segments are walked from the root
to the context, and they are the whole path, or are followed in it by a segment that names the view
and by the subpath. -/
def Accounted (root : Resource) (request : Request) : Prop :=
  Walk root (traverse root request).traversed (traverse root request).context ∧
    (wholeSegments request = (traverse root request).traversed ∨
      ∃ s, NamesView (traverse root request).context s (traverse root request).viewName ∧
        wholeSegments request =
          (traverse root request).traversed ++ s :: (traverse root request).subpath)

/-- How the consumed segments of a report relate to those that were walked: they are the same when
all of the path was walked. Else one segment names the view, and as many segments are counted from
there on as the path of the virtual root has. -/
theorem traverse_spec (root : Resource) (request : Request) :
    ∃ walked, Walk root walked (traverse root request).context ∧
      ((wholeSegments request = walked ∧ (traverse root request).traversed = walked) ∨
        ∃ s, NamesView (traverse root request).context s (traverse root request).viewName ∧
          wholeSegments request = walked ++ s :: (traverse root request).subpath ∧
          (traverse root request).traversed = walked ++
            (s :: (traverse root request).subpath).take
              (traverse root request).virtualRootPath.length) := by
  obtain ⟨hwalk, hends⟩ := follow_spec root (wholeSegments request)
  generalize hreach : follow root (wholeSegments request) = reach at hwalk hends
  rw [traverse_eq hreach]
  refine ⟨reach.walked, hwalk, ?_⟩
  rcases hends with ⟨hview, hsegments, -⟩ | ⟨s, view, hview, hnames, hsegments⟩
  · refine Or.inl ⟨hsegments, ?_⟩
    simp only [hview, Option.isNone_none, if_true]
    exact hsegments
  · simp only [hview, Option.getD_some, Option.isNone_some, Bool.false_eq_true, if_false]
    refine Or.inr ⟨s, hnames, hsegments, ?_⟩
    rw [hsegments, Nat.add_comm, List.take_length_add_append]

/-- **Reports account for walks**, whatever the root, the tree and the request, exactly where the
virtual root has no path or the whole path can be walked. -/
theorem accounted_iff (root : Resource) (request : Request) :
    Accounted root request ↔
      (traverse root request).virtualRootPath = [] ∨
        ∃ last, Walk root (wholeSegments request) last := by
  obtain ⟨walked, hwalk, ⟨hall, hconsumed⟩ | ⟨s, hnames, hsplit, hconsumed⟩⟩ :=
    traverse_spec root request
  · refine iff_of_true ⟨?_, Or.inl (hall.trans hconsumed.symm)⟩ (Or.inr ⟨_, hall ▸ hwalk⟩)
    rwa [hconsumed]
  · -- the walk ended at `s`, so no walk goes on through it
    have hstuck : ∀ rest last, ¬ Walk root (walked ++ s :: rest) last := by
      intro rest last hlonger
      obtain ⟨mid, hmid, hrest⟩ := hlonger.of_append
      rw [hmid.unique hwalk] at hrest
      exact hnames.not_walk hrest
    constructor
    · rintro ⟨haccounted, -⟩
      refine Or.inl ?_
      cases houter : (traverse root request).virtualRootPath with
      | nil => rfl
      | cons t ts =>
          rw [hconsumed, houter, List.length_cons, List.take_succ_cons] at haccounted
          exact absurd haccounted (hstuck _ _)
    · rintro (houter | ⟨last, hlonger⟩)
      · rw [houter, List.length_nil, List.take_zero, List.append_nil] at hconsumed
        exact ⟨by rwa [hconsumed], Or.inr ⟨s, hnames, by rwa [hconsumed]⟩⟩
      · rw [hsplit] at hlonger
        exact absurd hlonger (hstuck _ _)

def archive : Resource :=
  .ofTree (.mk (.type "Folder") "" none [] [.mk (.type "Folder") "docs" none [] []])

def hosted : Request :=
  { target := { rawPath := "/missing" }, headers := [(virtualRootHeader, "/docs")] }

/-- The segment that names the view is counted as consumed, though it leads nowhere. -/
theorem not_accounted_below_virtual_root : ¬ Accounted archive hosted := by
  rintro ⟨hwalk, -⟩
  have hconsumed : (traverse archive hosted).traversed = ["docs", "missing"] := by decide
  rw [hconsumed] at hwalk
  cases hwalk with
  | cons _ hdocs hrest =>
      cases hdocs
      cases hrest with
      | cons _ hmissing _ => cases hmissing

end Traversal

end WebDispatch
