import WebDispatch.Proofs.Path.Segments
import WebDispatch.Proofs.Traversal.VirtualRoot

/-!
# Traversals along a captured path

A route may capture the path that is to be followed, as segments or as a text. What a traversal
finds depends on the path through its segments alone (`traverse_congr`). So a captured path leads
where the request's own path leads, if both have the same segments (`traverse_eq_of_captured`): no
slash, dot or mark in it makes a difference.

* `captured_segments` — segments that are captured are put together to a path and split again, and
  are the same then.
-/

namespace WebDispatch

namespace Traversal

variable {root : Resource} {request other : Request} {d : MatchDict} {captured : MatchValue}

/-- What is found depends on the segments to be followed, those of the virtual root, and the
captured subpath. -/
theorem traverse_congr (hwhole : wholeSegments request = wholeSegments other)
    (houter : outerSegments request = outerSegments other)
    (hsubpath : routeSubpath request = routeSubpath other) :
    traverse root request = traverse root other := by
  rw [traverse_eq rfl, traverse_eq rfl, route_eq, route_eq, hwhole, houter, hsubpath]

theorem wholeSegments_of_no_header (hheader : request.header? virtualRootHeader = none) :
    wholeSegments request = Path.segments (ownPath request) := by
  have hvirtual : virtualRootPath? request = none := by
    rw [virtualRootPath?, hheader, Option.map_none]
  rw [wholeSegments, wholePath_eq, hvirtual, Option.getD_none, String.empty_append]

theorem outerSegments_of_no_header (hheader : request.header? virtualRootHeader = none) :
    outerSegments request = [] := by
  rw [outerSegments, virtualRootPath?, hheader]
  rfl

/-! ## Own and captured paths -/

@[simp] theorem segments_slash_of_empty (path : String) :
    Path.segments (if path = "" then "/" else path) = Path.segments path := by
  split
  · next hempty => rw [hempty, segments_slash]; rfl
  · rfl

theorem segments_ownPath_of_none (hnone : request.matchdict = none) :
    Path.segments (ownPath request) = Path.segments request.pathInfo := by
  rw [ownPath, hnone]
  exact segments_slash_of_empty request.pathInfo

theorem segments_ownPath_of_captured (hsome : request.matchdict = some d)
    (htraverse : d.get? "traverse" = some captured) :
    Path.segments (ownPath request) = Path.segments captured.toPath := by
  rw [ownPath, hsome]
  refine (segments_slash_of_empty _).trans ?_
  dsimp only
  rw [htraverse]
  rfl

@[simp] theorem captured_segments (path : String) :
    Path.segments (MatchValue.toPath (.segments (Path.segments path))) = Path.segments path := by
  rw [MatchValue.toPath, Path.segments_slash_append, Path.segments_joinWith_segments]

theorem routeSubpath_of_captured (hsome : request.matchdict = some d)
    (hsubpath : d.get? "subpath" = none) : routeSubpath request = [] := by
  rw [routeSubpath, hsome, Option.bind_some, hsubpath]
  rfl

/-- A captured path with the segments of the request's own leads to the same as that. -/
theorem traverse_eq_of_captured (hheader : request.header? virtualRootHeader = none)
    (htraverse : d.get? "traverse" = some captured) (hsubpath : d.get? "subpath" = none)
    (hsegments : Path.segments captured.toPath = Path.segments request.pathInfo) :
    traverse root { request with matchdict := some d } =
      traverse root { request with matchdict := none } := by
  have hcaptured :
      ({ request with matchdict := some d } : Request).header? virtualRootHeader = none :=
    hheader
  have hplain : ({ request with matchdict := none } : Request).header? virtualRootHeader = none :=
    hheader
  apply traverse_congr
  · rw [wholeSegments_of_no_header hcaptured, wholeSegments_of_no_header hplain,
      segments_ownPath_of_captured rfl htraverse, segments_ownPath_of_none rfl]
    exact hsegments
  · rw [outerSegments_of_no_header hcaptured, outerSegments_of_no_header hplain]
  · rw [routeSubpath_of_captured rfl hsubpath]
    rfl

/-- **Traversal along a captured path** is traversal along the request's own path. Whatever the root
and the request, if it names no virtual root and its match dict has the segments of its path as
`traverse`, or this path as it is, and nothing as `subpath`, then all that is found is what is found
without a match dict. -/
theorem captured_path_leads_alike (root : Resource) (request : Request)
    (hheader : request.header? virtualRootHeader = none)
    (htraverse : d.get? "traverse" = some (.segments (Path.segments request.pathInfo)) ∨
      d.get? "traverse" = some (.text request.pathInfo))
    (hsubpath : d.get? "subpath" = none) :
    traverse root { request with matchdict := some d } =
      traverse root { request with matchdict := none } := by
  rcases htraverse with hsegments | htext
  · exact traverse_eq_of_captured hheader hsegments hsubpath (captured_segments request.pathInfo)
  · exact traverse_eq_of_captured hheader htext hsubpath rfl

def wayward : Request := { target := { rawPath := "/.//other/../docs/%40%40edit/a/../b/" } }

theorem wayward_leads_alike :
    traverse sharedSite { wayward with
        matchdict := some (.ofList [("traverse", .segments ["docs", "@@edit", "b"])]) } =
      traverse sharedSite { wayward with matchdict := none } ∧
      (traverse sharedSite { wayward with matchdict := none }).viewName = "edit" :=
  ⟨captured_path_leads_alike sharedSite wayward rfl (Or.inl (by decide)) (by decide), by decide⟩

end Traversal

end WebDispatch
