import WebDispatch.Path.Segments
import WebDispatch.Request

/-!
# Traversal

A path is followed from a root through the resources below it, one segment after the other, as
long as there is a resource of that name. The segment where this ends names the view, and the
segments behind it are the subpath. A segment that begins with `@@` always names the view.

The path is that of the request or, where a route matched, the value it captured as `traverse`. A
header field may put the path of a virtual root in front.

* `follow` — how far a list of segments leads from a resource;
* `traverse` — what a request leads to from a root.
-/

namespace WebDispatch

namespace Traversal

/-- The header field that gives the path of the virtual root. -/
def virtualRootHeader : String := "x-vhm-root"

/-- Begins a segment that names the view. -/
def viewMark : String := "@@"

/-- What a request leads to. -/
structure Found where
  context : Resource
  root : Resource
  viewName : String := ""
  subpath : List String := []
  /-- The segments that count as consumed. -/
  traversed : List String := []
  virtualRoot : Resource
  virtualRootPath : List String := []
deriving Inhabited

/-- How far segments lead. -/
structure Reach where
  /-- The resources passed, from the start on; the last is where it ends. -/
  passed : List Resource
  /-- The segments that were followed. -/
  walked : List String
  /-- The name of the view, if not all segments could be followed. -/
  viewName : Option String
  /-- The segments behind it. -/
  rest : List String
deriving Inhabited

def follow (r : Resource) : List String → Reach
  | [] => ⟨[r], [], none, []⟩
  | s :: rest =>
    match Text.dropStart? viewMark s with
    | some view => ⟨[r], [], some view, rest⟩
    | none =>
      match r.child? s with
      | none => ⟨[r], [], some s, rest⟩
      | some next =>
        let f := follow next rest
        { f with passed := r :: f.passed, walked := s :: f.walked }

def Reach.last (start : Resource) (f : Reach) : Resource := f.passed.getLast?.getD start

/-- The path to follow, and the subpath if all of it can be followed. -/
def route (request : Request) : String × List String :=
  match request.matchdict with
  | none =>
    let path := request.pathInfo
    (if path = "" then "/" else path, [])
  | some d =>
    let path := match d.get? "traverse" with
      | some (.segments items) => "/" ++ Text.joinWith "/" items
      | some (.text s) => if s = "" then "/" else s
      | none => "/"
    let subpath := match d.get? "subpath" with
      | some (.segments items) => items
      | some (.text s) => Path.segments s
      | none => []
    (path, subpath)

/-- The path of the virtual root as written, without slashes at its end. -/
def virtualRootPath? (request : Request) : Option String :=
  (request.header? virtualRootHeader).map (Text.trimEndBy (· = '/'))

/-- What a request leads to from a root. The virtual root is the resource that the segments of
its path lead to, as long as they can be followed; else it is the root. -/
def traverse (root : Resource) (request : Request) : Found :=
  let (path, subpath) := route request
  let virtualPath := virtualRootPath? request
  let outer := (virtualPath.map Path.segments).getD []
  let whole := virtualPath.getD "" ++ path
  let segments := if whole = "/" then [] else Path.segments whole
  let reach := follow root segments
  let walked := reach.walked.length
  { context := reach.last root
    root := root
    viewName := reach.viewName.getD ""
    subpath := if reach.viewName.isNone then subpath else reach.rest
    traversed := if reach.viewName.isNone then segments else segments.take (outer.length + walked)
    virtualRoot := if walked < outer.length then root else (reach.passed[outer.length]?).getD root
    virtualRootPath := outer }

end Traversal

end WebDispatch
