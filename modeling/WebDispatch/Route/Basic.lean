import WebDispatch.Predicate.Options

/-!
# Routes

A route gives a name to the requests whose path matches a pattern and which satisfy predicates,
and generates paths that lead back to it.

* `Route.match?` — what a request captures, if the route claims it;
* `Route.generate` — the path that values give.
-/

namespace WebDispatch

abbrev RootFactory : Type := Request → Except Error Resource

/-- The root of an application that does not give one. -/
def RootFactory.standard : RootFactory := fun r => .ok (.defaultRoot r.matchdict)

structure Route where
  name : String
  pattern : Pattern
  /-- Gives the root for the requests of this route. -/
  factory : Option RootFactory := none
  predicates : List Predicate := []
  /-- Changes values before a path is generated from them. -/
  pregenerator : Option (MatchDict → MatchDict) := none
  /-- Whether views that name no route apply to the requests of this one. -/
  useGlobalViews : Bool := false
  /-- Whether the route only generates paths. -/
  isStatic : Bool := false
deriving Inhabited

namespace Route

def type (r : Route) : RequestType := .ofRoute r.name r.useGlobalViews

def match? (r : Route) (request : Request) : Option MatchDict :=
  (r.pattern.match? request.pathInfo).bind (Predicate.allHoldForRoute request r.predicates)

def generate (r : Route) (values : MatchDict) : Except Error String :=
  r.pattern.generate (r.pregenerator.elim values fun f => f values)

def description (r : Route) : String :=
  Text.record "Route"
    [("name", Text.quoted r.name),
     ("pattern", Text.quoted r.pattern.source),
     ("predicates", toString r.predicates.length),
     ("static", Text.truth r.isStatic)]

end Route

end WebDispatch
