import WebDispatch.Route.Basic

/-!
# Route tables

The routes of an application in the order in which they were connected. A request belongs to the
first route that claims it; a route that only generates paths claims none.

* `RouteTable.connect` — adds a route behind all others, in place of one of the same name;
* `RouteTable.match?` — the route of a request, and what it captures;
* `RouteTable.generate` — a path of a route.
-/

namespace WebDispatch

structure RouteTable where
  /-- All routes by name, in the order of their last connection. -/
  routes : OrderedMap String Route := {}
  /-- Those that may claim requests, in the order in which they are tried. -/
  candidates : List Route := []
deriving Inhabited

namespace RouteTable

def connect (t : RouteTable) (r : Route) : RouteTable :=
  let others := t.candidates.filter fun s => s.name ≠ r.name
  { routes := (t.routes.erase r.name).insert r.name r
    candidates := if r.isStatic then others else others ++ [r] }

def get? (t : RouteTable) (name : String) : Option Route := t.routes.get? name

@[simp] theorem get?_connect (t : RouteTable) (r : Route) (name : String) :
    (t.connect r).get? name = if r.name = name then some r else t.get? name := by
  by_cases h : r.name = name <;> simp [get?, connect, h]

def match? (t : RouteTable) (request : Request) : Option (Route × MatchDict) :=
  t.candidates.findSome? fun r => (r.match? request).map fun d => (r, d)

def generate (t : RouteTable) (name : String) (values : MatchDict) : Except Error String :=
  match t.get? name with
  | some r => r.generate values
  | none => .error (.configuration ("No route named " ++ name))

end RouteTable

end WebDispatch
