import WebDispatch.Path.Pattern
import WebDispatch.Request

/-!
# Predicates

Conditions on a request that decide whether a view or a route applies to it. A view asks with the
context it would be called for, a route with what its pattern captured.

* `Predicate.text` — the wording used where a predicate refused a request;
* `Predicate.holds` — asked by a view;
* `Predicate.holdsForRoute` — asked by a route, whose captured values it may complete.
-/

namespace WebDispatch

structure Expression where
  source : String
  regex : Regex
deriving Inhabited

/-- A condition that an application supplies. -/
structure CustomPredicate where
  text : String := "<unknown custom predicate>"
  /-- Identifies the condition: equal ones are taken to be interchangeable. -/
  hash : Nat := 0
  /-- Asked by a view. -/
  holds : Resource → Request → Bool
  /-- Asked by a route. -/
  holdsForRoute : MatchDict → Request → Bool

inductive Predicate where
  | xhr
  | requestMethod (methods : List String)
  | pathInfo (e : Expression)
  | requestParam (name : String) (value : Option String)
  | header (name : String) (value : Option Expression)
  | accept (offer : String)
  | containment (i : Interface)
  | requestType (i : Interface)
  | matchParam (pairs : List (String × String))
  | custom (p : CustomPredicate)
  /-- No condition: gives a route the path to traverse. -/
  | traverse (p : Pattern)

namespace Predicate

def text : Predicate → String
  | xhr => "xhr = True"
  | requestMethod methods => "request method = " ++ Text.joinWith "," methods
  | pathInfo e => "path_info = " ++ e.source
  | requestParam name none => "request_param " ++ name
  | requestParam name (some v) => "request_param " ++ name ++ " = " ++ v
  | header name none => "header " ++ name
  | header name (some e) => "header " ++ name ++ " = " ++ e.source
  | accept offer => "accept = " ++ offer
  | containment i => "containment = " ++ i.name
  | requestType i => "request_type = " ++ i.name
  | matchParam pairs =>
    "match_param " ++ Text.joinWith "," (pairs.map fun (k, v) => k ++ "=" ++ v)
  | custom p => p.text
  | traverse _ => "traverse matchdict pseudo-predicate"

def description (p : Predicate) : String := "<Predicate " ++ p.text ++ ">"

def matchesAll (pairs : List (String × String)) (d : MatchDict) : Bool :=
  pairs.all fun (k, v) => (d.get? k).bind MatchValue.text? = some v

def holdsForRequest? (r : Request) : Predicate → Option Bool
  | xhr => some r.isXhr
  | requestMethod methods => some (methods.contains r.method)
  | pathInfo e => some (e.regex.isMatch r.pathInfo)
  | requestParam name none => some (r.param? name).isSome
  | requestParam name (some v) => some (r.param? name = some v)
  | header name none => some (r.header? name).isSome
  | header name (some e) => some ((r.header? name).any e.regex.isMatch)
  | accept offer => some (r.accept.accepts offer)
  | requestType i => some (r.type.order.contains i)
  | containment _ | matchParam _ | custom _ | traverse _ => none

def holds (p : Predicate) (context : Resource) (r : Request) : Bool :=
  match holdsForRequest? r p, p with
  | some verdict, _ => verdict
  | none, matchParam pairs => r.matchdict.any (matchesAll pairs)
  | none, containment i => (context.findInterface? i).isSome
  | none, custom c => c.holds context r
  | none, _ => true

/-- The name under which a route gives the path to traverse. -/
def traverseKey : String := "traverse"

/-- Captured values with the path to traverse, where they do not have one: the path that a
pattern generates from them, split into segments. -/
def withTraverse (p : Pattern) (d : MatchDict) : Option MatchDict :=
  if d.contains traverseKey then some d
  else
    match p.generate d with
    | .ok path =>
      some (d.insert traverseKey (.segments (Path.segments (Text.percentDecode path))))
    | .error _ => none

/-- Whether a predicate of a route holds for captured values and a request, and these values
afterwards. -/
def holdsForRoute (p : Predicate) (d : MatchDict) (r : Request) : Bool × MatchDict :=
  match holdsForRequest? r p, p with
  | some verdict, _ => (verdict, d)
  | none, matchParam pairs => (matchesAll pairs d, d)
  | none, containment _ => (false, d)
  | none, custom c => (c.holdsForRoute d r, d)
  | none, traverse pattern =>
    match withTraverse pattern d with
    | some d' => (true, d')
    | none => (false, d)
  | none, _ => (true, d)

/-- Whether all predicates of a route hold, each seeing the values that those before it left. -/
def allHoldForRoute (r : Request) : List Predicate → MatchDict → Option MatchDict
  | [], d => some d
  | p :: rest, d =>
    match p.holdsForRoute d r with
    | (true, d') => allHoldForRoute r rest d'
    | (false, _) => none

end Predicate

end WebDispatch
