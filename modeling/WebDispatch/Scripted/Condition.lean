import WebDispatch.Predicate.Basic

/-!
# Scripted conditions

Custom predicates that are given by what they look at. What a route captured is seen by routes
only, and the context by views only.
-/

namespace WebDispatch.Scripted

inductive Condition where
  /-- Nothing: the verdict is known. -/
  | always (verdict : Bool)
  /-- How the path of the request begins. -/
  | pathStarts (start : String)
  /-- What the context provides. -/
  | provides (i : Interface)
  /-- Whether the route captured a value. -/
  | captured (name : String)

namespace Condition

def holds (c : Condition) (context : Resource) (r : Request) : Bool :=
  match c with
  | always verdict => verdict
  | pathStarts start => Text.startsWith r.pathInfo start
  | provides i => context.provides i
  | captured _ => false

def holdsForRoute (c : Condition) (d : MatchDict) (r : Request) : Bool :=
  match c with
  | always verdict => verdict
  | pathStarts start => Text.startsWith r.pathInfo start
  | provides _ => false
  | captured name => d.contains name

def predicate (c : Condition) : CustomPredicate :=
  { holds := c.holds, holdsForRoute := c.holdsForRoute }

end Condition

end WebDispatch.Scripted
