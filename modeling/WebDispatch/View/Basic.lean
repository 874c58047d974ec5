import WebDispatch.Handling
import WebDispatch.Predicate.Options

/-!
# Views

A view answers requests for a context. Besides being called, it can be asked whether its
predicates hold and whether the sender may call it, and it is ranked among the views that compete
with it.
-/

namespace WebDispatch

open WebDispatch.Http (Response)

abbrev ViewFunction : Type := Resource → Handling Response

structure View where
  /-- How descriptions and messages name the view. -/
  description : String
  /-- Answers a request, if the predicates hold and the sender may call the view. -/
  call : ViewFunction
  /-- Answers a request without asking whether the sender may call the view. -/
  callPermissive : ViewFunction := call
  /-- Whether the sender may call the view. -/
  permitted : Resource → Request → Bool := fun _ _ => true
  /-- Whether the predicates hold; none where there are no predicates. -/
  predicatesHold : Resource → Request → Option Bool := fun _ _ => none
  /-- The media type that the view answers with, if it competes by it. -/
  accept : Option String := none
  /-- The rank among competing views, the lowest first. -/
  order : Nat := PredicateSet.lastOrder
  /-- Identifies the predicates. -/
  phash : String := PredicateSet.emptyPhash
deriving Inhabited

namespace View

def refuses (v : View) (context : Resource) (r : Request) : Bool :=
  v.predicatesHold context r = some false

/-- Calls views in order up to the first that gives an answer: views whose predicates refuse the
request are passed over, and so are those that fail because of predicates. Gives the last such
failure where no view answers, starting from an earlier one. -/
def callFirst (refusal : View → Error) (context : Resource) :
    List View → Option Error → Handling (Response ⊕ Option Error)
  | [], last => return .inr last
  | v :: rest, _ => do
    if v.refuses context (← Handling.request) then
      callFirst refusal context rest (some (refusal v))
    else
      match ← (v.call context).outcome with
      | .ok response => return .inl response
      | .error e =>
        if e.isMismatch then callFirst refusal context rest (some e) else throw e

end View

end WebDispatch
