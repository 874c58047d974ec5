import WebDispatch.Tween.Basic
import WebDispatch.View.Derived
import WebDispatch.View.Multi

/-!
# Registries

All that has been configured: the components of an application, its views and its tweens. Views
are stored in slots, by what the request and the context provide and by name; a slot that several
views compete for holds them all.

* `Registry.findViews` — the views for a request and a context, the most specific first;
* `Registry.addView` — stores a view in its slot, next to those that are there;
* `Registry.renderNamed`, `Registry.handleException` — the two ways back into the views;
* `Registry.environment` — the application as its handlers see it.
-/

namespace WebDispatch

open WebDispatch.Http (Response)

/-- Where a view is stored. -/
structure ViewKey where
  classifier : Interface
  request : Interface
  context : Interface
  name : String
deriving DecidableEq, Repr, Inhabited

/-- What is stored there. -/
inductive Slot where
  | single (v : View)
  | multi (m : MultiView)
deriving Inhabited

def Slot.toView : Slot → View
  | .single v => v
  | .multi m => m.toView

/-- All that has been configured. -/
structure Registry extends Components where
  views : OrderedMap ViewKey Slot := {}
  tweens : Tweens := {}

namespace Registry

def empty (name : String) : Registry := { name := name }

def viewCount (r : Registry) : Nat := r.views.size

def rendererNames (r : Registry) : List String := r.renderers.keys

def setView (r : Registry) (key : ViewKey) (s : Slot) : Registry :=
  { r with views := r.views.insert key s }

def dropView (r : Registry) (key : ViewKey) : Registry := { r with views := r.views.erase key }

/-- The keys of the slots to look at, what the request provides being the outer loop. -/
def keys (classifier : Interface) (requests contexts : List Interface) (name : String) :
    List ViewKey :=
  requests.flatMap fun request => contexts.map fun context => ⟨classifier, request, context, name⟩

def findViews (r : Registry) (classifier : Interface) (requests contexts : List Interface)
    (name : String) : List View :=
  ((keys classifier requests contexts name).filterMap r.views.get?).map Slot.toView

def lookupView? (r : Registry) (classifier : Interface) (requests contexts : List Interface)
    (name : String) : Option View :=
  (r.findViews classifier requests contexts name).head?

/-- The content of a slot after a view has come to it, and whether it holds several now. A view
with the same predicates is replaced. -/
def merged (old : Option Slot) (name : String) (v : View) : Slot :=
  let join (m : MultiView) : Slot := .multi (m.add v v.order v.phash v.accept)
  match old with
  | none => .single v
  | some (.multi m) => join m
  | some (.single u) =>
    if u.phash = v.phash then .single v
    else join (({ name := name } : MultiView).add u u.order u.phash u.accept)

/-- Stores a view in its slot, next to those that are there. -/
def addView (r : Registry) (key : ViewKey) (v : View) : Registry :=
  r.setView key (merged (r.views.get? key) key.name v)

@[simp] theorem get?_addView (r : Registry) (key : ViewKey) (v : View) (k : ViewKey) :
    (r.addView key v).views.get? k =
      if key = k then some (merged (r.views.get? key) key.name v) else r.views.get? k := by
  simp [addView, setView]

/-- Calls the most specific view of a name for a context, with its permission checked or not. -/
def renderNamed (r : Registry) (context : Resource) (name : String) (secure : Bool) :
    Handling (Option Response) := do
  let request ← Handling.request
  match r.lookupView? .viewClassifier request.type.order context.provided name with
  | none => return none
  | some v => if secure then v.call context else v.callPermissive context

/-- Calls the most specific exception view for an error; none where there is no such view, or its
predicates refuse the request. -/
def handleException (r : Registry) (e : Error) : Handling (Option Response) := do
  let request ← Handling.request
  match r.lookupView? .exceptionViewClassifier request.type.combined e.provided "" with
  | none =>
    Handling.report .debug "cornice::router" "no exception view registered"
    return none
  | some v =>
    Handling.report .debug "cornice::router" "calling exception view"
    match ← (v.call (.failure e)).outcome with
    | .ok response => return some response
    | .error f => if f.isMismatch then return none else throw f

/-- How deeply views may call views by name, so that answering a request comes to an end. No result
rests on the bound: what is shown of applications is shown of any environment or of every depth. -/
def nestingLimit : Nat := 100

/-- The failure of views that call each other without end. -/
def nestedTooDeeply : Error := .internal "views are nested too deeply"

/-- The application as its handlers see it, where views may call views by name so many levels
deep. -/
def environmentWithin (r : Registry) (now : Nat) : Nat → Environment
  | 0 =>
    { components := some r.toComponents, now := now
      renderNamed := fun _ _ _ => throw nestedTooDeeply
      handleError := fun _ => throw nestedTooDeeply }
  | depth + 1 =>
    let inner := r.environmentWithin now depth
    { components := some r.toComponents, now := now
      renderNamed := fun context name secure => r.renderNamed context name secure inner
      handleError := fun e => r.handleException e inner }

/-- The application as its handlers see it at a given time. -/
def environment (r : Registry) (now : Nat) : Environment := r.environmentWithin now nestingLimit

def description (r : Registry) : String :=
  Text.openRecord "Registry"
    [("name", Text.quoted r.name),
     ("views", toString r.viewCount),
     ("renderers", Text.quotedList r.rendererNames),
     ("default_permission", Text.quotedOptional r.defaultPermission)]

end Registry

end WebDispatch
