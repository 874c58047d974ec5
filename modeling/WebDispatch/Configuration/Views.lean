import WebDispatch.Configuration.Configurator

/-!
# Declared views

A declared view is checked at once as far as that is possible; on commit it is derived and stored
in the slot for its route, its context and its name. Views for errors have no name and no
permission.
-/

namespace WebDispatch

namespace Configurator

/-- Which of the two kinds of views a declaration is about. -/
inductive ViewKind where
  | ordinary
  | exceptional
deriving DecidableEq, Repr

def ViewKind.classifier : ViewKind → Interface
  | ordinary => .viewClassifier
  | exceptional => .exceptionViewClassifier

def ViewKind.category : ViewKind → String
  | ordinary => "views"
  | exceptional => "exception views"

def emptyView : Callable := .requestFunction (return .value (.object []))

/-- The callable of a declared view. -/
def callableOf (c : ViewConfig) : Configuring Callable :=
  match c.view with
  | some v => resolve .view v
  | none =>
    if c.renderer.isSome then return emptyView
    else throw (.configuration "\"view\" was not specified and no \"renderer\" specified")

/-- What a view is known by in the ledger. -/
def viewDiscriminator (c : ViewConfig) (context : Interface) (phash : String) : Discriminator :=
  ["view", context.name, c.name, c.routeName.getD "None", phash]

/-- The permission of a view; anyone may see how an error is answered. -/
def ViewKind.permission (k : ViewKind) (c : ViewConfig) : Option String :=
  match k with
  | ordinary => c.permission
  | exceptional => some noPermissionRequired

def viewIntrospectables (k : ViewKind) (c : ViewConfig) (callable : Callable)
    (context : Interface) (set : PredicateSet) : List Introspectable :=
  let permission := k.permission c
  let d := viewDiscriminator c context set.phash
  let i := (Introspectable.of k.category d.text callable.description "view")
    |>.withAttribute "name" (.text c.name)
    |>.withAttribute "context" (.text context.name)
    |>.withAttribute "route_name" (.ofText? c.routeName)
    |>.withAttribute "permission" (.ofText? permission)
    |>.withAttribute "attr" (.ofText? c.attr)
    |>.withAttribute "renderer" (.ofText? c.renderer)
    |>.withAttribute "accept" (.ofText? c.predicates.accept)
    |>.withAttribute "order" (.number set.order)
    |>.withAttribute "phash" (.text set.phash)
    |>.withAttribute "predicates" (.texts (set.predicates.map Predicate.text))
  let i := match c.routeName with
    | some route => i.relate "routes" route
    | none => i
  match permission.filter (· ≠ noPermissionRequired) with
  | some p => [i.relate "permissions" p, Introspectable.of "permissions" p p "permission"]
  | none => [i]

def requestInterface (r : Registry) : Option String → Except Error Interface
  | none => .ok .request
  | some name =>
    match r.routes.bind (·.get? name) with
    | some route => .ok route.type.iface
    | none =>
      .error (.configuration ("No route named " ++ name ++ " found for view registration"))

def storeView (k : ViewKind) (context : Interface) (route : Option String) (callable : Callable)
    (o : ViewOptions) : Effect Setup Unit := do
  let request ← Effect.ofExcept (requestInterface (← get).registry route)
  let d ← Setup.reporting (DerivedView.derive (← get).registry.toComponents callable o)
  let key : ViewKey := ⟨k.classifier, request, context, o.name⟩
  Setup.update fun r => r.addView key d.toView
  match (← get).registry.views.get? key with
  | some (.multi _) => Setup.report .debug "views merged into a multi-view"
  | _ => return ()

def addViewOf (k : ViewKind) (site : Site) (c : ViewConfig) : Configuring Unit := do
  let callable ← callableOf c
  let set ← Effect.ofExcept c.predicates.compile
  let context := c.context.getD .any
  let o : ViewOptions := {
    name := c.name
    permission := k.permission c
    predicates := set.predicates
    attr := c.attr
    renderer := c.renderer
    wrapper := c.wrapper
    httpCache := c.httpCache
    accept := c.predicates.accept
    order := set.order
    phash := set.phash
    decorator := c.decorator
    mapper := c.mapper
    package := (← get).package }
  act site (some (viewDiscriminator c context set.phash))
    (some (storeView k context c.routeName callable o)) 0
    (viewIntrospectables k c callable context set)

def addView (site : Site) (c : ViewConfig) : Configuring Unit := addViewOf .ordinary site c

def refusedOptions (c : ViewConfig) (fixedContext : Bool) : List String :=
  (if c.name = "" then [] else ["name"])
    ++ (if c.permission.isSome then ["permission"] else [])
    ++ (if c.httpCache.isSome then ["http_cache"] else [])
    ++ (if fixedContext && c.context.isSome then ["context"] else [])

def refuseOptions (c : ViewConfig) (method : String) (fixedContext : Bool) : Configuring Unit :=
  match refusedOptions c fixedContext with
  | [] => return ()
  | option :: _ =>
    throw (.configuration (option ++ " may not be used as an argument to " ++ method))

def addExceptionView (site : Site) (c : ViewConfig) : Configuring Unit := do
  refuseOptions c "add_exception_view" false
  addViewOf .exceptional site { c with context := some (c.context.getD .exception) }

def setNotFoundView (site : Site) (c : ViewConfig) : Configuring Unit := do
  refuseOptions c "set_notfound_view" true
  addViewOf .exceptional site { c with context := some .notFound }

def setForbiddenView (site : Site) (c : ViewConfig) : Configuring Unit := do
  refuseOptions c "set_forbidden_view" true
  addViewOf .exceptional site { c with context := some .forbidden }

end Configurator

end WebDispatch
