import WebDispatch.Configuration.Views

/-!
# Declared routes

A declared route is connected on commit, before the views that name it are stored. Its pattern is
below the prefix of the present scope. Static files are a route to the files and a view for it.
-/

namespace WebDispatch

namespace Configurator

def givenViewOptions (c : RouteConfig) : List String :=
  (if c.viewContext.isSome then ["view_context"] else [])
    ++ (if c.viewPermission.isSome then ["view_permission"] else [])
    ++ (if c.viewRenderer.isSome then ["view_renderer"] else [])
    ++ (if c.viewAttr.isSome then ["view_attr"] else [])

def refuseViewOptions (name : String) (c : RouteConfig) : Configuring Unit :=
  match c.view, givenViewOptions c with
  | none, option :: _ =>
    throw (.configuration (option
      ++ " may only be used together with view when adding route " ++ Text.quoted name))
  | _, _ => return ()

def routeIntrospectables (r : Route) : List Introspectable :=
  let i := (Introspectable.of "routes" r.name
      (r.name ++ " (pattern: " ++ Text.quoted r.pattern.source ++ ")") "route")
    |>.withAttribute "name" (.text r.name)
    |>.withAttribute "pattern" (.text r.pattern.source)
    |>.withAttribute "predicates" (.texts (r.predicates.map Predicate.text))
    |>.withAttribute "static" (.bool r.isStatic)
    |>.withAttribute "use_global_views" (.bool r.useGlobalViews)
    |>.withAttribute "factory" (.bool r.factory.isSome)
  if r.factory.isSome then
    [i, ((Introspectable.of "root factories" r.name r.name "root factory").withAttribute
      "route_name" (.text r.name)).relate "routes" r.name]
  else [i]

def connectRoute (route : Route) : Effect Setup Unit :=
  Setup.update fun r => { r with routes := some ((r.routes.getD {}).connect route) }

def routeView (name : String) (c : RouteConfig) (view : Reference Callable) : ViewConfig :=
  { view := some view
    routeName := some name
    context := c.viewContext
    permission := c.viewPermission
    renderer := c.viewRenderer
    attr := c.viewAttr }

def addRoute (site : Site) (name pattern : String) (c : RouteConfig) : Configuring Unit := do
  refuseViewOptions name c
  let factory ← c.factory.mapM (resolve .rootFactory)
  let set ← Effect.ofExcept c.predicates.compile
  let compiled ← Effect.ofExcept
    (Pattern.compile (RoutePrefix.apply (← get).routePrefix pattern))
  let route : Route := {
    name := name
    pattern := compiled
    factory := factory
    predicates := set.predicates
    pregenerator := c.pregenerator
    useGlobalViews := c.useGlobalViews
    isStatic := c.isStatic }
  act site (some ["route", name]) (some (connectRoute route)) (-10) (routeIntrospectables route)
  match c.view with
  | some view => addView site (routeView name c view)
  | none => return ()

/-- Declares files that are served below an address; anyone may get them unless a permission is
given. -/
def addStaticFiles (site : Site) (name : String) (files : StaticFiles)
    (permission : Option String) : Configuring Unit := do
  let address := Text.trimEndBy (· = '/') name ++ "/"
  let route := match (← get).routePrefix with
    | some p => "__" ++ p ++ "/" ++ address
    | none => "__" ++ address
  addRoute site route (address ++ "*subpath") {}
  addView site {
    view := some (.value files.callable)
    routeName := some route
    permission := some (permission.getD noPermissionRequired) }

end Configurator

end WebDispatch
