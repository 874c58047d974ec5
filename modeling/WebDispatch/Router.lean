import WebDispatch.Registry
import WebDispatch.Traversal

/-!
# Routers

A router answers requests. It finds the route of a request, the root of its resources, the
context, and the view, and tells subscribers on the way; around all this are the tweens.

* `Router.make` — the router of a registry, or why its tweens have no order;
* `Router.handle` — answers a request by the tweens and what they stand around;
* `Router.invoke` — does besides what was left to do for the response and for the end;
* `Router.respond` — always has a response.
-/

namespace WebDispatch

open WebDispatch.Http (Response)

namespace Registry

def routerArea : String := "cornice::router"

def noRouteText (r : Request) : String := "no route matched for url " ++ r.target.text

def routeText (r : Request) (route : Route) (d : MatchDict) : String :=
  "route matched for url " ++ r.target.text
    ++ "; route_name: " ++ Text.quoted route.name
    ++ ", path_info: " ++ Text.quoted r.pathInfo
    ++ ", pattern: " ++ Text.quoted route.pattern.source
    ++ ", matchdict: " ++ d.description
    ++ ", predicates: " ++ Text.quoted (Text.joinWith ", " (route.predicates.map Predicate.text))

/-- Finds the route of a request and gives the root factory to use. -/
def findRoute (c : Registry) : Handling RootFactory := do
  let usual := c.rootFactory.getD RootFactory.standard
  match c.routes with
  | none => return usual
  | some table =>
    let r ← Handling.request
    match table.match? r with
    | none =>
      if c.settings.debugRouteMatch then Handling.report .debug routerArea (noRouteText r)
      return usual
    | some (route, d) =>
      if c.settings.debugRouteMatch then Handling.report .debug routerArea (routeText r route d)
      Handling.modifyRequest fun r =>
        { r with matchdict := some d, type := route.type, route := some route.name }
      return route.factory.getD usual

/-- Leaves with the request what traversal found. -/
def recordFound (f : Traversal.Found) (r : Request) : Request :=
  { r with
    root := some f.root
    context := some f.context
    viewName := f.viewName
    subpath := f.subpath
    traversed := f.traversed
    virtualRoot := some f.virtualRoot
    virtualRootPath := f.virtualRootPath }

def notFoundText (r : Request) (context : Resource) : String :=
  "debug_notfound of url " ++ r.target.text
    ++ "; path_info: " ++ Text.quoted r.pathInfo
    ++ ", context: " ++ context.path
    ++ ", view_name: " ++ Text.quoted r.viewName
    ++ ", subpath: " ++ Text.quotedList r.subpath
    ++ ", traversed: " ++ Text.quotedList r.traversed
    ++ ", root: " ++ (r.root.map Resource.path).getD ""
    ++ ", vroot_path: " ++ Text.quotedList r.virtualRootPath

def noView (c : Registry) (context : Resource) : Handling Error := do
  let r ← Handling.request
  if c.settings.debugNotFound then
    let text := notFoundText r context
    Handling.report .debug routerArea text
    return .notFound text
  else return .notFound r.pathInfo

def viewsFor (c : Registry) (context : Resource) (r : Request) : List View :=
  c.findViews .viewClassifier r.type.order context.provided r.viewName

/-- Calls the most specific view that does not refuse the request. -/
def callView (c : Registry) (context : Resource) : Handling Response := do
  let views := c.viewsFor context (← Handling.request)
  match ← View.callFirst (fun v => .predicateMismatch v.description) context views none with
  | .inl response => return response
  | .inr (some e) => throw e
  | .inr none => throw (← c.noView context)

def announce (c : Registry) (kind : EventKind) (call : Subscriber → Effect Exchange Unit) :
    Handling Unit :=
  fun _ => c.subscriptions.notify kind call

/-- Tells the subscribers that a view has answered, and gives what they made of the response. -/
def announceResponse (c : Registry) (response : Response) : Handling Response :=
  fun _ x =>
    let (result, s, x) :=
      c.subscriptions.notify .newResponse (fun s => s.newResponse) (response, x)
    (result.map fun _ => s, x)

/-- Answers a request, without tweens. -/
def dispatch (c : Registry) : Handler := do
  c.announce .newRequest fun s => s.newRequest
  let factory ← c.findRoute
  let root ← Handling.ofExcept (factory (← Handling.request))
  let found := Traversal.traverse root (← Handling.request)
  Handling.modifyRequest (recordFound found)
  c.announce .contextFound fun s => s.contextFound
  let response ← c.callView found.context
  c.announceResponse response

end Registry

structure Router where
  registry : Registry
  /-- The tweens around the handling of requests. -/
  handler : Handler

namespace Router

def make (r : Registry) : Effect Journal Router := do
  let handler ← r.tweens.wrap r.name r.dispatch
  return ⟨r, handler⟩

/-- Answers a request, and leaves what is to be done for the response and for the end. -/
def handle (r : Router) (now : Nat) : Effect Exchange Response :=
  r.handler (r.registry.environment now)

def finishResponse (response : Response) : Effect Exchange Response :=
  fun x =>
    let (s, x) := x.runResponse response
    (.ok s, x)

/-- Answers a request. What was left to do for the response is done if there is one, and what was
left for the end is done in any case. -/
def invoke (r : Router) (now : Nat) : Effect Exchange Response :=
  fun x =>
    let (result, x) := (r.handle now >>= finishResponse) x
    (result, x.runFinished)

/-- Answers a request, errors by plain responses. -/
def respond (r : Router) (now : Nat) (x : Exchange) : Response × Exchange :=
  match r.invoke now x with
  | (.ok response, x) => (response, x)
  | (.error e, x) =>
    (e.response, x.report .warning Registry.routerArea "unhandled error while dispatching")

def routePath (r : Router) (name : String) (values : MatchDict) : Except Error String :=
  r.registry.routePath name values

def description (r : Router) : String :=
  Text.openRecord "Router" [("registry", r.registry.description)]

end Router

end WebDispatch
