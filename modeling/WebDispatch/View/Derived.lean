import WebDispatch.Http.Date
import WebDispatch.View.Basic
import WebDispatch.View.Callable

/-!
# Derived views

A callable becomes a view by standard steps around it. Called, the view asks its predicates, puts
the decision on access into words, asks whether the sender may call it, and then runs the
callable, renders what it returned, decorates the response, sets its caching fields, and hands it
to a wrapper view.

* `ViewOptions` — what is declared with a callable;
* `DerivedView.derive` — the view, or why it cannot be made;
* `rendered`, `cached`, `wrapped`, `secured`, `explained`, `predicated` — the steps, the innermost
  first.
-/

namespace WebDispatch

open WebDispatch.Http (Response)

structure HttpCache where
  /-- For how long responses may be kept; zero seconds forbid it. -/
  seconds : Option Nat := none
  /-- Further directives. -/
  directives : List String := []
deriving DecidableEq, Repr, Inhabited

namespace HttpCache

def ageDirectives (c : HttpCache) : List String :=
  match c.seconds with
  | none => []
  | some 0 => ["max-age=0", "must-revalidate", "no-cache", "no-store"]
  | some n => ["max-age=" ++ toString n]

def apply (c : HttpCache) (now : Nat) (r : Response) : Response :=
  let r := match c.seconds with
    | none => r
    | some n =>
      let r := r.setHeader "expires" (Http.Instant.text (now + n))
      if n = 0 then r.setHeader "pragma" "no-cache" else r
  let directives := c.ageDirectives ++ c.directives
  if directives.isEmpty then r
  else r.setHeader "cache-control" (Text.joinWith ", " directives)

def description (c : HttpCache) : String :=
  Text.record "HttpCache"
    [("seconds", Text.optional (c.seconds.map toString)),
     ("directives", Text.quotedList c.directives)]

end HttpCache

structure ViewOptions where
  name : String := ""
  permission : Option String := none
  predicates : List Predicate := []
  /-- The method to call. -/
  attr : Option String := none
  renderer : Option String := none
  /-- The name of the view that gets the response of this one. -/
  wrapper : Option String := none
  httpCache : Option HttpCache := none
  accept : Option String := none
  order : Nat := PredicateSet.lastOrder
  phash : String := PredicateSet.emptyPhash
  decorator : Option (ViewFunction → ViewFunction) := none
  /-- Replaces the usual reading of the callable's shape. -/
  mapper : Option (Callable → Option String → Except Error MappedView) := none
  /-- The package of the configuration that declares the view. -/
  package : Option String := none
deriving Inhabited

namespace ViewOptions

def description (o : ViewOptions) : String :=
  Text.openRecord "ViewOptions"
    [("name", Text.quoted o.name),
     ("permission", Text.quotedOptional o.permission),
     ("predicates", Text.listed (o.predicates.map Predicate.description)),
     ("attr", Text.quotedOptional o.attr),
     ("renderer", Text.quotedOptional o.renderer),
     ("wrapper", Text.quotedOptional o.wrapper),
     ("http_cache", Text.optional (o.httpCache.map HttpCache.description)),
     ("accept", Text.quotedOptional o.accept),
     ("order", toString o.order),
     ("phash", Text.quoted o.phash)]

end ViewOptions

/-- A renderer under the name by which a view asked for it. -/
structure NamedRenderer where
  name : String
  renderer : Renderer
deriving Inhabited

namespace NamedRenderer

def announce (value : Value) (values : OrderedMap String Value) : Handling Rendering := do
  match (← read).components with
  | none => return { value := value, values := values }
  | some c =>
    let notified : Effect Rendering Rendering := do
      c.subscriptions.notify .beforeRender fun s => s.beforeRender
      get
    fun _ => notified.within (fun x => { value := value, values := values, journal := x.journal })
      fun x e => { x with journal := e.journal }

/-- Renders a value into the response in preparation, which is used up. -/
def render (n : NamedRenderer) (value : Value) (viewName : String) : ViewFunction :=
  fun context => do
    let path := (← Handling.request).target.path
    let rendering ← announce value
      (.ofList [("renderer_name", .text n.name), ("view_name", .text viewName),
        ("req_path", .text path)])
    let body ← fun _ =>
      n.renderer rendering.value ⟨n.name, viewName, some context, rendering.values⟩
    let response := (← Handling.request).prepared.getD {}
    Handling.modifyRequest fun r => { r with prepared := none }
    return (response.defaultContentType Renderer.defaultContentType).setText body

end NamedRenderer

/-- A view made from a callable. -/
structure DerivedView where
  description : String
  call : ViewFunction
  /-- Runs the callable and the steps around it up to the wrapper view. -/
  permissive : ViewFunction
  predicates : List Predicate
  /-- Whether the sender may call the view, where that is asked. -/
  permitted : Option (Resource → Request → Bool)
  accept : Option String
  order : Nat
  phash : String
deriving Inhabited

namespace DerivedView

def describe (c : Callable) (o : ViewOptions) : String :=
  c.description
    ++ (if o.name = "" then "" else " named " ++ Text.quoted o.name)
    ++ (match o.attr with | some a => " (attr " ++ Text.quoted a ++ ")" | none => "")

def permission (c : Components) (o : ViewOptions) : Option String :=
  o.permission <|> c.defaultPermission

def renderer? (c : Components) (o : ViewOptions) : Effect Journal (Option NamedRenderer) :=
  match o.renderer with
  | some name => return some ⟨name, ← c.renderer name o.package⟩
  | none =>
    if c.renderers.contains "" then return some ⟨"", ← c.renderer "" o.package⟩ else return none

/-- Renders what the callable returned, unless it is a response. The request may ask for another
renderer. -/
def rendered (renderer : Option NamedRenderer) (viewName description : String)
    (view : MappedView) : ViewFunction :=
  fun context => do
    match ← view context, renderer with
    | .response r, _ => return r
    | .value v, none =>
      throw (.invalidResponse ("Could not convert return value of the view callable "
        ++ description ++ " into a response object. The value returned was " ++ v.compact ++ "."))
    | .value v, some usual =>
      match (← Handling.request).renderer with
      | none => usual.render v viewName context
      | some name =>
        let c ← Handling.components
        let other ← Handling.reporting (c.renderer name none)
        NamedRenderer.render ⟨name, other⟩ v viewName context

/-- Sets the caching fields of the response, unless the settings forbid it. -/
def cached (c : Components) (o : ViewOptions) (view : ViewFunction) : ViewFunction :=
  match c.settings.preventHttpCache, o.httpCache with
  | false, some cache => fun context => return cache.apply (← read).now (← view context)
  | _, _ => view

/-- Hands the response to the wrapper view, whose response is the answer. -/
def wrapped (o : ViewOptions) (description : String) (view : ViewFunction) : ViewFunction :=
  match o.wrapper with
  | none => view
  | some name => fun context => do
    let inner ← view context
    Handling.modifyRequest fun r =>
      { r with wrapped := some inner, wrappedBody := some inner.body }
    match ← (← read).renderNamed context name true with
    | some response => return response
    | none =>
      throw (.configuration ("No wrapper view named " ++ Text.quoted name
        ++ " found when executing view " ++ description))

/-- Whether the sender may call the view; none where that is not asked. -/
def check? (c : Components) (o : ViewOptions) : Option (Resource → Request → Bool) :=
  match c.authentication, c.authorization, permission c o with
  | some who, some may, some p =>
    if p = noPermissionRequired then none
    else some fun context r => may.permits context (who.principals r) p
  | _, _, _ => none

def secured (check : Option (Resource → Request → Bool)) (description : String)
    (view : ViewFunction) : ViewFunction :=
  match check with
  | none => view
  | some may => fun context => do
    let r ← Handling.request
    if may context r then view context
    else throw (.forbidden (r.accessReason.getD
      ("Unauthorized: " ++ description ++ " failed permission check")))

def decision (c : Components) (o : ViewOptions) (context : Resource) (r : Request) : String :=
  match c.authentication, c.authorization, permission c o with
  | some who, some may, some p =>
    if p = noPermissionRequired then "Allowed (NO_PERMISSION_REQUIRED)"
    else
      let principals := who.principals r
      (if may.permits context principals p then "Allowed" else "Denied")
        ++ " (permission " ++ Text.quoted p ++ " for principals " ++ Text.quotedList principals
        ++ ")"
  | some _, some _, none => "Allowed (no permission registered)"
  | _, _, _ => "Allowed (no authorization policy in use)"

def explanation (c : Components) (o : ViewOptions) (context : Resource) (r : Request) : String :=
  "debug_authorization of url " ++ r.target.text ++ " (view name " ++ Text.quoted r.viewName
    ++ " against context " ++ context.path ++ "): " ++ decision c o context r

def explained (c : Components) (o : ViewOptions) (view : ViewFunction) : ViewFunction :=
  if c.settings.debugAuthorization then
    fun context => do
      let reason := explanation c o context (← Handling.request)
      Handling.report .debug "cornice::views" reason
      Handling.modifyRequest fun r => { r with accessReason := some reason }
      view context
  else view

/-- Runs the view only if all predicates hold; fails because of the first that does not. -/
def predicated (o : ViewOptions) (description : String) (view : ViewFunction) : ViewFunction :=
  fun context => do
    let r ← Handling.request
    match o.predicates.find? fun p => !p.holds context r with
    | some p =>
      throw (.predicateMismatch ("predicate mismatch for view " ++ description ++ " (" ++ p.text
        ++ ")"))
    | none => view context

def derive (c : Components) (callable : Callable) (o : ViewOptions) :
    Effect Journal DerivedView := do
  let description := describe callable o
  let view ← Effect.ofExcept (o.mapper.getD Callable.mapped callable o.attr)
  let renderer ← renderer? c o
  let decorate := o.decorator.getD id
  let permissive :=
    wrapped o description (cached c o (decorate (rendered renderer o.name description view)))
  let check := check? c o
  return {
    description := description
    call := predicated o description (explained c o (secured check description permissive))
    permissive := permissive
    predicates := o.predicates
    permitted := check
    accept := o.accept
    order := o.order
    phash := o.phash }

def isSecured (d : DerivedView) : Bool := d.permitted.isSome

def toView (d : DerivedView) : View where
  description := d.description
  call := d.call
  callPermissive := d.permissive
  permitted context r := d.permitted.all fun may => may context r
  predicatesHold context r :=
    if d.predicates.isEmpty then none else some (d.predicates.all fun p => p.holds context r)
  accept := d.accept
  order := d.order
  phash := d.phash

end DerivedView

end WebDispatch
