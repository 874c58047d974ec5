import WebDispatch.Configuration.Ledger
import WebDispatch.StaticFiles

/-!
# Declarations

What an application declares about itself: views and routes, static files, tweens, renderers,
policies, factories, subscribers, settings, and actions of its own. Where a declaration needs a
thing of the program, it may give the thing itself or a dotted name.
-/

namespace WebDispatch

/-- A thing of the program, given by name or as it is. -/
inductive Reference (α : Type) where
  | named (name : String)
  | value (a : α)

def Reference.description {α : Type} : Reference α → String
  | named name => "Name(" ++ Text.quoted name ++ ")"
  | value _ => "Value(..)"

structure ViewConfig where
  /-- The callable; without one the renderer gets an empty object. -/
  view : Option (Reference Callable) := none
  name : String := ""
  context : Option Interface := none
  routeName : Option String := none
  permission : Option String := none
  attr : Option String := none
  renderer : Option String := none
  wrapper : Option String := none
  httpCache : Option HttpCache := none
  decorator : Option (ViewFunction → ViewFunction) := none
  mapper : Option (Callable → Option String → Except Error MappedView) := none
  predicates : PredicateOptions := {}

def ViewConfig.description (c : ViewConfig) : String :=
  Text.openRecord "ViewConfig"
    [("view", Text.optional (c.view.map Reference.description)),
     ("name", Text.quoted c.name),
     ("context", Text.optional (c.context.map Interface.description)),
     ("route_name", Text.quotedOptional c.routeName),
     ("permission", Text.quotedOptional c.permission),
     ("renderer", Text.quotedOptional c.renderer),
     ("predicates", c.predicates.description)]

structure RouteConfig where
  factory : Option (Reference RootFactory) := none
  predicates : PredicateOptions := {}
  pregenerator : Option (MatchDict → MatchDict) := none
  useGlobalViews : Bool := false
  isStatic : Bool := false
  view : Option (Reference Callable) := none
  viewContext : Option Interface := none
  viewPermission : Option String := none
  viewRenderer : Option String := none
  viewAttr : Option String := none

def RouteConfig.description (c : RouteConfig) : String :=
  Text.openRecord "RouteConfig"
    [("factory", Text.optional (c.factory.map Reference.description)),
     ("predicates", c.predicates.description),
     ("use_global_views", Text.truth c.useGlobalViews),
     ("is_static", Text.truth c.isStatic),
     ("view", Text.optional (c.view.map Reference.description))]

structure TweenPlacement where
  /-- The alias, by which other placements may name the tween. -/
  knownAs : Option String := none
  /-- Alternatives that it is under: it stands nearer to the application. -/
  below : Option (List String) := none
  /-- Alternatives that it is over: it stands nearer to the outside. -/
  above : Option (List String) := none
deriving DecidableEq, Repr, Inhabited

inductive Declaration where
  | view (c : ViewConfig)
  /-- A view for errors, of any kind unless a context is given. -/
  | exceptionView (c : ViewConfig)
  | notFoundView (c : ViewConfig)
  | forbiddenView (c : ViewConfig)
  | route (name pattern : String) (c : RouteConfig)
  /-- A directory whose files are served below an address. -/
  | staticFiles (name : String) (files : StaticFiles) (permission : Option String)
  | renderer (name : String) (factory : Reference RendererFactory)
  | defaultPermission (permission : String)
  | authentication (policy : AuthenticationPolicy)
  | authorization (policy : AuthorizationPolicy)
  | rootFactory (factory : Reference RootFactory)
  | sessionFactory (factory : SessionFactory)
  | localeNegotiator (negotiator : LocaleNegotiator)
  | subscriber (kind : EventKind) (s : Reference Subscriber)
  /-- A tween; one that is given is entered in the catalog under its name. -/
  | tween (name : String) (factory : Option TweenFactory) (placement : TweenPlacement)
  /-- An action of the application's own. -/
  | action (discriminator : Option Discriminator) (perform : Option (Effect Setup Unit))
    (order : Int) (introspectables : List Introspectable)
  | settings (entries : List (String × String))
  /-- Carries out what has been recorded so far. -/
  | commit

end WebDispatch
