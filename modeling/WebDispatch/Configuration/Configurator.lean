import WebDispatch.Configuration.Catalog
import WebDispatch.ExceptionView
import WebDispatch.Router

/-!
# Configurators

An application while it is configured: its registry, the ledger of actions that have not been
carried out, the catalog of dotted names, and the scope in which declarations are made, which is
a package, a prefix for the patterns of routes, and the includes on the way there.

* `Configurator.ofRegistry` — begins the configuration of a registry;
* `Configurator.act` — records an action, or carries it out at once where that is the mode;
* `Configurator.commit` — carries out what has been recorded;
* `Scope.inside` — the scope of an include;
* `RoutePrefix` — the prefixes of routes and how they compose.
-/

namespace WebDispatch

open WebDispatch.Http (Response)

namespace RoutePrefix

/-- A prefix without slashes at its ends; none where nothing is left. -/
def normalize (s : String) : Option String :=
  let trimmed := Text.trimBy (· = '/') s
  if trimmed = "" then none else some trimmed

/-- A prefix inside another. -/
def compose (outer inner : Option String) : Option String :=
  normalize (Text.trimEndBy (· = '/') (outer.getD "") ++ "/"
    ++ Text.trimStartBy (· = '/') (inner.getD ""))

def apply (routePrefix : Option String) (pattern : String) : String :=
  match routePrefix with
  | some p => Text.trimEndBy (· = '/') p ++ "/" ++ Text.trimStartBy (· = '/') pattern
  | none => pattern

end RoutePrefix

/-- Where declarations are made. -/
structure Scope where
  package : Option String := none
  routePrefix : Option String := none
  /-- The includes that are being carried out, the outermost first. -/
  includePath : List String := []

/-- The scope of the include of a name, its routes below a further prefix. -/
def Scope.inside (s : Scope) (name : String) (routePrefix : Option String) : Scope where
  package := some (DottedName.package name)
  routePrefix := RoutePrefix.compose s.routePrefix routePrefix
  includePath := s.includePath ++ [name]

/-- An application while it is configured. -/
structure Configurator extends Setup, Scope where
  /-- Whether actions are carried out at once. -/
  autocommit : Bool := false
  catalog : Catalog := {}
  /-- The recorded actions. -/
  actions : List Action := []
  /-- The names of the includes that have been begun. -/
  included : List String := []
  /-- How many directives have been begun that count. -/
  performed : Nat := 0

abbrev Configuring (α : Type) : Type := Effect Configurator α

namespace Configurator

def plainErrorView : Callable := .function fun
  | .failure e => return .response e.response
  | _ => throw (.internal "exception response view called without an exception")

/-- Where the view for errors with a status code of their own is stored. -/
def plainErrorKey : ViewKey :=
  ⟨.exceptionViewClassifier, .request, .httpException, ""⟩

def withStandardRenderers (r : Registry) : Registry :=
  { r with renderers := r.renderers.insertAll Renderer.standard }

/-- The tween that answers errors, placed around the application itself. -/
def withExceptionTween (t : Tweens) : Tweens :=
  t.add ExceptionView.tweenName ExceptionView.tween (some ExceptionView.tweenAlias) none
    (some [TweenOrder.mainHandler])

/-- Begins the configuration of a registry: enters the standard renderers, the view for errors
and the tween that calls it. -/
def ofRegistry (r : Registry) (submitted : List (String × Definition)) : Configurator :=
  let r := withStandardRenderers r
  let r := match (DerivedView.derive r.toComponents plainErrorView {} []).1 with
    | .ok d => r.setView plainErrorKey (.single d.toView)
    | .error _ => r
  let catalog : Catalog := { submitted := submitted }
  { registry := { r with tweens := withExceptionTween r.tweens }
    catalog := catalog.define ExceptionView.tweenName (.tween ExceptionView.tween) }

def usualName : String := "cornice"

def ofSettings (s : Settings) (submitted : List (String × Definition)) : Configurator :=
  ofRegistry { Registry.empty usualName with settings := s } submitted

def setup {α : Type} (act : Effect Setup α) : Configuring α :=
  act.within (fun c => c.toSetup) fun c s => { c with toSetup := s }

def report (level : Level) (message : String) : Configuring Unit :=
  setup (Setup.report level message)

/-- What a reference stands for in the present scope. -/
def resolve {α : Type} (k : DefinitionKind α) (r : Reference α) : Configuring α := do
  let c ← get
  Effect.ofExcept (c.catalog.resolveReference k c.package r)

@[simp] theorem setup_apply {α : Type} (act : Effect Setup α) (c : Configurator) :
    setup act c = ((act c.toSetup).1, { c with toSetup := (act c.toSetup).2 }) := rfl

@[simp] theorem resolve_apply {α : Type} (k : DefinitionKind α) (r : Reference α)
    (c : Configurator) : resolve k r c = (c.catalog.resolveReference k c.package r, c) := rfl

def define (name : String) (d : Definition) : Configuring Unit := do
  let c ← get
  let absolute ← Effect.ofExcept (DottedName.absolute name c.package)
  set { c with catalog := c.catalog.define absolute d }

/-- Records an action in the present scope, or carries it out at once where that is the mode. -/
def act (site : Site) (discriminator : Option Discriminator) (perform : Option (Effect Setup Unit))
    (order : Int) (introspectables : List Introspectable) : Configuring Unit := do
  let c ← get
  if c.autocommit then
    setup (perform.getD (pure ()))
    setup (Setup.describe introspectables site)
  else
    let a : Action := ⟨discriminator, perform, order, c.includePath, site, introspectables⟩
    set { c with actions := c.actions ++ [a] }

/-- Carries out what has been recorded, which leaves the ledger in any case. -/
def commit : Configuring Unit := do
  let actions := (← get).actions
  modify fun c => { c with actions := [] }
  let order ← setup (Setup.reporting (Ledger.resolveReporting actions))
  report .debug "committing configuration"
  order.forM fun a => setup a.execute

def includeOfPackage (name : String) : String := name ++ ":includeme"

def findInclude (name : String) : Configuring (String × IncludeBody) := do
  let c ← get
  let absolute ← Effect.ofExcept (DottedName.absolute name c.package)
  let full :=
    if !c.catalog.contains absolute && c.catalog.contains (includeOfPackage absolute) then
      includeOfPackage absolute
    else absolute
  let body ← Effect.ofExcept (c.catalog.resolve .inclusion full none)
  return (full, body)

def description (c : Configurator) : String :=
  Text.openRecord "Configurator"
    [("package", Text.quotedOptional c.package),
     ("route_prefix", Text.quotedOptional c.routePrefix),
     ("includepath", Text.quotedList c.includePath),
     ("autocommit", Text.truth c.autocommit),
     ("pending_actions", toString c.actions.length)]

end Configurator

end WebDispatch
