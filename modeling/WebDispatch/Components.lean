import WebDispatch.Event
import WebDispatch.Introspection
import WebDispatch.Renderer
import WebDispatch.Route.Table
import WebDispatch.Settings.Basic

/-!
# Components

What a configured application consists of, its views and tweens apart: settings, routes, renderer
factories, policies, factories and subscribers.
-/

namespace WebDispatch

/-- Tells who sends a request. -/
structure AuthenticationPolicy where
  /-- All that the sender acts as. -/
  principals : Request → List String
  /-- Who the sender is, where that is known. -/
  userId : Request → Option String := fun _ => none

/-- Tells what principals may do. -/
structure AuthorizationPolicy where
  permits : Resource → List String → String → Bool
  /-- Who may use a permission, where that is known. -/
  allowed : Resource → String → List String := fun _ _ => []

abbrev SessionFactory : Type := Request → Effect Journal Session

/-- Chooses the locale of a request; none stands for the default. -/
abbrev LocaleNegotiator : Type := Request → Option String

/-- The permission of views that anyone may call. -/
def noPermissionRequired : String := "__no_permission_required__"

/-- The parts of an application that its handlers use. -/
structure Components where
  name : String
  settings : Settings := Settings.ofValues {}
  routes : Option RouteTable := none
  renderers : OrderedMap String RendererFactory := {}
  authentication : Option AuthenticationPolicy := none
  authorization : Option AuthorizationPolicy := none
  /-- The permission of views that declare none. -/
  defaultPermission : Option String := none
  rootFactory : Option RootFactory := none
  sessionFactory : Option SessionFactory := none
  localeNegotiator : Option LocaleNegotiator := none
  subscriptions : Subscriptions := []
  introspector : Introspector := {}

namespace Components

def hasListeners (c : Components) : Bool := !c.subscriptions.isEmpty

def routePath (c : Components) (name : String) (values : MatchDict) : Except Error String :=
  match c.routes with
  | some t => t.generate name values
  | none => .error (.configuration "no routes are configured")

def renderer (c : Components) (name : String) (package : Option String) :
    Effect Journal Renderer :=
  let wanted : RendererRequest := ⟨name, package, c.name⟩
  match c.renderers.get? wanted.kind with
  | some make => make wanted
  | none => throw (.configuration ("No such renderer factory " ++ wanted.kind))

def localeName (c : Option Components) (r : Request) : String :=
  let chosen := match c.bind localeNegotiator with
    | some negotiate => negotiate r
    | none => r.param? Request.localeParam
  chosen.getD (c.elim "en" fun c => c.settings.defaultLocaleName)

end Components

end WebDispatch
