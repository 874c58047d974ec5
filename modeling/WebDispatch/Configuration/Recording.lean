import WebDispatch.Configuration.Declare
import WebDispatch.Keeping

/-!
# What declarations record

Declarations resolve and check what they are given and then record work together with descriptions.
A relation is kept by a declaration when it is kept by recording what that declaration may record,
by giving a name to a tween, and by changing the settings. Only a commit does anything else.

* `Configurator.act_apply`, `Configurator.act_deferred` — what recording does;
* `Declaration.Records` — the work and the descriptions that a declaration may record;
* `Configurator.declare_keeps` — what is kept by recording them is kept by the declaration.
-/

namespace WebDispatch

open Effect Configurator

/-- The work and the descriptions that a declaration may record. -/
inductive Declaration.Records (d : Declaration) :
    Option (Effect Setup Unit) → List Introspectable → Prop where
  | view (k : ViewKind) (c : ViewConfig) (callable : Callable) (context : Interface)
    (set : PredicateSet) (o : ViewOptions) :
    d.Records (some (storeView k context c.routeName callable o))
      (viewIntrospectables k c callable context set)
  | route (r : Route) : d.Records (some (connectRoute r)) (routeIntrospectables r)
  | renderer (name : String) (f : RendererFactory) :
    d.Records
      (some (Setup.update fun r => { r with renderers := r.renderers.insert name f }))
      [(Introspectable.of "renderer factories" name name "renderer factory").withAttribute "name"
        (.text name)]
  | defaultPermission (permission : String) :
    d.Records (some (Setup.update fun r => { r with defaultPermission := some permission }))
      [((Introspectable.of "default permission" "" permission "default permission")
          |>.withAttribute "value" (.text permission)
          |>.relate "permissions" permission),
        Introspectable.of "permissions" permission permission "permission"]
  | authentication (p : AuthenticationPolicy) :
    d.Records (some (Setup.update fun r => { r with authentication := some p }))
      [.of "authentication policy" "" "authentication policy" "authentication policy"]
  | authorization (p : AuthorizationPolicy) :
    d.Records (some (Setup.update fun r => { r with authorization := some p }))
      [.of "authorization policy" "" "authorization policy" "authorization policy"]
  | requirement : d.Records (some requireAuthentication) []
  | rootFactory (f : RootFactory) :
    d.Records (some (Setup.update fun r => { r with rootFactory := some f }))
      [.of "root factories" "" "root factory" "root factory"]
  | sessionFactory (f : SessionFactory) :
    d.Records (some (Setup.update fun r => { r with sessionFactory := some f }))
      [.of "session factory" "" "session factory" "session factory"]
  | localeNegotiator (f : LocaleNegotiator) :
    d.Records (some (Setup.update fun r => { r with localeNegotiator := some f }))
      [.of "locale negotiator" "" "locale negotiator" "locale negotiator"]
  | tween (name : String) (f : TweenFactory) (p : TweenPlacement) :
    d.Records
      (some (Setup.update fun r =>
        { r with tweens := r.tweens.add name f p.knownAs p.below p.above }))
      [placedTweenIntrospectable name p]
  | subscriber {kind : EventKind} {reference : Reference Subscriber} (s : Subscriber)
    (number : Nat) (h : d = .subscriber kind reference) :
    d.Records
      (some (Setup.update fun r => { r with subscriptions := r.subscriptions ++ [(kind, s)] }))
      [(Introspectable.of "subscribers" (kind.name ++ " " ++ toString number)
        (kind.name ++ " subscriber") "subscriber").withAttribute "event" (.text kind.name)]
  | custom {discriminator : Option Discriminator} {perform : Option (Effect Setup Unit)}
    {order : Int} {introspectables : List Introspectable}
    (h : d = .action discriminator perform order introspectables) :
    d.Records perform introspectables

namespace Configurator

/-! ## Recording -/

theorem act_apply (site : Site) (d : Option Discriminator) (f : Option (Effect Setup Unit))
    (order : Int) (is : List Introspectable) (c : Configurator) :
    act site d f order is c = (if c.autocommit then do
        setup (f.getD (pure ()))
        setup (Setup.describe is site)
      else
        let action : Action := ⟨d, f, order, c.includePath, site, is⟩
        set { c with actions := c.actions ++ [action] } : Configuring Unit) c := rfl

theorem act_deferred {c : Configurator} (h : c.autocommit = false) (site : Site)
    (d : Option Discriminator) (f : Option (Effect Setup Unit)) (order : Int)
    (is : List Introspectable) :
    act site d f order is c =
      (.ok (), { c with actions := c.actions ++ [⟨d, f, order, c.includePath, site, is⟩] }) := by
  simp [act_apply, h]

/-! ## What is kept -/

variable {α : Type} {R : Configurator → Configurator → Prop} [Std.Refl R]

/-- A relation is kept by recording work and descriptions, wherever and as what this is done. -/
def RecordingKeeps (R : Configurator → Configurator → Prop) (f : Option (Effect Setup Unit))
    (is : List Introspectable) : Prop :=
  ∀ site discriminator order, (act site discriminator f order is).Keeps R

theorem refuseOptions_keeps (c : ViewConfig) (method : String) (fixedContext : Bool) :
    (refuseOptions c method fixedContext).Keeps R := by
  unfold refuseOptions
  split
  · exact .pure _
  · exact .throw _

theorem refuseViewOptions_keeps (name : String) (c : RouteConfig) :
    (refuseViewOptions name c).Keeps R := by
  unfold refuseViewOptions
  split
  · exact .throw _
  · exact .pure _

theorem refuseReserved_keeps (name : String) : (refuseReserved name).Keeps R := by
  unfold refuseReserved
  split
  · exact .throw _
  · exact .pure _

variable [Trans R R R]

theorem resolve_keeps (k : DefinitionKind α) (r : Reference α) : (resolve k r).Keeps R :=
  .bind .get fun _ => .ofExcept _

theorem callableOf_keeps (c : ViewConfig) : (callableOf c).Keeps R := by
  unfold callableOf
  split
  · exact resolve_keeps _ _
  · split
    · exact .pure _
    · exact .throw _

theorem refusePlacement_keeps (name : String) (p : TweenPlacement) :
    (refusePlacement name p).Keeps R := by
  unfold refusePlacement
  split
  · split
    · exact .bind (.throw _) fun _ => .throw _
    · exact .throw _
  · split
    · exact .bind (.throw _) fun _ => .pure _
    · exact .pure _

section Recording

variable {d : Declaration} (h : ∀ f is, d.Records f is → RecordingKeeps R f is)
include h

theorem addViewOf_keeps (k : ViewKind) (site : Site) (c : ViewConfig) :
    (addViewOf k site c).Keeps R :=
  (callableOf_keeps c).bind fun _ => .bind (.ofExcept _) fun _ => .bind .get fun _ =>
    h _ _ (.view k c _ _ _ _) _ _ _

theorem addRoute_keeps (site : Site) (name pattern : String) (c : RouteConfig) :
    (addRoute site name pattern c).Keeps R := by
  have hfactory : (c.factory.mapM (resolve .rootFactory)).Keeps R := by
    cases c.factory with
    | none => exact .pure _
    | some r => exact (resolve_keeps .rootFactory r).bind fun _ => .pure _
  refine (refuseViewOptions_keeps name c).bind fun _ => hfactory.bind fun _ => ?_
  refine .bind (.ofExcept _) fun _ => .bind .get fun _ => .bind (.ofExcept _) fun _ => ?_
  refine .bind (h _ _ (.route _) _ _ _) fun _ => ?_
  split
  · exact addViewOf_keeps h _ _ _
  · exact .pure _

theorem addStaticFiles_keeps (site : Site) (name : String) (files : StaticFiles)
    (permission : Option String) : (addStaticFiles site name files permission).Keeps R :=
  .bind .get fun _ => (addRoute_keeps h _ _ _ _).bind fun _ => addViewOf_keeps h _ _ _

theorem setAuthorization_keeps (site : Site) (p : AuthorizationPolicy) :
    (setAuthorization site p).Keeps R := by
  refine .bind (h _ _ (.authorization p) _ _ _) fun _ => .bind .get fun _ => ?_
  split
  · exact h _ _ .requirement _ _ _
  · exact .pure _

theorem addTween_keeps (site : Site) (name : String) (p : TweenPlacement) :
    (addTween site name p).Keeps R :=
  .bind .get fun _ => .bind (.ofExcept _) fun _ => (refuseReserved_keeps _).bind fun _ =>
    .bind (.ofExcept _) fun _ => (refusePlacement_keeps _ p).bind fun _ =>
      h _ _ (.tween _ _ p) _ _ _

end Recording

/-- Any declaration but a commit keeps what recording keeps. A tween that comes with its factory
also gives a name to that, and the settings are changed at once. -/
theorem declare_keeps (site : Site) {d : Declaration} (hd : d ≠ .commit)
    (hrecord : ∀ f is, d.Records f is → RecordingKeeps R f is)
    (hdefine : ∀ name factory, (define name (.tween factory)).Keeps R)
    (hsettings : ∀ f : Settings → Settings,
      (setup (Setup.update fun r => { r with settings := f r.settings })).Keeps R) :
    (declare site d).Keeps R := by
  cases d with
  | view c => exact addViewOf_keeps hrecord _ site c
  | exceptionView c =>
    exact (refuseOptions_keeps c _ _).bind fun _ => addViewOf_keeps hrecord _ site _
  | notFoundView c =>
    exact (refuseOptions_keeps c _ _).bind fun _ => addViewOf_keeps hrecord _ site _
  | forbiddenView c =>
    exact (refuseOptions_keeps c _ _).bind fun _ => addViewOf_keeps hrecord _ site _
  | route name pattern c => exact addRoute_keeps hrecord site name pattern c
  | staticFiles name files permission =>
    exact addStaticFiles_keeps hrecord site name files permission
  | renderer name factory =>
    exact (resolve_keeps .renderer factory).bind fun f => hrecord _ _ (.renderer name f) _ _ _
  | defaultPermission permission => exact hrecord _ _ (.defaultPermission permission) _ _ _
  | authentication p => exact hrecord _ _ (.authentication p) _ _ _
  | authorization p => exact setAuthorization_keeps hrecord site p
  | rootFactory factory =>
    exact (resolve_keeps .rootFactory factory).bind fun f =>
      hrecord _ _ (.rootFactory f) _ _ _
  | sessionFactory f => exact hrecord _ _ (.sessionFactory f) _ _ _
  | localeNegotiator f => exact hrecord _ _ (.localeNegotiator f) _ _ _
  | subscriber kind s =>
    exact (resolve_keeps .subscriber s).bind fun s => .bind .get fun _ =>
      hrecord _ _ (.subscriber s _ rfl) _ _ _
  | tween name factory p =>
    cases factory with
    | none => exact addTween_keeps hrecord site name p
    | some factory => exact (hdefine name factory).bind fun _ => addTween_keeps hrecord site name p
  | action discriminator f order is => exact hrecord _ _ (.custom rfl) _ _ _
  | settings entries => exact hsettings fun s => s.update entries
  | commit => exact absurd rfl hd

end Configurator

end WebDispatch
