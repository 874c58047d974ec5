import WebDispatch.Configuration.Configurator

/-!
# Other declared parts

Declared tweens, renderers, policies, factories and subscribers. What others depend on is entered
first: renderers, policies and factories come before routes, and these before all else.
-/

namespace WebDispatch

namespace Configurator

def refuseReserved (name : String) : Configuring Unit :=
  if name = TweenOrder.ingress || name = TweenOrder.mainHandler then
    throw (.configuration (name ++ " is a reserved tween name"))
  else return ()

def refusePlacement (name : String) (p : TweenPlacement) : Configuring Unit := do
  if (p.above.getD []).contains TweenOrder.ingress then
    throw (.configuration (name ++ " cannot be over INGRESS"))
  if (p.below.getD []).contains TweenOrder.mainHandler then
    throw (.configuration (name ++ " cannot be under MAIN"))

/-- Names as a value; null where there are none. -/
def namesValue : Option (List String) → Value
  | some names => .texts names
  | none => .null

def placedTweenIntrospectable (name : String) (p : TweenPlacement) : Introspectable :=
  (Introspectable.of "tweens" ("implicit " ++ name) name "implicit tween")
    |>.withAttribute "name" (.text name)
    |>.withAttribute "type" (.text "implicit")
    |>.withAttribute "alias" (.ofText? p.knownAs)
    |>.withAttribute "under" (namesValue p.below)
    |>.withAttribute "over" (namesValue p.above)

def addTween (site : Site) (name : String) (p : TweenPlacement) : Configuring Unit := do
  let c ← get
  let name ← Effect.ofExcept (DottedName.absolute name c.package)
  refuseReserved name
  let factory ← Effect.ofExcept (c.catalog.resolve .tween name none)
  refusePlacement name p
  act site (some ["tween", name, "implicit"])
    (some (Setup.update fun r =>
      { r with tweens := r.tweens.add name factory p.knownAs p.below p.above }))
    0 [placedTweenIntrospectable name p]

def addTweenFactory (site : Site) (name : String) (factory : TweenFactory) (p : TweenPlacement) :
    Configuring Unit := do
  define name (.tween factory)
  addTween site name p

def addExplicitTween (site : Site) (name : String) : Configuring Unit := do
  refuseReserved name
  let factory ← Effect.ofExcept ((← get).catalog.resolve .tween name none)
  let i := (Introspectable.of "tweens" ("explicit " ++ name) name "explicit tween")
    |>.withAttribute "name" (.text name)
    |>.withAttribute "type" (.text "explicit")
  act site (some ["tween", name, "explicit"])
    (some (Setup.update fun r => { r with tweens := r.tweens.addExplicit name factory }))
    0 [i]

def addRenderer (site : Site) (name : String) (factory : Reference RendererFactory) :
    Configuring Unit := do
  let f ← resolve .renderer factory
  let i := (Introspectable.of "renderer factories" name name "renderer factory").withAttribute
    "name" (.text name)
  act site (some ["renderer", name])
    (some (Setup.update fun r => { r with renderers := r.renderers.insert name f })) (-20) [i]

def setDefaultPermission (site : Site) (permission : String) : Configuring Unit :=
  let i := ((Introspectable.of "default permission" "" permission "default permission")
    |>.withAttribute "value" (.text permission)
    |>.relate "permissions" permission)
  act site (some ["default permission"])
    (some (Setup.update fun r => { r with defaultPermission := some permission })) (-20)
    [i, Introspectable.of "permissions" permission permission "permission"]

/-- Declares a part of which there is one. -/
def setPart (site : Site) (category title : String) (f : Registry → Registry) :
    Configuring Unit :=
  act site (some [title]) (some (Setup.update f)) (-20)
    [Introspectable.of category "" title title]

def setAuthentication (site : Site) (p : AuthenticationPolicy) : Configuring Unit :=
  setPart site "authentication policy" "authentication policy" fun r =>
    { r with authentication := some p }

def requireAuthentication : Effect Setup Unit := do
  if (← get).registry.authentication.isNone then
    throw (.configuration ("Cannot configure an authorization policy without also configuring an"
      ++ " authentication policy"))

/-- Declares what senders may do. Unless actions are carried out at once, it is checked that
somebody tells who they are. -/
def setAuthorization (site : Site) (p : AuthorizationPolicy) : Configuring Unit := do
  setPart site "authorization policy" "authorization policy" fun r =>
    { r with authorization := some p }
  if !(← get).autocommit then act site none (some requireAuthentication) (-10) []

def setRootFactory (site : Site) (factory : Reference RootFactory) : Configuring Unit := do
  let f ← resolve .rootFactory factory
  setPart site "root factories" "root factory" fun r => { r with rootFactory := some f }

def setSessionFactory (site : Site) (f : SessionFactory) : Configuring Unit :=
  setPart site "session factory" "session factory" fun r => { r with sessionFactory := some f }

def setLocaleNegotiator (site : Site) (f : LocaleNegotiator) : Configuring Unit :=
  setPart site "locale negotiator" "locale negotiator" fun r =>
    { r with localeNegotiator := some f }

def addSubscriber (site : Site) (kind : EventKind) (subscriber : Reference Subscriber) :
    Configuring Unit := do
  let s ← resolve .subscriber subscriber
  let i := (Introspectable.of "subscribers"
      (kind.name ++ " " ++ toString (← get).actions.length) (kind.name ++ " subscriber")
      "subscriber").withAttribute "event" (.text kind.name)
  act site none
    (some (Setup.update fun r => { r with subscriptions := r.subscriptions ++ [(kind, s)] })) 0 [i]

end Configurator

end WebDispatch
