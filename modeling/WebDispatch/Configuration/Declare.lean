import WebDispatch.Configuration.Parts
import WebDispatch.Configuration.Routes

/-!
# Making declarations

* `Configurator.declare` — makes a declaration, of any sort, at a site.
-/

namespace WebDispatch

namespace Configurator

def declare (site : Site) : Declaration → Configuring Unit
  | .view c => addView site c
  | .exceptionView c => addExceptionView site c
  | .notFoundView c => setNotFoundView site c
  | .forbiddenView c => setForbiddenView site c
  | .route name pattern c => addRoute site name pattern c
  | .staticFiles name files permission => addStaticFiles site name files permission
  | .renderer name factory => addRenderer site name factory
  | .defaultPermission permission => setDefaultPermission site permission
  | .authentication policy => setAuthentication site policy
  | .authorization policy => setAuthorization site policy
  | .rootFactory factory => setRootFactory site factory
  | .sessionFactory factory => setSessionFactory site factory
  | .localeNegotiator negotiator => setLocaleNegotiator site negotiator
  | .subscriber kind s => addSubscriber site kind s
  | .tween name none placement => addTween site name placement
  | .tween name (some factory) placement => addTweenFactory site name factory placement
  | .action discriminator perform order introspectables =>
    act site discriminator perform order introspectables
  | .settings entries =>
    setup (Setup.update fun r => { r with settings := r.settings.update entries })
  | .commit => commit

end Configurator

end WebDispatch
