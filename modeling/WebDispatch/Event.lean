import WebDispatch.Exchange

/-!
# Events

What subscribers are told while an application is built and while it answers requests. The
subscribers of an event are called in the order in which they subscribed; the first that fails
ends the notification.

* `Subscriber` — what is done for each kind of event;
* `Subscriptions.notify` — calls the subscribers of a kind.
-/

namespace WebDispatch

open WebDispatch.Http (Response)

inductive EventKind where
  /-- A request came in. -/
  | newRequest
  /-- The context of a request has been found. -/
  | contextFound
  /-- A view has answered a request. -/
  | newResponse
  /-- The application has been built. -/
  | applicationCreated
  /-- A value is about to be rendered. -/
  | beforeRender
deriving DecidableEq, Repr, Inhabited

def EventKind.name : EventKind → String
  | newRequest => "NewRequest"
  | contextFound => "ContextFound"
  | newResponse => "NewResponse"
  | applicationCreated => "ApplicationCreated"
  | beforeRender => "BeforeRender"

structure ApplicationSummary where
  routes : Nat := 0
  views : Nat := 0
  renderers : List String := []
deriving Repr, Inhabited

/-- What subscribers may change before a value is rendered. -/
structure Rendering where
  value : Value
  /-- Values for the renderer besides. -/
  values : OrderedMap String Value := {}
  journal : Journal := []
deriving Inhabited

/-- What is done for each kind of event. -/
structure Subscriber where
  newRequest : Effect Exchange Unit := pure ()
  contextFound : Effect Exchange Unit := pure ()
  newResponse : Effect (Response × Exchange) Unit := pure ()
  applicationCreated : ApplicationSummary → Effect Journal Unit := fun _ => pure ()
  beforeRender : Effect Rendering Unit := pure ()
deriving Inhabited

/-- Subscribers with the kinds of events they subscribed to, in order. -/
abbrev Subscriptions := List (EventKind × Subscriber)

namespace Subscriptions

def ofKind (s : Subscriptions) (kind : EventKind) : List Subscriber :=
  (s.filter fun e => e.1 = kind).map (·.2)

/-- Calls the subscribers of a kind of event in order, up to the first that fails. -/
def notify {σ : Type} (s : Subscriptions) (kind : EventKind)
    (call : Subscriber → Effect σ Unit) : Effect σ Unit :=
  (s.ofKind kind).forM call

end Subscriptions

end WebDispatch
