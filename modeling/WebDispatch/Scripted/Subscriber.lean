import WebDispatch.Event
import WebDispatch.Scripted.Callback

/-!
# Scripted subscribers

Subscribers that note the event, change what the event lets them change, and may fail at last.
-/

namespace WebDispatch.Scripted

open WebDispatch.Http (Response)

/-- What a scripted subscriber does; each kind of event takes what it has a use for. -/
structure SubscriberScript where
  /-- Noted behind the name of the event. -/
  label : Option String := none
  viewName : Option String := none
  method : Option String := none
  /-- A header field of the request. -/
  requestField : Option (String × String) := none
  /-- The label of a callback for the end of the exchange. -/
  finished : Option String := none
  /-- The label of a callback for the response. -/
  responseCallback : Option String := none
  status : Option Nat := none
  /-- A header field of the response. -/
  field : Option (String × String) := none
  /-- Values for the renderer. -/
  values : List (String × Value) := []
  /-- Replaces the value to be rendered. -/
  value : Option Value := none
  /-- Wraps the value, together with the name of the renderer. -/
  wraps : Bool := false
  /-- The failure at last. -/
  error : Option Error := none
deriving Inhabited

namespace SubscriberScript

def notes (s : SubscriberScript) (kind : EventKind) : Journal :=
  (s.label.map fun label => Entry.note (kind.name ++ " " ++ label)).toList

def conclude {σ : Type} (s : SubscriberScript) : Effect σ Unit :=
  match s.error with
  | some e => throw e
  | none => pure ()

def changeRequest (s : SubscriberScript) (kind : EventKind) : Effect Exchange Unit := do
  modify fun x =>
    let x := { x with
      journal := x.journal ++ s.notes kind
      viewName := s.viewName.getD x.viewName
      method := s.method.getD x.method
      headers := s.requestField.elim x.headers fun (name, value) => x.headers.setField name value }
    let x := s.finished.elim x fun label => addFinished label x
    s.responseCallback.elim x fun label => addResponse label x
  s.conclude

def changeResponse (s : SubscriberScript) : Effect (Response × Exchange) Unit := do
  modify fun (r, x) =>
    let r := { r with status := s.status.getD r.status }
    (s.field.elim r fun (name, value) => r.setField name value,
      { x with journal := x.journal ++ s.notes .newResponse })
  s.conclude

def noteApplication (s : SubscriberScript) (a : ApplicationSummary) : Effect Journal Unit := do
  modify (· ++ s.notes .applicationCreated ++ [.note ("routes " ++ toString a.routes ++ " views "
    ++ toString a.views ++ " renderers " ++ Text.joinWith "," a.renderers)])
  s.conclude

/-- A value within an object that also names the renderer. -/
def wrapped (r : Rendering) : Value :=
  .object [("wrapped", r.value), ("renderer", (r.values.get? "renderer_name").getD .null)]

/-- What the script changes of a value that is about to be rendered. -/
def changeRendering (s : SubscriberScript) : Effect Rendering Unit := do
  modify fun r =>
    let r := { r with
      journal := r.journal ++ s.notes .beforeRender
      values := r.values.insertAll s.values
      value := s.value.getD r.value }
    if s.wraps then { r with value := wrapped r } else r
  s.conclude

def subscriber (s : SubscriberScript) : Subscriber where
  newRequest := s.changeRequest .newRequest
  contextFound := s.changeRequest .contextFound
  newResponse := s.changeResponse
  applicationCreated := s.noteApplication
  beforeRender := s.changeRendering

end SubscriberScript

end WebDispatch.Scripted
