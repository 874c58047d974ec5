import WebDispatch.Tween.Basic

/-!
# Exception views

A tween that answers the errors of the handler it stands around by exception views. Where there is
none for an error, or none accepts the request, the error stands.
-/

namespace WebDispatch

namespace ExceptionView

def tweenName : String := "cornice.tweens.excview_tween_factory"

/-- The other name of the tween, which placements use. -/
def tweenAlias : String := "EXCVIEW"

/-- Answers an error by an exception view. The response in preparation is dropped, so that
nothing of it gets into the answer. -/
def answer (e : Error) : Handler := do
  let env ← read
  if env.components.isNone then throw e
  else
    Handling.modifyRequest fun r => { r with prepared := none, exception := some e }
    match ← env.handleError e with
    | some response => return response
    | none => throw e

/-- A handler whose errors are answered by exception views. -/
def around (next : Handler) : Handler := do
  match ← Handling.outcome next with
  | .ok response => return response
  | .error e => answer e

def tween : TweenFactory := fun _ next => pure (around next)

end ExceptionView

end WebDispatch
