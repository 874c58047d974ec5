import WebDispatch.Tween.Basic

/-!
# Scripted tweens

Tweens that note when they are entered and left, and change a little of what passes through them.
-/

namespace WebDispatch.Scripted

open WebDispatch.Http (Response)

structure TweenScript where
  /-- Fails at once. -/
  error : Option Error := none
  /-- Answers at once. -/
  response : Option Response := none
  /-- Changes the method of the request. -/
  method : Option String := none
  /-- Calls the inner handler again when it fails. -/
  retries : Bool := false
  /-- Answers with the response of an error. -/
  catches : Bool := false
  /-- Sets a header field of the answer. -/
  field : Option (String × String) := none
deriving Inhabited

namespace TweenScript

/-- Calls the inner handler, twice where it fails and the script says so. -/
def callInner (s : TweenScript) (label : String) (inner : Handler) :
    Handling (Except Error Response) := do
  match ← inner.outcome with
  | .ok r => return .ok r
  | .error e =>
    if s.retries then
      Handling.note ("retry " ++ label)
      inner.outcome
    else return .error e

def adjust (s : TweenScript) (result : Except Error Response) : Except Error Response :=
  let caught : Except Error Response := match result with
    | .ok r => .ok r
    | .error e => if s.catches then .ok e.response else .error e
  caught.map fun r => s.field.elim r fun (name, value) => r.setField name value

def around (s : TweenScript) (label : String) (inner : Handler) : Handler := do
  Handling.note ("enter " ++ label)
  match s.error, s.response with
  | some e, _ => throw e
  | none, some r => return r
  | none, none =>
    if let some m := s.method then Handling.modifyRequest fun r => { r with method := m }
    let result := s.adjust (← s.callInner label inner)
    Handling.note ("leave " ++ label ++ " " ++ (match result with
      | .ok r => toString r.status
      | .error e => e.kind))
    Handling.ofExcept result

def factory (s : TweenScript) (label : String) : TweenFactory := fun registry inner => do
  modify (· ++ [.note ("build " ++ label ++ " registry " ++ registry)])
  return s.around label inner

end TweenScript

end WebDispatch.Scripted
