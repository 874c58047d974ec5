import WebDispatch.ExceptionView
import WebDispatch.Proofs.Tween.Composition
import WebDispatch.Proofs.View.Selection
import WebDispatch.Scripted.Tween

/-!
# Tweens that pass errors on

Most tweens pass on the errors of the handler that they stand around, whatever else they do: they
may answer or fail themselves, call that handler any number of times, and change what it answers.

* `Passage` — what is left of a run of such a tween;
* `Layer` — a tween, as far as errors go;
* `factory_forms` — scripted tweens that neither call again nor answer errors are of this kind.
-/

namespace WebDispatch

open WebDispatch.Http (Response)

/-! ## Runs -/

/-- What is left of a run of a tween that passes errors on. It may be over, with a response or with
an error of the tween's own. Or the handler that the tween stands around is called: its error is
then passed on, whatever the tween does to the exchange before, and its response is gone on with. -/
inductive Passage where
  | finish (result : Except Error Response) (x : Exchange)
  | call (x : Exchange) (failed : Error → Exchange → Exchange)
    (answered : Response → Exchange → Passage)

def Passage.run (next : Effect Exchange Response) :
    Passage → Except Error Response × Exchange
  | finish result x => (result, x)
  | call x failed answered =>
    match next x with
    | (.ok response, y) => (answered response y).run next
    | (.error e, y) => (.error e, failed e y)

/-- A tween, as far as errors go: it passes them on, or has them answered by exception views. -/
inductive Layer where
  | passing (begins : Environment → Exchange → Passage)
  | exceptionViews

def Layer.around : Layer → Handler → Handler
  | passing begins, next => fun env x => (begins env x).run (next env)
  | exceptionViews, next => ExceptionView.around next

theorem ExceptionView.tween_forms (name : String) :
    Tweens.Forms Layer.around (name, tween) .exceptionViews := fun _ _ _ => rfl

/-! ## Scripted tweens -/

namespace Scripted.TweenScript

variable {s : TweenScript}

def dress (s : TweenScript) (r : Response) : Response :=
  s.field.elim r fun (name, value) => r.setField name value

def leaveText (label : String) (result : Except Error Response) : String :=
  "leave " ++ label ++ " " ++ (match result with
    | .ok r => toString r.status
    | .error e => e.kind)

/-- A script that neither calls again nor answers errors, once it has been entered. -/
def delegation (s : TweenScript) (label : String) (y : Exchange) : Passage :=
  .call y (fun e z => z.note (leaveText label (.error e))) fun r z =>
    .finish (.ok (s.dress r)) (z.note (leaveText label (.ok (s.dress r))))

def passage (s : TweenScript) (label : String) (x : Exchange) : Passage :=
  let entered := x.note ("enter " ++ label)
  match s.error, s.response with
  | some e, _ => .finish (.error e) entered
  | none, some r => .finish (.ok r) entered
  | none, none => s.delegation label (s.method.elim entered fun m => { entered with method := m })

theorem adjust_of_catches (h : s.catches = false) (result : Except Error Response) :
    s.adjust result = result.map s.dress := by
  cases result <;> simp [adjust, h, Except.map, dress]

theorem callInner_of_retries (h : s.retries = false) (label : String) (next : Handler) :
    s.callInner label next = next.outcome := by
  funext env y
  rcases hnext : next env y with ⟨e | response, z⟩ <;> simp [callInner, hnext, h]

/-- Scripts that neither call again nor answer errors pass errors on. -/
theorem factory_forms (hretries : s.retries = false) (hcatches : s.catches = false)
    (label : String) :
    Tweens.Forms Layer.around (label, s.factory label) (.passing fun _ => s.passage label) := by
  intro registry next j
  change s.around label next = _
  funext env x
  have hdelegates : ∀ y, (do
      let result := s.adjust (← s.callInner label next)
      Handling.note (leaveText label result)
      Handling.ofExcept result : Handler) env y = (s.delegation label y).run (next env) := by
    intro y
    simp only [callInner_of_retries hretries, adjust_of_catches hcatches, delegation, Passage.run]
    rcases hnext : next env y with ⟨e | response, z⟩ <;> simp [hnext, Except.map]
  change _ = (s.passage label x).run (next env)
  rw [around, passage, Handling.bind_apply]
  change (match s.error, s.response with
    | some e, _ => _
    | none, some r => _
    | none, none => _ : Handler) env (x.note _) = _
  cases s.error with
  | some e => rfl
  | none =>
      cases s.response with
      | some r => rfl
      | none =>
          cases s.method with
          | none => exact hdelegates _
          | some m => exact hdelegates _

def mark (label : String) : Mark where
  enter := .note ("enter " ++ label)
  leave result := .note (leaveText label result)

/-- The script without any instructions only records. -/
theorem factory_forms_mark (label : String) :
    Tweens.Forms Mark.around (label, factory {} label) (mark label) := by
  intro registry next j
  rw [factory_forms rfl rfl label registry next j]
  funext env x
  change (delegation {} label (x.logged [(mark label).enter])).run (next env) = _
  rw [delegation, Passage.run, Mark.around]
  rcases next env (x.logged [(mark label).enter]) with ⟨e | response, z⟩
  all_goals rfl

end Scripted.TweenScript

end WebDispatch
