import Mathlib.Data.List.Forall2
import WebDispatch.Tween.Basic

/-!
# Tweens around one another

The handler of an order of tweens is the first of them around the second, and so on, and the last
of them around the core. Where each tween is known by a shape, the handler is that of the shapes.
Tweens that only record and delegate record in order on the way in, and the other way round on the
way out.

* `nested` — handlers around one another;
* `Wraps`, `wrap_nested` — what the tweens of an order make of any core;
* `Forms`, `wrap_forms` — the same where their shapes are known;
* `Mark`, `nested_marks` — tweens that only record.
-/

namespace WebDispatch

open WebDispatch.Http (Response)

namespace Tweens

variable {α : Type} {t : Tweens} {registry : String} {core : Handler}
  {order : List (String × TweenFactory)}

/-! ## Any tweens -/

/-- Handlers around one another, the first on the outside, the last around the core. -/
def nested (wrappers : List (Handler → Handler)) (core : Handler) : Handler :=
  wrappers.foldr (fun wrapper next => wrapper next) core

/-- What a tween puts around handlers for the application of a name. -/
def Wraps (registry : String) (tween : String × TweenFactory) (wrapper : Handler → Handler) :
    Prop :=
  ∃ j, ∀ next, wrapper next = (tween.2 registry next j).1

theorem wrapAll_nested (registry : String) (core : Handler) (order : List (String × TweenFactory))
    (j : Journal) :
    ∃ wrappers j', wrapAll registry core order j = (nested wrappers core, j') ∧
      List.Forall₂ (Wraps registry) order wrappers := by
  induction order with
  | nil => exact ⟨[], j, rfl, .nil⟩
  | cons tween rest ih =>
      obtain ⟨wrappers, j', hrest, hwraps⟩ := ih
      let told := j' ++ [.diagnostic .debug "cornice::tweens" "wrapping handler"]
      refine ⟨(fun next => (tween.2 registry next told).1) :: wrappers,
        (tween.2 registry (nested wrappers core) told).2, ?_, .cons ⟨told, fun _ => rfl⟩ hwraps⟩
      change tween.2 registry (wrapAll registry core rest j).1
        ((wrapAll registry core rest j).2 ++ _) = _
      rw [hrest]
      rfl

theorem wrap_of_resolved (h : t.resolved = .ok order) (registry : String) (core : Handler)
    (j : Journal) :
    t.wrap registry core j =
      (.ok (wrapAll registry core order j).1, (wrapAll registry core order j).2) := by
  rw [wrap, h]
  rfl

/-- A handler with all tweens of the order around it is theirs around one another. -/
theorem wrap_nested (h : t.resolved = .ok order) (registry : String) (core : Handler)
    (j : Journal) :
    ∃ wrappers j', t.wrap registry core j = (.ok (nested wrappers core), j') ∧
      List.Forall₂ (Wraps registry) order wrappers := by
  obtain ⟨wrappers, j', hall, hwraps⟩ := wrapAll_nested registry core order j
  refine ⟨wrappers, j', ?_, hwraps⟩
  rw [wrap_of_resolved h, hall]

/-! ## Tweens by their shapes -/

/-- A tween makes the handlers of a shape, for every application and whatever was reported. -/
def Forms (around : α → Handler → Handler) (tween : String × TweenFactory) (shape : α) : Prop :=
  ∀ registry next j, (tween.2 registry next j).1 = around shape next

variable {around : α → Handler → Handler} {shapes : List α}

theorem wrappers_eq {wrappers : List (Handler → Handler)}
    (hwraps : List.Forall₂ (Wraps registry) order wrappers)
    (hforms : List.Forall₂ (Forms around) order shapes) : wrappers = shapes.map around := by
  induction hwraps generalizing shapes with
  | nil =>
      cases hforms
      rfl
  | cons hwrap _ ih =>
      cases hforms with
      | cons hform hrest =>
          obtain ⟨j, hj⟩ := hwrap
          rw [List.map_cons, ih hrest]
          congr 1
          funext next
          rw [hj next, hform]

theorem wrap_forms (h : t.resolved = .ok order)
    (hforms : List.Forall₂ (Forms around) order shapes) (registry : String) (core : Handler)
    (j : Journal) :
    ∃ j', t.wrap registry core j = (.ok (nested (shapes.map around) core), j') := by
  obtain ⟨wrappers, j', hwrap, hwraps⟩ := wrap_nested h registry core j
  rw [wrappers_eq hwraps hforms] at hwrap
  exact ⟨j', hwrap⟩

end Tweens

/-! ## Tweens that only record -/

def Exchange.logged (x : Exchange) (entries : Journal) : Exchange :=
  { x with journal := x.journal ++ entries }

@[simp] theorem Exchange.logged_logged (x : Exchange) (first second : Journal) :
    (x.logged first).logged second = x.logged (first ++ second) := by
  simp only [logged, List.append_assoc]

/-- What a tween records that does nothing else but delegate. -/
structure Mark where
  enter : Entry
  leave : Except Error Response → Entry

namespace Mark

def around (m : Mark) (next : Handler) : Handler := fun env x =>
  let (result, y) := next env (x.logged [m.enter])
  (result, y.logged [m.leave result])

/-- What comes of a core with marks around it: they are entered in order, and left in reverse with
the result of the core. -/
def recorded (marks : List Mark) (core : Handler) : Handler := fun env x =>
  let (result, y) := core env (x.logged (marks.map enter))
  (result, y.logged (marks.reverse.map fun m => m.leave result))

@[simp] theorem nested_marks (marks : List Mark) (core : Handler) :
    Tweens.nested (marks.map around) core = recorded marks core := by
  induction marks with
  | nil =>
      funext env x
      simp only [recorded, List.reverse_nil, List.map_nil, Exchange.logged, List.append_nil]
      rfl
  | cons m marks ih =>
      change m.around (Tweens.nested (marks.map around) core) = _
      rw [ih]
      funext env x
      simp only [around, recorded, Exchange.logged_logged, List.map_cons, List.singleton_append,
        List.reverse_cons, List.map_append, List.map_nil]
      rcases core env (x.logged (m.enter :: marks.map enter)) with ⟨result, y⟩
      exact Prod.ext rfl (Exchange.logged_logged ..)

end Mark

end WebDispatch
