import WebDispatch.ExceptionView
import WebDispatch.Proofs.View.Selection

/-!
# How errors are answered

The tween for errors leaves what succeeds alone. An error is put on the request, the response in
preparation is dropped, and the exception view for the error has the word: the one in the first
occupied slot for what the request and the error provide. Without such a view, or where its
predicates refuse the request, the error stands.

* `IsExceptionView`, `Unanswerable` — the view for an error, and that there is none;
* `afterError` — the exchange as the exception view finds it;
* `Answered` — what an error comes to; `around_answers` — that the tween does this.
-/

namespace WebDispatch

open WebDispatch.Http (Response)

namespace Registry

variable {c : Registry} {e : Error} {r : Request} {v : View}

/-! ## The view for an error -/

/-- The keys of the slots for an error, in the order in which they are looked at. -/
def exceptionKeys (e : Error) (r : Request) : List ViewKey :=
  grid .exceptionViewClassifier r.type.combined e.provided ""

/-- A view is that of the first occupied slot for an error. -/
def IsExceptionView (c : Registry) (e : Error) (r : Request) (v : View) : Prop :=
  ∃ before key after s, exceptionKeys e r = before ++ key :: after ∧
    c.views.get? key = some s ∧ s.toView = v ∧ ∀ k ∈ before, c.views.get? k = none

/-- Nothing is registered in any slot for an error. -/
def Unanswerable (c : Registry) (e : Error) (r : Request) : Prop :=
  ∀ key ∈ exceptionKeys e r, c.views.get? key = none

theorem unanswerable_or_exists (c : Registry) (e : Error) (r : Request) :
    c.Unanswerable e r ∨ ∃ v, c.IsExceptionView e r v := by
  by_cases h : ∃ key ∈ exceptionKeys e r, ∃ s, c.views.get? key = some s
  · obtain ⟨before, key, after, hkeys, ⟨s, hget⟩, hbefore⟩ := exists_first h
    refine Or.inr ⟨s.toView, before, key, after, s, hkeys, hget, rfl, fun k hk => ?_⟩
    exact Option.eq_none_iff_forall_ne_some.mpr fun t ht => hbefore k hk ⟨t, ht⟩
  · refine Or.inl fun key hkey => Option.eq_none_iff_forall_ne_some.mpr fun s hget => ?_
    exact h ⟨key, hkey, s, hget⟩

/-- The view that is looked up for an error is the first along the grid. -/
theorem lookupView?_exception (c : Registry) (e : Error) (r : Request) :
    c.lookupView? .exceptionViewClassifier r.type.combined e.provided "" =
      (((exceptionKeys e r).filterMap c.views.get?).map Slot.toView).head? := by
  rw [lookupView?, findViews, keys_eq_grid]
  rfl

theorem lookupView?_of_isExceptionView (h : c.IsExceptionView e r v) :
    c.lookupView? .exceptionViewClassifier r.type.combined e.provided "" = some v := by
  obtain ⟨before, key, after, s, hkeys, hget, rfl, hbefore⟩ := h
  have hnone : before.filterMap c.views.get? = [] := List.filterMap_eq_nil_iff.mpr hbefore
  rw [lookupView?_exception, hkeys, List.filterMap_append, hnone, List.filterMap_cons_some hget]
  rfl

theorem lookupView?_of_unanswerable (h : c.Unanswerable e r) :
    c.lookupView? .exceptionViewClassifier r.type.combined e.provided "" = none := by
  rw [lookupView?_exception, List.filterMap_eq_nil_iff.mpr h]
  rfl

section Handling

variable {env : Environment} {x : Exchange}

theorem handleException_of_unanswerable (h : c.Unanswerable e x.toRequest) :
    c.handleException e env x =
      (.ok none, x.report .debug "cornice::router" "no exception view registered") := by
  simp [handleException, lookupView?_of_unanswerable h]

theorem handleException_of_isExceptionView (h : c.IsExceptionView e x.toRequest v) :
    c.handleException e env x =
      match v.call (.failure e) env (x.report .debug "cornice::router" "calling exception view")
        with
      | (.ok response, y) => (.ok (some response), y)
      | (.error f, y) => if f.isMismatch then (.ok none, y) else (.error f, y) := by
  rcases hcall : v.call (.failure e) env
    (x.report .debug "cornice::router" "calling exception view") with ⟨f | response, y⟩
  · by_cases hf : f.isMismatch <;>
      simp [handleException, lookupView?_of_isExceptionView h, hcall, hf]
  · simp [handleException, lookupView?_of_isExceptionView h, hcall]

end Handling

end Registry

namespace ExceptionView

variable {c : Registry} {now depth : Nat} {next : Handler} {e : Error} {x y : Exchange}

/-! ## The tween -/

/-- The exchange after an error: what was prepared for the response is dropped, and the error is
there to see. -/
def afterError (e : Error) (x : Exchange) : Exchange :=
  { x with prepared := none, exception := some e }

theorem around_of_ok {env : Environment} {response : Response}
    (h : next env x = (.ok response, y)) : around next env x = (.ok response, y) := by
  simp [around, h]

theorem answer_apply :
    answer e (c.environmentWithin now (depth + 1)) y =
      match c.handleException e (c.environmentWithin now depth) (afterError e y) with
      | (.ok (some response), z) => (.ok response, z)
      | (.ok none, z) => (.error e, z)
      | (.error f, z) => (.error f, z) := by
  change ((fun _ => c.handleException e (c.environmentWithin now depth)) >>= _ : Handling Response)
    (c.environmentWithin now (depth + 1)) (afterError e y) = _
  rcases h : c.handleException e (c.environmentWithin now depth) (afterError e y) with
    ⟨f | response | response, z⟩
  all_goals simp [h]

theorem around_of_error {env : Environment} (h : next env x = (.error e, y)) :
    around next env x = answer e env y := by
  simp [around, h]

/-- What an error of an inner handler comes to, from the exchange that the handler left. The views
by which it may be answered run within an application where views may be called by name so many
levels deep. -/
structure Answered (c : Registry) (now depth : Nat) (e : Error) (y : Exchange)
    (result : Except Error Response × Exchange) : Prop where
  /-- Without an exception view the error stands. -/
  unanswered : c.Unanswerable e y.toRequest → result =
    (.error e, (afterError e y).report .debug "cornice::router" "no exception view registered")
  /-- The response of the exception view is the answer. -/
  answered : ∀ v response z, c.IsExceptionView e y.toRequest v →
    v.call (.failure e) (c.environmentWithin now depth)
        ((afterError e y).report .debug "cornice::router" "calling exception view") =
      (.ok response, z) → result = (.ok response, z)
  /-- The error stands if the predicates of the view refuse the request. -/
  declined : ∀ v f z, c.IsExceptionView e y.toRequest v →
    v.call (.failure e) (c.environmentWithin now depth)
        ((afterError e y).report .debug "cornice::router" "calling exception view") =
      (.error f, z) → f.isMismatch = true → result = (.error e, z)
  /-- Any other error of the view takes the place of the first one. -/
  replaced : ∀ v f z, c.IsExceptionView e y.toRequest v →
    v.call (.failure e) (c.environmentWithin now depth)
        ((afterError e y).report .debug "cornice::router" "calling exception view") =
      (.error f, z) → f.isMismatch = false → result = (.error f, z)
  covered : c.Unanswerable e y.toRequest ∨ ∃ v, c.IsExceptionView e y.toRequest v

theorem answered_around (h : next (c.environmentWithin now (depth + 1)) x = (.error e, y)) :
    Answered c now depth e y (around next (c.environmentWithin now (depth + 1)) x) where
  unanswered hnone := by
    -- the view is looked up by what the request is for, which the error leaves as it is
    have hview : c.Unanswerable e (afterError e y).toRequest := hnone
    rw [around_of_error h, answer_apply, Registry.handleException_of_unanswerable hview]
  answered v response z hv hcall := by
    have hview : c.IsExceptionView e (afterError e y).toRequest v := hv
    rw [around_of_error h, answer_apply, Registry.handleException_of_isExceptionView hview, hcall]
  declined v f z hv hcall hmismatch := by
    have hview : c.IsExceptionView e (afterError e y).toRequest v := hv
    rw [around_of_error h, answer_apply, Registry.handleException_of_isExceptionView hview, hcall]
    simp only [if_pos hmismatch]
  replaced v f z hv hcall hmismatch := by
    have hview : c.IsExceptionView e (afterError e y).toRequest v := hv
    rw [around_of_error h, answer_apply, Registry.handleException_of_isExceptionView hview, hcall]
    simp only [hmismatch, if_neg Bool.false_ne_true]
  covered := c.unanswerable_or_exists e y.toRequest

/-- **Errors are answered by exception views.** The tween gives back what succeeds as it is. An
error comes to what the exception view for it says, which finds the error on the request and no
response in preparation. So what a handler had prepared before it failed makes no difference: two
handlers that fail alike and leave the request alike up to that have the same outcome. -/
theorem around_answers (c : Registry) (now depth : Nat) (next : Handler) (x : Exchange) :
    (∀ response y, next (c.environmentWithin now (depth + 1)) x = (.ok response, y) →
      around next (c.environmentWithin now (depth + 1)) x = (.ok response, y)) ∧
    (∀ e y, next (c.environmentWithin now (depth + 1)) x = (.error e, y) →
      Answered c now depth e y (around next (c.environmentWithin now (depth + 1)) x)) ∧
    ∀ (next' : Handler) (x' : Exchange) e y y',
      next (c.environmentWithin now (depth + 1)) x = (.error e, y) →
      next' (c.environmentWithin now (depth + 1)) x' = (.error e, y') →
      y' = { y with prepared := y'.prepared } →
      around next' (c.environmentWithin now (depth + 1)) x' =
        around next (c.environmentWithin now (depth + 1)) x := by
  refine ⟨fun response y h => around_of_ok h, fun e y h => answered_around h, ?_⟩
  intro next' x' e y y' h h' hsame
  have hafter : afterError e y' = afterError e y := by
    rw [hsame]
    rfl
  rw [around_of_error h, around_of_error h', answer_apply, answer_apply, hafter]

/-! ## A request of a route -/

/-- Tells the error that it finds, unless something of a response is left there. -/
def apology : View where
  description := "apology"
  call _ := do
    let r ← Handling.request
    match r.prepared, r.exception with
    | none, some e => return .ofText ("sorry: " ++ e.message)
    | _, _ => return .ofText "nothing to be sorry for"

/-- One exception view is for any error of a route's requests, and another for what was not found
in requests at large. -/
def apologetic : Registry where
  name := "apologetic"
  views := ⟨[
    (⟨.exceptionViewClassifier, .request, .notFound, ""⟩, .single
      { description := "general", call := fun _ => pure {} }),
    (⟨.exceptionViewClassifier, .ofRoute "item", .exception, ""⟩, .single apology)]⟩

def itemRequest : Exchange := { type := .ofRoute "item" true }

def wavering : Handler := do
  modify fun x => x.prepare fun s => s.setText "item 7"
  throw (.notFound "item 7")

def failing : Handler := throw (.notFound "item 7")

/-- What is registered for the route comes first, however specific the other view is. -/
theorem apology_isExceptionView :
    apologetic.IsExceptionView (.notFound "item 7") itemRequest.toRequest apology := by
  refine ⟨[⟨.exceptionViewClassifier, .ofRoute "item", .notFound, ""⟩,
    ⟨.exceptionViewClassifier, .ofRoute "item", .httpException, ""⟩], _, _, _, rfl, rfl, rfl, ?_⟩
  intro k hk
  rcases List.mem_pair.mp hk with rfl | rfl
  · rfl
  · rfl

/-- The error is answered by the view for the route, which finds nothing of the response that was
begun, so the answer is that to the error alone. -/
theorem around_answers_apologetic :
    Answered apologetic 0 0 (.notFound "item 7")
        (itemRequest.prepare fun s => s.setText "item 7")
        (around wavering (apologetic.environmentWithin 0 1) itemRequest) ∧
      (around wavering (apologetic.environmentWithin 0 1) itemRequest).1 =
        .ok (.ofText ("sorry: " ++ (Error.notFound "item 7").message)) ∧
      around failing (apologetic.environmentWithin 0 1) itemRequest =
        around wavering (apologetic.environmentWithin 0 1) itemRequest := by
  obtain ⟨-, hanswers, hsame⟩ := around_answers apologetic 0 0 wavering itemRequest
  have hanswered := hanswers (.notFound "item 7") _ rfl
  have hcall := hanswered.answered apology _ _ apology_isExceptionView rfl
  refine ⟨hanswered, congrArg Prod.fst hcall, ?_⟩
  exact hsame failing itemRequest (.notFound "item 7") _ _ rfl rfl rfl

end ExceptionView

end WebDispatch
