import WebDispatch.Components

/-!
# Handling requests

What runs while a request is handled: a computation on the exchange that may fail, within an
application.

* `Environment` — the application as handlers see it: its components, its clock, and the two ways
  back into its views;
* `Handling` — such a computation;
* `components`, `session`, `routePath` — what handlers ask of the application.

A run of a handler is told by the runs of its parts (`bind_apply` and the other equations).
-/

namespace WebDispatch

open WebDispatch.Http (Response)

/-- The application that handles a request, as its handlers see it. -/
structure Environment where
  /-- The components; a request may also be looked at outside an application. -/
  components : Option Components := none
  /-- The time in seconds since the beginning of 1970. -/
  now : Nat := 0
  /-- Calls the view of a name for a context, with its permission checked or not. -/
  renderNamed : Resource → String → Bool → Effect Exchange (Option Response) :=
    fun _ _ _ => throw (.configuration "request has no registry attached")
  /-- Calls the exception view for an error. -/
  handleError : Error → Effect Exchange (Option Response) := fun _ => pure none

abbrev Handling (α : Type) : Type := ReaderT Environment (Effect Exchange) α

/-- Turns a request into a response. -/
abbrev Handler : Type := Handling Response

namespace Handling

variable {α : Type}

def components : Handling Components := do
  match (← read).components with
  | some c => return c
  | none => throw (.configuration "request has no registry attached")

def reporting (act : Effect Journal α) : Handling α :=
  fun _ => act.within (fun x => x.journal) fun x j => { x with journal := j }

def ofExcept (r : Except Error α) : Handling α := fun _ => Effect.ofExcept r

/-- Runs a computation and gives its result as a value. -/
def outcome (act : Handling α) : Handling (Except Error α) :=
  fun env => (act env).outcome

def request : Handling Request := return (← get).toRequest

def modifyRequest (f : Request → Request) : Handling Unit :=
  modify fun x => { x with toRequest := f x.toRequest }

def note (text : String) : Handling Unit := modify fun x => x.note text

def report (level : Level) (area message : String) : Handling Unit :=
  modify fun x => x.report level area message

/-- The session, begun on first use. -/
def session : Handling Session := do
  match (← request).session with
  | some s => return s
  | none =>
    match (← components).sessionFactory with
    | none => throw (.configuration "No session factory registered")
    | some begin_ =>
      let s ← reporting (begin_ (← request))
      modifyRequest fun r => { r with session := some s }
      return s

def modifySession (f : Session → Session) : Handling Unit := do
  let s ← session
  modifyRequest fun r => { r with session := some (f s) }

def routePath (name : String) (values : MatchDict) : Handling String := do
  ofExcept ((← components).routePath name values)

/-- Runs a computation on an exchange; gives its result, what it reported, and the exchange
without a journal. -/
def runApart (env : Environment) (act : Handling α) (x : Exchange) :
    Except Error α × Journal × Exchange :=
  let (result, y) := act env { x with journal := [] }
  (result, y.journal, { y with journal := [] })

def localeName : Handling String :=
  return Components.localeName (← read).components (← request)

/-! ## Runs -/

section Runs

variable {β : Type}

@[simp] theorem bind_apply (act : Handling α) (f : α → Handling β) (env : Environment)
    (x : Exchange) :
    (act >>= f) env x = match act env x with
      | (.ok a, y) => f a env y
      | (.error e, y) => (.error e, y) := by
  refine (Effect.bind_apply (act env) (fun a => f a env) x).trans ?_
  rcases act env x with ⟨_ | _, y⟩ <;> rfl

@[simp] theorem pure_apply (a : α) (env : Environment) (x : Exchange) :
    (pure a : Handling α) env x = (.ok a, x) := rfl

@[simp] theorem map_apply (f : α → β) (act : Handling α) (env : Environment) (x : Exchange) :
    (f <$> act) env x = match act env x with
      | (.ok a, y) => (.ok (f a), y)
      | (.error e, y) => (.error e, y) := by
  rw [map_eq_pure_bind, bind_apply]
  rfl

@[simp] theorem throw_apply (e : Error) (env : Environment) (x : Exchange) :
    (throw e : Handling α) env x = (.error e, x) := rfl

@[simp] theorem liftM_apply (act : Effect Exchange α) (env : Environment) (x : Exchange) :
    (liftM act : Handling α) env x = act x := rfl

@[simp] theorem read_apply (env : Environment) (x : Exchange) :
    (read : Handling Environment) env x = (.ok env, x) := rfl

@[simp] theorem ofExcept_apply (r : Except Error α) (env : Environment) (x : Exchange) :
    ofExcept r env x = (r, x) := rfl

@[simp] theorem outcome_apply (act : Handling α) (env : Environment) (x : Exchange) :
    act.outcome env x = (.ok (act env x).1, (act env x).2) := rfl

@[simp] theorem request_apply (env : Environment) (x : Exchange) :
    request env x = (.ok x.toRequest, x) := rfl

@[simp] theorem modifyRequest_apply (f : Request → Request) (env : Environment) (x : Exchange) :
    modifyRequest f env x = (.ok (), { x with toRequest := f x.toRequest }) := rfl

@[simp] theorem note_apply (text : String) (env : Environment) (x : Exchange) :
    note text env x = (.ok (), x.note text) := rfl

@[simp] theorem report_apply (level : Level) (area message : String) (env : Environment)
    (x : Exchange) :
    report level area message env x = (.ok (), x.report level area message) := rfl

theorem bind_pure_apply (act : Handling α) (f : α → β) (env : Environment) (x : Exchange) :
    (act >>= fun a => pure (f a) : Handling β) env x =
      ((act env x).1.map f, (act env x).2) := by
  rcases h : act env x with ⟨_ | _, y⟩ <;> simp [h, Except.map]

end Runs

end Handling

end WebDispatch
