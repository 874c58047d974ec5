import WebDispatch.Registry

/-!
# The ledger of actions

Declarations do not change a registry at once: each records an action, which is carried out on
commit. Actions for one thing share a discriminator. Of these the one wins that was declared in
the outermost scope; those declared in a scope inside its own are overridden, and so are exact
repetitions. Any other is in conflict with it.

* `Ledger.groups` — the actions of each discriminator, the winner first;
* `Ledger.winners`, `Ledger.conflicts` — what is to be carried out, and what prevents it;
* `Ledger.resolve` — the actions to carry out, in order, or the conflicts;
* `Action.execute` — carries out an action.
-/

namespace WebDispatch

/-- A registry that is being configured, and what was reported on the way. -/
structure Setup where
  registry : Registry
  journal : Journal := []

namespace Setup

def update (f : Registry → Registry) : Effect Setup Unit :=
  modify fun s => { s with registry := f s.registry }

def report (level : Level) (message : String) : Effect Setup Unit :=
  modify fun s => { s with journal := s.journal ++ [.diagnostic level "cornice::config" message] }

def reporting {α : Type} (act : Effect Journal α) : Effect Setup α :=
  act.within (fun s => s.journal) fun s j => { s with journal := j }

def describe (items : List Introspectable) (site : Site) : Effect Setup Unit :=
  update fun r =>
    { r with introspector := items.foldl (fun s i => s.register i (some site)) r.introspector }

@[simp] theorem update_apply (f : Registry → Registry) (s : Setup) :
    update f s = (.ok (), { s with registry := f s.registry }) := rfl

end Setup

/-- What an action configures, in parts. -/
abbrev Discriminator := List String

def Discriminator.text (d : Discriminator) : String :=
  "(" ++ Text.joinWith ", " (d.map fun p => "'" ++ p ++ "'") ++ ")"

/-- A recorded declaration. -/
structure Action where
  /-- What it configures, if that can be configured only once. -/
  discriminator : Option Discriminator := none
  /-- What it does. -/
  perform : Option (Effect Setup Unit) := none
  /-- Actions of a lower number come first. -/
  order : Int := 0
  /-- The includes in which it was declared, the outermost first. -/
  includePath : List String := []
  site : Site
  introspectables : List Introspectable := []

namespace Action

/-- Whether an action was declared in a scope strictly inside that of another. -/
def isInside (a base : Action) : Bool :=
  base.includePath.isPrefixOf a.includePath && base.includePath.length < a.includePath.length

/-- Whether an action repeats another: it has the same scope and site. -/
def repeats (a base : Action) : Bool :=
  a.includePath = base.includePath && a.site = base.site

def conflictsWith (a base : Action) : Bool := !a.isInside base && !a.repeats base

def execute (a : Action) : Effect Setup Unit := do
  match a.perform with
  | none => Setup.describe a.introspectables a.site
  | some act =>
    Setup.report .trace "executing action"
    match ← act.outcome with
    | .ok () => Setup.describe a.introspectables a.site
    | .error e =>
      Setup.report .warning "configuration action failed"
      throw (.execution a.site e)

end Action

namespace Ledger

/-- An action with its place in the ledger. -/
structure Recorded where
  index : Nat
  action : Action

def record (actions : List Action) : List Recorded :=
  actions.zipIdx.map fun (a, i) => ⟨i, a⟩

/-- Whether one include path comes before another or equals it, in the order of words. -/
def pathComesBefore : List String → List String → Bool
  | [], _ => true
  | _ :: _, [] => false
  | a :: as, b :: bs => decide (a < b) || (a = b && pathComesBefore as bs)

/-- Whether one action is in no further scope than another. -/
def scopeComesBefore (a b : Recorded) : Bool :=
  pathComesBefore a.action.includePath b.action.includePath

def comesBefore (a b : Recorded) : Bool :=
  decide (a.action.order < b.action.order)
    || (a.action.order = b.action.order && decide (a.index ≤ b.index))

def addToGroup (groups : OrderedMap Discriminator (List Recorded)) (r : Recorded) :
    OrderedMap Discriminator (List Recorded) :=
  match r.action.discriminator with
  | none => groups
  | some d => groups.alter d [] (· ++ [r])

/-- The actions of each discriminator, the winner first. -/
def groups (actions : List Action) : OrderedMap Discriminator (List Recorded) :=
  ((record actions).foldl addToGroup {}).mapValues fun rs => rs.mergeSort scopeComesBefore

/-- The actions without a discriminator. -/
def free (actions : List Action) : List Recorded :=
  (record actions).filter fun r => r.action.discriminator.isNone

def winners (actions : List Action) : List Recorded :=
  free actions ++ (groups actions).values.filterMap List.head?

def addConflicts (found : OrderedMap String (List Site))
    (group : Discriminator × List Recorded) : OrderedMap String (List Site) :=
  match group.2 with
  | [] => found
  | base :: rest =>
    let sites := (rest.filter fun r => r.action.conflictsWith base.action).map
      fun r => r.action.site
    if sites.isEmpty then found
    else found.alter (Discriminator.text group.1) [base.action.site] (· ++ sites)

/-- The sites in conflict for each discriminator, that of the winner first. -/
def conflicts (actions : List Action) : OrderedMap String (List Site) :=
  (groups actions).toList.foldl addConflicts {}

def overridden : List Recorded → Nat
  | [] => 0
  | base :: rest => (rest.filter fun r => r.action.isInside base.action).length

def overrideReports (actions : List Action) : Journal :=
  (groups actions).values.flatMap fun group =>
    List.replicate (overridden group)
      (.diagnostic .debug "cornice::config" "included action overridden")

/-- The actions to carry out, in order, or the conflicts between actions. -/
def resolve (actions : List Action) : Except Error (List Action) :=
  let found := conflicts actions
  if found.toList.isEmpty then
    .ok (((winners actions).mergeSort comesBefore).map Recorded.action)
  else .error (.conflict found)

/-- The actions to carry out; reports what is overridden and what is in conflict. -/
def resolveReporting (actions : List Action) : Effect Journal (List Action) := do
  modify (· ++ overrideReports actions)
  match resolve actions with
  | .ok order => return order
  | .error e =>
    Effect.report (.diagnostic .warning "cornice::config" e.message)
    throw e

end Ledger

end WebDispatch
