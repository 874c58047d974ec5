import WebDispatch.Configuration.Declare

/-!
# Tasks

What is left to do while a configuration is carried out. A directive that includes another
configuration, or attempts directives, leads to further tasks, which come before the rest: the
directives themselves, and at their end the way back to the scope around them, or from what has
failed.

* `Task` — what is left to do;
* `Configurator.enter` — begins an include, unless one of its name has been begun before;
* `Configurator.start` — carries out a directive as far as it goes, and gives what it leads to.
-/

namespace WebDispatch

/-- What is left to do. -/
inductive Task where
  /-- Carries out a directive, unless something has failed. -/
  | perform (d : Directive)
  /-- Ends the include of a name, whatever has come of it, and leads back to the scope around it. -/
  | leave (name : String) (around : Scope)
  /-- Ends an attempt: what has failed in it is no failure any more. -/
  | recover

namespace Configurator

/-- Reports what a configuration has to say about the scope it is included with. -/
def reportOpening (body : IncludeBody) : Configuring Unit :=
  modify fun c => { c with journal := c.journal ++ body.opening c.package c.routePrefix }

/-- Begins the include of a name in a scope of its own, below a further prefix, unless one of that
name has been begun before. -/
def enter (name : String) (body : IncludeBody) (routePrefix : Option String) :
    Configuring (List Task) := do
  let c ← get
  if c.included.contains name then
    report .debug "already included"
    return []
  else
    modify fun c => { c with included := c.included ++ [name] }
    report .debug "including"
    modify fun c => { c with toScope := c.toScope.inside name routePrefix }
    reportOpening body
    return body.directives.map .perform ++ [.leave name c.toScope]

def counted (c : Configurator) : Configurator := { c with performed := c.performed + 1 }

/-- Counts a directive, and gives the number of those counted before. -/
def count : Configuring Nat := do
  let number := (← get).performed
  modify counted
  return number

@[simp] theorem count_apply (c : Configurator) : count c = (.ok c.performed, c.counted) := rfl

/-- A step that leads to nothing further. -/
def alone (act : Configuring Unit) : Configuring (List Task) := do
  act
  return []

/-- Carries out a directive as far as it goes, and gives what it leads to. -/
def start : Directive → Configuring (List Task)
  | .declareAt site d => alone (declare site d)
  | .declare site d => alone do declare (site (← count)) d
  | .define name d => alone do
    let _ ← count
    define name d
  | .inclusion name body routePrefix => do
    let _ ← count
    enter name body routePrefix
  | .inclusionNamed name routePrefix => do
    let _ ← count
    let (full, body) ← findInclude name
    enter full body routePrefix
  | .attempt body => do
    let _ ← count
    return body.map .perform ++ [.recover]

end Configurator

end WebDispatch
