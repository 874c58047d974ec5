import WebDispatch.Configuration.Workload

/-!
# Carrying out configurations

A configuration is carried out task by task: a directive is begun, and what it leads to is done
before the rest. After a failure nothing more is begun, up to the end of an attempt; but includes
are ended and their scopes left all the same. There is no limit to how deeply includes may be
nested, and they may include each other: what has been included under a name is not included again,
so that this comes to an end.

* `Course` — a configuration that is being carried out; `Course.next` — its next step;
* `Configurator.perform` — carries out a directive, with all that it leads to;
* `Configurator.makeApplication` — finishes a configuration and gives the router.
-/

namespace WebDispatch

/-- A configuration that is being carried out. -/
structure Course where
  /-- What is left to do, the next first. -/
  tasks : List Task
  /-- What has come of it so far. -/
  result : Except Error Unit
  configurator : Configurator

namespace Course

def next : Course → Option Course
  | ⟨[], _, _⟩ => none
  | ⟨.perform d :: rest, .ok (), c⟩ =>
    match Configurator.start d c with
    | (.ok tasks, c) => some ⟨tasks ++ rest, .ok (), c⟩
    | (.error e, c) => some ⟨rest, .error e, c⟩
  | ⟨.perform _ :: rest, .error e, c⟩ => some ⟨rest, .error e, c⟩
  | ⟨.leave _ around :: rest, r, c⟩ => some ⟨rest, r, { c with toScope := around }⟩
  | ⟨.recover :: rest, _, c⟩ => some ⟨rest, .ok (), c⟩

/-- The sizes of what is left to do, and of what may come to be included by name. -/
noncomputable def workload (p : Course) : List Nat :=
  p.tasks.map Task.size ++ p.configurator.pending

@[simp] theorem next_perform (d : Directive) (rest : List Task) (c : Configurator) :
    next ⟨.perform d :: rest, .ok (), c⟩ =
      some ⟨Configurator.tasksOf (Configurator.start d c).1 ++ rest,
        (Configurator.start d c).1.map fun _ => (), (Configurator.start d c).2⟩ := by
  rw [next]
  rcases Configurator.start d c with ⟨_ | _, _⟩ <;> rfl

theorem lighter_of_rest {t : Task} {rest : List Task} {r r' : Except Error Unit}
    {c c' : Configurator} (h : c'.pending = c.pending) :
    Workload.Lighter (workload ⟨rest, r', c'⟩) (workload ⟨t :: rest, r, c⟩) := by
  rw [workload, workload, h]
  exact ⟨t.size, rest.map Task.size ++ c.pending, [], .refl _, .refl _, nofun⟩

/-- Each step makes the workload lighter. -/
theorem next_lighter {p q : Course} (h : p.next = some q) :
    Workload.Lighter q.workload p.workload := by
  rcases p with ⟨_ | ⟨d | _ | _, rest⟩, r, c⟩
  · cases h
  · cases r with
    | error e =>
      cases h
      exact lighter_of_rest rfl
    | ok _ =>
      rw [next_perform] at h
      obtain rfl := Option.some.inj h
      have hstart := Configurator.start_lighter (Configurator.start_begun d c)
      refine (hstart.append_right (rest.map Task.size)).of_perm ?_ ?_
      · rw [workload, List.map_append, List.append_assoc, List.append_assoc]
        exact List.perm_append_comm.append_left _
      · exact List.perm_append_comm.cons (sizeOf d)
  · cases h
    exact lighter_of_rest rfl
  · cases h
    exact lighter_of_rest rfl

instance : WellFoundedRelation Course where
  rel q p := Workload.Lighter q.workload p.workload
  wf := InvImage.wf workload Workload.wellFounded_lighter

/-- Does all that is left to do, and what it leads to. -/
def finish (p : Course) : Except Error Unit × Configurator :=
  match _h : p.next with
  | none => (p.result, p.configurator)
  | some q => q.finish
termination_by p
decreasing_by exact next_lighter ‹_›

end Course

namespace Configurator

def perform (d : Directive) : Configuring Unit :=
  fun c => Course.finish ⟨[.perform d], .ok (), c⟩

def summary (r : Registry) : ApplicationSummary :=
  { routes := r.routes.elim 0 fun t => t.routes.size
    views := r.viewCount
    renderers := r.rendererNames }

/-- Finishes the configuration: places the tweens that the settings name, carries out what is
left, makes the router, and tells the subscribers. -/
def makeApplication : Configuring Router := do
  (← get).registry.settings.tweens.forM (addExplicitTween .application)
  commit
  let registry := (← get).registry
  let router ← setup (Setup.reporting (Router.make registry))
  setup (Setup.reporting
    (registry.subscriptions.notify .applicationCreated fun s =>
      s.applicationCreated (summary registry)))
  report .debug "application created"
  return router

end Configurator

end WebDispatch
