import WebDispatch.Configuration.Perform
import WebDispatch.Proofs.Effect

/-!
# The course of a configuration

A configuration is carried out in steps, which come to an end. What a directive leads to is done
before what comes after it, so that the whole is what the directives do one inside the other: an
include carries out its directives in a scope of its own, and then the scope is what it was.

* `Course.Step` — the four kinds of steps; `Course.Runs` — steps one after another;
* `Course.finish_runs` — carrying out a configuration is such a run, with nothing left to do;
* `perform_inclusion`, `perform_inclusionNamed`, `perform_attempt` — directives that lead to others.
-/

namespace WebDispatch

open Effect

namespace Course

variable {p q e : Course} {log : List Course} {rest : List Task}

/-! ## Steps -/

/-- One course leads to another by a step. -/
inductive Step : Course → Course → Prop where
  /-- A directive is begun, and what it leads to comes before the rest. -/
  | begun {d : Directive} {rest : List Task} {c c' : Configurator}
    {r : Except Error (List Task)} (hrun : Configurator.start d c = (r, c'))
    (h : Configurator.Begun d c r c') :
    Step ⟨.perform d :: rest, .ok (), c⟩
      ⟨Configurator.tasksOf r ++ rest, r.map fun _ => (), c'⟩
  /-- After a failure a directive is passed over. -/
  | skipped {d : Directive} {rest : List Task} {err : Error} {c : Configurator} :
    Step ⟨.perform d :: rest, .error err, c⟩ ⟨rest, .error err, c⟩
  /-- An include is ended, and its scope is left. -/
  | left {name : String} {around : Scope} {rest : List Task} {r : Except Error Unit}
    {c : Configurator} :
    Step ⟨.leave name around :: rest, r, c⟩ ⟨rest, r, { c with toScope := around }⟩
  /-- An attempt is ended, and what failed in it is no failure. -/
  | recovered {rest : List Task} {r : Except Error Unit} {c : Configurator} :
    Step ⟨.recover :: rest, r, c⟩ ⟨rest, .ok (), c⟩

theorem step_of_next (h : p.next = some q) : p.Step q := by
  rcases p with ⟨_ | ⟨d | _ | _, rest⟩, r, c⟩
  · cases h
  · cases r with
    | error _ =>
      cases h
      exact .skipped
    | ok _ =>
      rw [next_perform] at h
      obtain rfl := Option.some.inj h
      exact .begun rfl (Configurator.start_begun d c)
  · cases h
    exact .left
  · cases h
    exact .recovered

theorem next_eq_none_iff : p.next = none ↔ p.tasks = [] := by
  rcases p with ⟨_ | ⟨d | _ | _, rest⟩, r, c⟩
  · exact ⟨fun _ => rfl, fun _ => rfl⟩
  · cases r with
    | error _ => exact ⟨nofun, nofun⟩
    | ok _ =>
      rw [next_perform]
      exact ⟨nofun, nofun⟩
  · exact ⟨nofun, nofun⟩
  · exact ⟨nofun, nofun⟩

theorem finish_of_done (h : p.tasks = []) : p.finish = (p.result, p.configurator) := by
  rw [finish]
  split
  · rfl
  · next hq => rw [next_eq_none_iff.2 h] at hq; cases hq

theorem finish_of_next (h : p.next = some q) : p.finish = q.finish := by
  rw [finish]
  split
  · next hq => rw [h] at hq; cases hq
  · next hq => rw [h] at hq; rw [Option.some.inj hq]

/-! ## Runs -/

/-- Steps one after another, with the courses that they lead from. -/
inductive Runs : Course → List Course → Course → Prop where
  | nil (p : Course) : Runs p [] p
  | cons {p q e : Course} {log : List Course} (hnext : p.next = some q) (h : Runs q log e) :
    Runs p (p :: log) e

/-- Carrying out a configuration is a run that leaves nothing to do. -/
theorem finish_runs (p : Course) : ∃ log, Runs p log ⟨[], p.finish.1, p.finish.2⟩ := by
  induction p using finish.induct with
  | case1 p hnone =>
    rcases p with ⟨tasks, r, c⟩
    obtain rfl : tasks = [] := next_eq_none_iff.1 hnone
    rw [finish_of_done rfl]
    exact ⟨[], .nil _⟩
  | case2 p q hq ih =>
    obtain ⟨log, hlog⟩ := ih
    rw [finish_of_next hq]
    exact ⟨p :: log, .cons hq hlog⟩

/-! ## Tasks one after another -/

def followedBy (p : Course) (rest : List Task) : Course := { p with tasks := p.tasks ++ rest }

/-- What comes behind makes no difference to a step. -/
theorem next_followedBy (h : p.next = some q) (rest : List Task) :
    (p.followedBy rest).next = some (q.followedBy rest) := by
  rcases p with ⟨_ | ⟨d | _ | _, tasks⟩, r, c⟩
  · cases h
  · cases r with
    | error _ =>
      cases h
      rfl
    | ok _ =>
      rw [next_perform] at h
      obtain rfl := Option.some.inj h
      refine (next_perform d (tasks ++ rest) c).trans ?_
      rw [followedBy, List.append_assoc]
  · cases h
    rfl
  · cases h
    rfl

/-- What comes behind is done when all else has been done. -/
@[simp] theorem finish_followedBy (p : Course) (rest : List Task) :
    (p.followedBy rest).finish = finish ⟨rest, p.finish.1, p.finish.2⟩ := by
  induction p using finish.induct with
  | case1 p hnone =>
    rcases p with ⟨tasks, r, c⟩
    obtain rfl : tasks = [] := next_eq_none_iff.1 hnone
    have hdone : finish ⟨[], r, c⟩ = (r, c) := finish_of_done rfl
    rw [hdone]
    rfl
  | case2 p q hq ih => rw [finish_of_next (next_followedBy hq rest), ih, finish_of_next hq]

theorem finish_append (tasks rest : List Task) (r : Except Error Unit) (c : Configurator) :
    finish ⟨tasks ++ rest, r, c⟩ =
      finish ⟨rest, (finish ⟨tasks, r, c⟩).1, (finish ⟨tasks, r, c⟩).2⟩ :=
  finish_followedBy ⟨tasks, r, c⟩ rest

@[simp] theorem finish_of_error (ds : List Directive) (e : Error) (c : Configurator) :
    finish ⟨ds.map .perform, .error e, c⟩ = (.error e, c) := by
  induction ds with
  | nil => exact finish_of_done rfl
  | cons d ds ih => exact (finish_of_next rfl).trans ih

/-- Directives as tasks are carried out one after another, up to the first that fails. -/
theorem finish_perform (ds : List Directive) (c : Configurator) :
    finish ⟨ds.map .perform, .ok (), c⟩ = ds.forM Configurator.perform c := by
  induction ds generalizing c with
  | nil => exact finish_of_done rfl
  | cons d ds ih =>
    refine (finish_append [.perform d] (ds.map .perform) (.ok ()) c).trans ?_
    rw [forM_cons_apply, Configurator.perform]
    rcases finish ⟨[.perform d], .ok (), c⟩ with ⟨e | _, c'⟩
    · exact finish_of_error ds e c'
    · exact ih c'

end Course

namespace Configurator

variable {c : Configurator}

/-! ## Directives that lead to others -/

/-- Carries out an include in a scope of its own, unless one of its name has been begun before. In
any case the scope is in the end what it was. -/
def carryOut (name : String) (body : IncludeBody) (routePrefix : Option String) :
    Configuring Unit := do
  let c ← get
  if c.included.contains name then report .debug "already included"
  else
    modify fun c => { c with included := c.included ++ [name] }
    report .debug "including"
    modify fun c => { c with toScope := c.toScope.inside name routePrefix }
    reportOpening body
    let result ← (body.directives.forM perform).outcome
    modify fun d => { d with toScope := c.toScope }
    Effect.ofExcept result

/-- What a directive leads to is done after it has been begun. -/
theorem perform_eq (d : Directive) (c : Configurator) :
    perform d c =
      Course.finish ⟨tasksOf (start d c).1, (start d c).1.map fun _ => (), (start d c).2⟩ := by
  have hnext := Course.next_perform d [] c
  rw [List.append_nil] at hnext
  exact Course.finish_of_next hnext

/-- A directive that leads to nothing is carried out at once. -/
theorem perform_of_alone {d : Directive} {act : Configuring Unit} (h : start d = alone act) :
    perform d = act := by
  funext c
  rw [perform_eq, h, alone_eq]
  rcases act c with ⟨e | ⟨⟩, c'⟩
  · exact Course.finish_of_done rfl
  · exact Course.finish_of_done rfl

theorem finish_enter (name : String) (body : IncludeBody) (p : Option String) (c : Configurator) :
    Course.finish ⟨tasksOf (enter name body p c).1, (enter name body p c).1.map fun _ => (),
      (enter name body p c).2⟩ = carryOut name body p c := by
  by_cases h : c.included.contains name
  · rw [enter_of_included h]
    change Course.finish ⟨[], .ok (), _⟩ = (if c.included.contains name then _ else _ :
      Configuring Unit) c
    rw [if_pos h]
    exact Course.finish_of_done rfl
  · have hcarry : carryOut name body p c =
        (((body.directives.forM perform) (opened name body p c)).1,
          { ((body.directives.forM perform) (opened name body p c)).2 with
            toScope := c.toScope }) := by
      change (if c.included.contains name then _ else _ : Configuring Unit) c = _
      rw [if_neg h]
      rfl
    rw [enter_of_new body p h, hcarry]
    refine (Course.finish_append _ [.leave name c.toScope] (.ok ()) _).trans ?_
    rw [Course.finish_perform]
    exact (Course.finish_of_next rfl).trans (Course.finish_of_done rfl)

theorem perform_inclusion (name : String) (body : IncludeBody) (p : Option String) :
    perform (.inclusion name body p) = count >>= fun _ => carryOut name body p := by
  funext c
  rw [perform_eq]
  exact finish_enter name body p c.counted

theorem perform_inclusionNamed (name : String) (p : Option String) :
    perform (.inclusionNamed name p) =
      count >>= fun _ => findInclude name >>= fun found => carryOut found.1 found.2 p := by
  funext c
  rw [perform_eq, start_inclusionNamed, bind_apply]
  change _ = (findInclude name >>= fun found => carryOut found.1 found.2 p) c.counted
  rw [bind_apply]
  rcases findInclude name c.counted with ⟨e | ⟨full, body⟩, c'⟩
  · exact Course.finish_of_done rfl
  · exact finish_enter full body p c'

theorem perform_attempt (body : List Directive) :
    perform (.attempt body) =
      count >>= fun _ => (body.forM perform).outcome >>= fun _ => pure () := by
  funext c
  refine (perform_eq (.attempt body) c).trans ?_
  refine (Course.finish_append (body.map .perform) [.recover] (.ok ()) c.counted).trans ?_
  rw [Course.finish_perform]
  exact (Course.finish_of_next rfl).trans (Course.finish_of_done rfl)

end Configurator

end WebDispatch
