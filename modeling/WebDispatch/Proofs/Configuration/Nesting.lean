import WebDispatch.Proofs.Configuration.Inclusion
import WebDispatch.Proofs.Configuration.PrefixedRoutes

/-!
# Prefixes while includes are carried out

What has been begun and not yet ended tells, with the prefixes that were given to it, in which
scope a configuration is at any moment: that of the includes inside one another. So the prefix in
effect in the innermost of them is all their prefixes joined behind the one that the configuration
began with, and it is the latter again when they have come to their ends.

* `Course.enclosing` — the includes that steps have left open, with the prefixes given to them;
* `Course.Inside`, `inside_of_step`, `inside_of_runs` — the scope is always that of these
  includes;
* `exists_prefixed` — the prefixes of a configuration, and the routes that are added below them.
-/

namespace WebDispatch

open Configurator (tasksOf)

def Directive.givenPrefix : Directive → Option String
  | inclusion _ _ p => p
  | inclusionNamed _ p => p
  | declareAt .. | declare .. | define .. | attempt _ => none

namespace Course

variable {p q e : Course} {log : List Course} {base : Scope} {rest tasks : List Task}
  {chain : List (String × Option String)}

/-! ## The includes that are open -/

/-- The open includes after a step, the outermost first, each with the prefix given to it. -/
def pass (chain : List (String × Option String)) (p : Course) : List (String × Option String) :=
  match p.tasks with
  | .perform d :: _ => chain ++ p.begins.map fun name => (name, d.givenPrefix)
  | .leave _ _ :: _ => chain.dropLast
  | .recover :: _ | [] => chain

def enclosing (log : List Course) : List (String × Option String) := log.foldl pass []

/-- The includes still to be ended are a chain, and each is left for the scope around it. -/
inductive Enclosed (base : Scope) : List Task → List (String × Option String) → Prop where
  | nil : Enclosed base [] []
  | perform {d : Directive} {rest : List Task} {chain : List (String × Option String)}
    (h : Enclosed base rest chain) : Enclosed base (.perform d :: rest) chain
  | recover {rest : List Task} {chain : List (String × Option String)}
    (h : Enclosed base rest chain) : Enclosed base (.recover :: rest) chain
  | leave {name : String} {given : Option String} {rest : List Task}
    {chain : List (String × Option String)} (h : Enclosed base rest chain) :
    Enclosed base (.leave name (base.within chain) :: rest) (chain ++ [(name, given)])

/-- A course is inside a chain of includes: these are still to be ended, and the scope is theirs. -/
structure Inside (base : Scope) (chain : List (String × Option String)) (p : Course) : Prop where
  tasks : Enclosed base p.tasks chain
  scope : p.configurator.toScope = base.within chain

theorem Enclosed.performs (ds : List Directive) (h : Enclosed base rest chain) :
    Enclosed base (ds.map .perform ++ rest) chain := by
  induction ds with
  | nil => exact h
  | cons d ds ih => exact .perform ih

theorem Enclosed.names (h : Enclosed base tasks chain) :
    (tasks.filterMap Task.ends).reverse = chain.map Prod.fst := by
  induction h with
  | nil => rfl
  | perform _ ih => exact ih
  | recover _ ih => exact ih
  | @leave name given rest chain _ ih =>
    have hends : (Task.leave name (base.within chain) :: rest).filterMap Task.ends =
        name :: rest.filterMap Task.ends := rfl
    rw [hends, List.reverse_cons, ih, List.map_append]
    rfl

/-- Every step leads into an include, out of one, or leaves the scope as it is. -/
theorem inside_of_step (h : p.Step q) (hp : p.Inside base chain) :
    q.Inside base (pass chain p) := by
  obtain ⟨htasks, hscope⟩ := hp
  cases h with
  | @begun d rest c c' r hrun h =>
    have hrest : Enclosed base rest chain := by
      cases htasks with
      | perform h => exact h
    have hpass {names : List String} (hends : (tasksOf r).filterMap Task.ends = names) :
        pass chain ⟨.perform d :: rest, .ok (), c⟩ =
          chain ++ names.map fun name => (name, d.givenPrefix) := by
      rw [pass, begins, hrun, hends]
    have hsame (hends : (tasksOf r).filterMap Task.ends = []) :
        pass chain ⟨.perform d :: rest, .ok (), c⟩ = chain :=
      (hpass hends).trans (List.append_nil chain)
    cases h with
    | added hadds hr =>
      rw [hsame (by rw [hr, List.filterMap_nil]), hr]
      exact ⟨hrest, hadds.scope.trans hscope⟩
    | committed hd hground hactions hr =>
      rw [hsame (by rw [hr, List.filterMap_nil]), hr]
      exact ⟨hrest, hground.scope.trans hscope⟩
    | named hd =>
      rw [hsame rfl]
      exact ⟨hrest, hscope⟩
    | @attempted body _ hd hadds =>
      rw [hsame (filterMap_ends_performs body .recover)]
      refine ⟨?_, hadds.scope.trans hscope⟩
      change Enclosed base ((body.map .perform ++ [.recover]) ++ rest) chain
      rw [List.append_assoc]
      exact .performs body (.recover hrest)
    | @entered name body given t hnew hbody =>
      have hgiven : d.givenPrefix = given := by
        rcases hbody with rfl | ⟨⟨n, rfl⟩, -⟩ <;> rfl
      rw [hpass (filterMap_ends_performs body.directives (.leave name c.toScope)), hgiven]
      have hinside : c.toScope.inside name given = base.within (chain ++ [(name, given)]) := by
        rw [Scope.within_concat, ← hscope]
      refine ⟨?_, hinside⟩
      change Enclosed base ((body.directives.map .perform ++ [.leave name c.toScope]) ++ rest) _
      -- the scope that the include will be left for is the one that it is begun in
      have hleave : c.toScope = base.within chain := hscope
      rw [List.append_assoc, hleave]
      exact .performs body.directives (.leave hrest)
  | @skipped d rest err c =>
    have hpass : pass chain ⟨.perform d :: rest, .error err, c⟩ = chain := List.append_nil chain
    rw [hpass]
    cases htasks with
    | perform hrest => exact ⟨hrest, hscope⟩
  | left =>
    cases htasks with
    | @leave name given rest chain hrest =>
      rw [pass, List.dropLast_concat]
      exact ⟨hrest, rfl⟩
  | recovered =>
    cases htasks with
    | recover hrest => exact ⟨hrest, hscope⟩

/-- At every moment of a run the scope is that of the includes that the steps before have left
open. -/
theorem inside_of_runs (h : Runs p log e) (hp : p.Inside base chain) :
    (∀ before m after, log = before ++ m :: after → m.Inside base (before.foldl pass chain)) ∧
      e.Inside base (log.foldl pass chain) := by
  induction h generalizing chain with
  | nil p =>
    refine ⟨fun before m after hsplit => ?_, hp⟩
    simp at hsplit
  | @cons p q e log hnext _ ih =>
    obtain ⟨hlog, he⟩ := ih (inside_of_step (step_of_next hnext) hp)
    refine ⟨?_, he⟩
    intro before m after hsplit
    cases before with
    | nil =>
      obtain ⟨rfl, -⟩ := List.cons.inj hsplit
      exact hp
    | cons first before =>
      obtain ⟨rfl, hlater⟩ := List.cons.inj hsplit
      exact hlog before m after hlater

theorem Inside.running_eq (h : p.Inside base chain) : chain.map Prod.fst = p.running :=
  h.tasks.names.symm

theorem Inside.eq_nil (h : p.Inside base chain) (hrunning : p.running = []) : chain = [] :=
  List.map_eq_nil_iff.mp (h.running_eq.trans hrunning)

/-- Inside a chain of includes, in a scope below a first prefix, the prefix is all of theirs, joined
behind the first. -/
theorem Inside.routePrefix_eq {initial : Option String} (h : p.Inside base chain)
    (hbase : base.routePrefix = RoutePrefix.joined [initial]) :
    p.configurator.routePrefix = RoutePrefix.joined (initial :: chain.map Prod.snd) := by
  rw [h.scope]
  exact Scope.routePrefix_within hbase chain

/-! ## The prefixes of a configuration -/

open Configurator (addRoute addDeclared fullPattern)

/-- The prefixes in effect while directives are carried out, the first of which may be given to the
whole. -/
structure Prefixed (initial : Option String) (log : List Course) (e : Course) : Prop where
  /-- The open includes are those that are being carried out. -/
  running : ∀ before p after, log = before ++ p :: after →
    (enclosing before).map Prod.fst = p.running
  /-- In the innermost of them the prefix is all that is left of theirs, joined. -/
  joined : ∀ before p after, log = before ++ p :: after →
    p.configurator.routePrefix =
      RoutePrefix.joined (initial :: (enclosing before).map Prod.snd)
  /-- A route that is added there is alike to one that is added without a prefix and has its pattern
  in full; or neither can be added. -/
  routes : ∀ p ∈ log, ∀ whole, p.configurator.routePrefix = some whole →
    ∀ site name pattern d,
      (∃ r r', addRoute site name pattern d p.configurator = addDeclared site d r p.configurator ∧
          addRoute site name (fullPattern whole pattern) d p.configurator.withoutPrefix =
            addDeclared site d r' p.configurator.withoutPrefix ∧
          r.name = name ∧ r.Alike r') ∨
        ∃ e e', addRoute site name pattern d p.configurator = (.error e, p.configurator) ∧
          addRoute site name (fullPattern whole pattern) d p.configurator.withoutPrefix =
            (.error e', p.configurator.withoutPrefix)
  /-- When none is being carried out, the prefix is the one that the whole began with. -/
  returned : ∀ p ∈ log, p.running = [] →
    p.configurator.routePrefix = initial.bind RoutePrefix.normalize
  last : e.configurator.routePrefix = initial.bind RoutePrefix.normalize

/-- **Prefixes of nested includes compose.** Whatever directives are carried out, in a configuration
that has begun with a prefix or without one, they come to an end, and the prefixes in effect are
those of the includes, one inside the other. -/
theorem exists_prefixed (initial : Option String) (ds : List Directive) (c : Configurator) :
    ∃ log e, Runs ⟨ds.map .perform, .ok (), c.withRoutePrefix initial⟩ log e ∧ e.tasks = [] ∧
      ds.forM Configurator.perform (c.withRoutePrefix initial) = (e.result, e.configurator) ∧
      Prefixed initial log e := by
  obtain ⟨log, hruns⟩ := finish_runs ⟨ds.map .perform, .ok (), c.withRoutePrefix initial⟩
  rw [finish_perform] at hruns
  have hbase : (c.withRoutePrefix initial).toScope.routePrefix = RoutePrefix.joined [initial] :=
    (RoutePrefix.joined_singleton initial).symm
  have hbegin : Inside (c.withRoutePrefix initial).toScope []
      ⟨ds.map .perform, .ok (), c.withRoutePrefix initial⟩ :=
    ⟨List.append_nil (ds.map Task.perform) ▸ .performs ds .nil, rfl⟩
  obtain ⟨hinside, hlast⟩ := inside_of_runs hruns hbegin
  have hmoment : ∀ p ∈ log, ∃ chain, p.Inside (c.withRoutePrefix initial).toScope chain := by
    intro p hp
    obtain ⟨before, after, hsplit⟩ := List.append_of_mem hp
    exact ⟨_, hinside before p after hsplit⟩
  have hreturned {p : Course} {chain : List (String × Option String)}
      (h : p.Inside (c.withRoutePrefix initial).toScope chain) (hrunning : p.running = []) :
      p.configurator.routePrefix = initial.bind RoutePrefix.normalize := by
    rw [h.routePrefix_eq hbase, h.eq_nil hrunning, List.map_nil, RoutePrefix.joined_singleton]
  refine ⟨log, _, hruns, rfl, rfl, ?_⟩
  constructor
  case running =>
    intro before p after hsplit
    exact (hinside before p after hsplit).running_eq
  case joined =>
    intro before p after hsplit
    exact (hinside before p after hsplit).routePrefix_eq hbase
  case routes =>
    intro p hp whole hwhole
    obtain ⟨chain, hchain⟩ := hmoment p hp
    have hjoined := (hchain.routePrefix_eq hbase).symm.trans hwhole
    exact Configurator.addRoute_below hwhole (RoutePrefix.proper_of_joined hjoined)
  case returned =>
    intro p hp hrunning
    obtain ⟨chain, hchain⟩ := hmoment p hp
    exact hreturned hchain hrunning
  case last => exact hreturned hlast rfl

end Course

end WebDispatch
