import WebDispatch.Configuration.Recording
import WebDispatch.Proofs.Configuration.Commit

/-!
# Carrying out at once, once, or now and then

Actions may be carried out as they are declared, all together at the end, or in portions, by
commits at any points. Where no two of them share a discriminator, none has a lower number than one
before it, and the work of each succeeds, the registry comes out the same (`strategies_agree`): a
commit then carries out what has been recorded as it was declared, and what is left for later
commits is such a ledger again.

* `Applied` — what actions make of a registry when all succeed;
* `Step.run` — declares an action, or commits;
* `runs_deferred`, `runs_at_once` — the two modes, for any list of steps.
-/

namespace WebDispatch

open Effect

/-! ## What actions make of a registry -/

namespace Action

/-- The work of an action makes one registry of another, whatever has been reported before. -/
def Makes (a : Action) (g g' : Registry) : Prop :=
  match a.perform with
  | none => g' = g
  | some act => ∀ j, ∃ j', act ⟨g, j⟩ = (.ok (), ⟨g', j'⟩)

theorem Makes.works {a : Action} {s : Setup} {g : Registry} (h : a.Makes s.registry g) :
    ∃ t, a.Works s t ∧ t.registry = g := by
  unfold Makes at h
  split at h
  · next hnone => exact ⟨s, .idle hnone, h.symm⟩
  · next act hact =>
      obtain ⟨j, hrun⟩ := h (s.reported .trace "executing action").journal
      exact ⟨_, .done hact hrun, rfl⟩

end Action

/-- Actions, carried out one after another with success, make one registry of another: each does
its work, and then its descriptions are stored with its site. -/
inductive Applied : Registry → List Action → Registry → Prop where
  | nil (g : Registry) : Applied g [] g
  | cons {a : Action} {as : List Action} {g g' g'' : Registry} (work : a.Makes g g')
      (rest : Applied (g'.described a.introspectables a.site) as g'') : Applied g (a :: as) g''

namespace Applied

variable {g g' : Registry} {as bs : List Action}

theorem of_append (h : Applied g (as ++ bs) g') : ∃ m, Applied g as m ∧ Applied m bs g' := by
  induction as generalizing g with
  | nil => exact ⟨g, .nil g, h⟩
  | cons a as ih =>
      cases h with
      | cons work rest =>
          obtain ⟨m, hfirst, hlast⟩ := ih rest
          exact ⟨m, .cons work hfirst, hlast⟩

theorem carried {s : Setup} (h : Applied s.registry as g) :
    ∃ t, Setup.Carried s as t ∧ t.registry = g := by
  induction as generalizing s with
  | nil =>
      cases h
      exact ⟨s, .nil s, rfl⟩
  | cons a as ih =>
      cases h with
      | cons work rest =>
          obtain ⟨t, hworks, rfl⟩ := work.works
          obtain ⟨u, hrest, hu⟩ := ih (s := t.described a.introspectables a.site) rest
          exact ⟨u, .cons hworks hrest, hu⟩

end Applied

namespace Configurator

/-! ## Steps -/

/-- A step of a configuration: an action is declared under its includes, or what has been recorded
is committed. -/
inductive Step where
  | declare (a : Action)
  | commit

namespace Step

def declared : List Step → List Action
  | [] => []
  | declare a :: rest => a :: declared rest
  | commit :: rest => declared rest

def run : Step → Configuring Unit
  | declare a => do
    modify fun c => { c with includePath := a.includePath }
    act a.site a.discriminator a.perform a.order a.introspectables
  | commit => Configurator.commit

end Step

variable {c d : Configurator} {a : Action} {s : Step} {steps : List Step} {g : Registry}

theorem forM_run_cons (h : s.run c = (.ok (), d)) :
    (s :: steps).forM Step.run c = steps.forM Step.run d := by
  rw [forM_cons_apply, h]

theorem act_at_once (h : c.autocommit = true) (site : Site) (d : Option Discriminator)
    (f : Option (Effect Setup Unit)) (order : Int) (is : List Introspectable) :
    act site d f order is c = match (f.getD (pure ())) c.toSetup with
      | (.ok (), t) => (.ok (), { c with toSetup := t.described is site })
      | (.error e, t) => (.error e, { c with toSetup := t }) := by
  rcases hwork : (f.getD (pure ())) c.toSetup with ⟨e | ⟨⟩, t⟩ <;> simp [act_apply, h, hwork]

theorem run_declare (a : Action) (c : Configurator) :
    (Step.declare a).run c = act a.site a.discriminator a.perform a.order a.introspectables
      { c with includePath := a.includePath } := rfl

/-- Outside of that mode an action is recorded. -/
theorem run_declare_deferred (h : c.autocommit = false) :
    (Step.declare a).run c =
      (.ok (), { c with includePath := a.includePath, actions := c.actions ++ [a] }) :=
  act_deferred (c := { c with includePath := a.includePath }) h _ _ _ _ _

/-- In that mode an action is carried out, and the ledger is left alone. -/
theorem run_declare_at_once (h : c.autocommit = true) (hmakes : a.Makes c.registry g) :
    ∃ d, (Step.declare a).run c = (.ok (), d) ∧
      d.registry = g.described a.introspectables a.site ∧
      d.autocommit = true ∧ d.actions = c.actions := by
  have hwork : ∃ j, (a.perform.getD (pure ())) c.toSetup = (.ok (), ⟨g, j⟩) := by
    unfold Action.Makes at hmakes
    split at hmakes
    · next hnone =>
        rw [hnone, hmakes]
        exact ⟨c.journal, rfl⟩
    · next act hact =>
        rw [hact]
        exact hmakes c.journal
  obtain ⟨j, hrun⟩ := hwork
  have hmode : { c with includePath := a.includePath }.autocommit = true := h
  rw [run_declare, act_at_once hmode, hrun]
  exact ⟨_, rfl, rfl, h, rfl⟩

/-! ## The two modes -/

/-- A commit of actions that all succeed, where there is nothing to choose and nothing to sort. -/
theorem commit_of_applied (hdistinct : Ledger.Distinct c.actions)
    (hin : Ledger.InOrder c.actions) (h : Applied c.registry c.actions g) :
    ∃ d, commit c = (.ok (), d) ∧ d.registry = g ∧ d.actions = [] ∧
      d.autocommit = c.autocommit := by
  obtain ⟨t, hcarried, ht⟩ := Applied.carried (s := c.begun) h
  refine ⟨{ c with actions := [], toSetup := t }, ?_, ht, rfl, rfl⟩
  rw [commit_of_resolved (Ledger.resolve_of_distinct hdistinct hin),
    Setup.forM_of_carried hcarried]

/-- With commits at any points, and one at the end. What is to come of the steps is told for what
has been recorded before together with what they declare. -/
theorem runs_deferred (hmode : c.autocommit = false)
    (hdistinct : Ledger.Distinct (c.actions ++ Step.declared steps))
    (hin : Ledger.InOrder (c.actions ++ Step.declared steps))
    (h : Applied c.registry (c.actions ++ Step.declared steps) g) :
    ∃ d, (steps ++ [Step.commit]).forM Step.run c = (.ok (), d) ∧ d.registry = g ∧
      d.actions = [] := by
  induction steps generalizing c with
  | nil =>
      rw [Step.declared, List.append_nil] at hdistinct hin h
      obtain ⟨d, hcommit, hg, hempty, -⟩ := commit_of_applied hdistinct hin h
      exact ⟨d, forM_run_cons (s := .commit) hcommit, hg, hempty⟩
  | cons s steps ih =>
      cases s with
      | declare a =>
          rw [Step.declared, List.append_cons] at hdistinct hin h
          rw [List.cons_append, forM_run_cons (run_declare_deferred hmode)]
          exact ih hmode hdistinct hin h
      | commit =>
          rw [Step.declared] at hdistinct hin h
          obtain ⟨m, hfirst, hrest⟩ := h.of_append
          obtain ⟨hdistinct₁, hdistinct₂, -⟩ := List.pairwise_append.mp hdistinct
          obtain ⟨hin₁, hin₂, -⟩ := List.pairwise_append.mp hin
          obtain ⟨d, hcommit, rfl, hempty, hd⟩ := commit_of_applied hdistinct₁ hin₁ hfirst
          rw [List.cons_append, forM_run_cons (s := .commit) hcommit]
          refine ih (hd.trans hmode) ?_ ?_ ?_
          all_goals
            rw [hempty, List.nil_append]
            assumption

/-- At once. Commits in between find nothing to do. -/
theorem runs_at_once (hmode : c.autocommit = true) (hempty : c.actions = [])
    (h : Applied c.registry (Step.declared steps) g) :
    ∃ d, steps.forM Step.run c = (.ok (), d) ∧ d.registry = g ∧ d.actions = [] := by
  induction steps generalizing c with
  | nil =>
      cases h
      exact ⟨c, rfl, rfl, hempty⟩
  | cons s steps ih =>
      cases s with
      | declare a =>
          rw [Step.declared] at h
          cases h with
          | cons work rest =>
              obtain ⟨d, hrun, hd, hmode', hactions⟩ := run_declare_at_once hmode work
              rw [forM_run_cons hrun]
              exact ih hmode' (hactions.trans hempty) (hd ▸ rest)
      | commit =>
          rw [Step.declared] at h
          have hnothing : Applied c.registry c.actions c.registry := hempty ▸ .nil c.registry
          obtain ⟨d, hcommit, hd, hactions, hmode'⟩ := commit_of_applied
            (hempty ▸ List.Pairwise.nil) (hempty ▸ List.Pairwise.nil) hnothing
          rw [forM_run_cons (s := .commit) hcommit]
          exact ih (hmode'.trans hmode) hactions (hd ▸ h)

/-- **At once, at the end, or in portions.** Actions of which no two share a discriminator, whose
numbers do not fall, and whose work succeeds make the same registry, with the same descriptions, in
autocommit mode and with commits at any points and one at the end. -/
theorem strategies_agree {calls : List Action} (hempty : c.actions = [])
    (hdistinct : Ledger.Distinct calls) (hin : Ledger.InOrder calls)
    (h : Applied c.registry calls g) (hsteps : Step.declared steps = calls) :
    (∃ d, steps.forM Step.run { c with autocommit := true } = (.ok (), d) ∧ d.registry = g) ∧
      ∃ d, (steps ++ [Step.commit]).forM Step.run { c with autocommit := false } = (.ok (), d) ∧
        d.registry = g ∧ d.actions = [] := by
  subst hsteps
  constructor
  · obtain ⟨d, hrun, hd, -⟩ := runs_at_once (c := { c with autocommit := true }) rfl hempty h
    exact ⟨d, hrun, hd⟩
  · refine runs_deferred (c := { c with autocommit := false }) rfl ?_ ?_ ?_
    all_goals
      rw [hempty, List.nil_append]
      assumption

def permissionAction : Action where
  discriminator := some ["default permission"]
  perform := some (Setup.update fun r => { r with defaultPermission := some "view" })
  order := -20
  site := .step 0
  introspectables := [.of "permissions" "view" "view" "permission"]

def remarkAction : Action where
  includePath := ["app.remarks"]
  site := .step 2
  introspectables := [.of "remarks" "first" "a remark" "remark"]

/-- A permission, a commit, and a remark. -/
theorem strategies_agree_permission :
    ∃ g, Applied (Registry.empty "app") [permissionAction, remarkAction] g ∧
      g.defaultPermission = some "view" ∧
      Ledger.Distinct [permissionAction, remarkAction] ∧
      Ledger.InOrder [permissionAction, remarkAction] ∧
      (∃ d, [Step.declare permissionAction, Step.commit, Step.declare remarkAction].forM Step.run
        { registry := Registry.empty "app", autocommit := true } = (.ok (), d) ∧ d.registry = g) ∧
      ∃ d, ([Step.declare permissionAction, Step.commit, Step.declare remarkAction] ++
        [Step.commit]).forM Step.run { registry := Registry.empty "app" } = (.ok (), d) ∧
          d.registry = g ∧ d.actions = [] := by
  have hpermission : permissionAction.Makes (Registry.empty "app")
      { Registry.empty "app" with defaultPermission := some "view" } := fun j => ⟨j, rfl⟩
  have happlied := Applied.cons hpermission
    (.cons (a := remarkAction) rfl (.nil _))
  have hdistinct : Ledger.Distinct [permissionAction, remarkAction] := by
    simp [Ledger.Distinct, permissionAction, remarkAction]
  have hin : Ledger.InOrder [permissionAction, remarkAction] := by
    simp [Ledger.InOrder, permissionAction, remarkAction]
  exact ⟨_, happlied, rfl, hdistinct, hin,
    strategies_agree (c := { registry := Registry.empty "app" }) rfl hdistinct hin happlied rfl⟩

end Configurator

end WebDispatch
