import WebDispatch.Configuration.Configurator
import WebDispatch.Proofs.Effect
import WebDispatch.Proofs.Ledger.Uniqueness

/-!
# What a commit leaves behind

A commit resolves the ledger before it carries anything out. If there are conflicts, the registry
stays as it was. Otherwise the winning actions are carried out in order, each by its work and then
the descriptions that go with it. Where the work of one fails, the registry is what the actions
before it and this work have made of it: its own descriptions and all later actions are left out.

* `Action.Works`, `Action.Fails` — the work of an action, and that it fails;
* `Setup.Carried` — actions are carried out one after another with success;
* `Configurator.commit_of_conflicts`, `Configurator.commit_of_resolved` — a commit in one equation;
* `Configurator.StoppedAt`, `commit_failures` — how far a commit that fails has come.
-/

namespace WebDispatch

open Effect

/-! ## Carrying out an action -/

/-- Descriptions of what was declared at a site have been stored. -/
def Registry.described (r : Registry) (items : List Introspectable) (site : Site) : Registry :=
  { r with introspector := items.foldl (fun i item => i.register item (some site)) r.introspector }

namespace Setup

def reported (s : Setup) (level : Level) (message : String) : Setup :=
  { s with journal := s.journal ++ [.diagnostic level "cornice::config" message] }

def described (s : Setup) (items : List Introspectable) (site : Site) : Setup :=
  { s with registry := s.registry.described items site }

@[simp] theorem report_apply (level : Level) (message : String) (s : Setup) :
    report level message s = (.ok (), s.reported level message) := rfl

@[simp] theorem describe_apply (items : List Introspectable) (site : Site) (s : Setup) :
    describe items site s = (.ok (), s.described items site) := rfl

end Setup

namespace Action

variable {a : Action} {s t : Setup} {cause : Error}

/-- The work of an action succeeds, if it has any. -/
inductive Works (a : Action) (s : Setup) : Setup → Prop where
  | idle (h : a.perform = none) : Works a s s
  | done {act : Effect Setup Unit} {t : Setup} (h : a.perform = some act)
      (run : act (s.reported .trace "executing action") = (.ok (), t)) : Works a s t

def Fails (a : Action) (s : Setup) (cause : Error) (t : Setup) : Prop :=
  ∃ act, a.perform = some act ∧ act (s.reported .trace "executing action") = (.error cause, t)

theorem execute_of_perform {act : Effect Setup Unit} (h : a.perform = some act) (s : Setup) :
    a.execute s = match act (s.reported .trace "executing action") with
      | (.ok (), t) => (.ok (), t.described a.introspectables a.site)
      | (.error e, t) =>
        (.error (.execution a.site e), t.reported .warning "configuration action failed") := by
  rcases hact : act (s.reported .trace "executing action") with ⟨e | ⟨⟩, t⟩
  all_goals simp [execute, h, hact]

theorem execute_of_works (h : a.Works s t) :
    a.execute s = (.ok (), t.described a.introspectables a.site) := by
  cases h with
  | idle h => simp [execute, h]
  | done h run => rw [execute_of_perform h, run]

theorem execute_of_fails (h : a.Fails s cause t) :
    a.execute s =
      (.error (.execution a.site cause), t.reported .warning "configuration action failed") := by
  obtain ⟨act, hact, hrun⟩ := h
  rw [execute_of_perform hact, hrun]

theorem works_or_fails (a : Action) (s : Setup) :
    (∃ t, a.Works s t) ∨ ∃ cause t, a.Fails s cause t := by
  cases h : a.perform with
  | none => exact Or.inl ⟨s, .idle h⟩
  | some act =>
      rcases hrun : act (s.reported .trace "executing action") with ⟨cause | ⟨⟩, t⟩
      · exact Or.inr ⟨cause, t, act, h, hrun⟩
      · exact Or.inl ⟨t, .done h hrun⟩

end Action

/-! ## Carrying out actions -/

namespace Setup

/-- Actions are carried out one after another with success: the work of each is done, and then its
descriptions are stored. -/
inductive Carried : Setup → List Action → Setup → Prop where
  | nil (s : Setup) : Carried s [] s
  | cons {a : Action} {as : List Action} {s t u : Setup} (works : a.Works s t)
      (rest : Carried (t.described a.introspectables a.site) as u) : Carried s (a :: as) u

variable {s t : Setup} {as : List Action}

theorem forM_of_carried (h : Carried s as t) : as.forM Action.execute s = (.ok (), t) := by
  induction h with
  | nil s => rfl
  | @cons a as s t u works rest ih =>
      rw [forM_cons_apply, Action.execute_of_works works]
      exact ih

theorem forM_of_fails {a : Action} {after : List Action} {cause : Error} {u : Setup}
    (h : Carried s as t) (hfails : a.Fails t cause u) :
    (as ++ a :: after).forM Action.execute s =
      (.error (.execution a.site cause), u.reported .warning "configuration action failed") := by
  induction h with
  | nil s =>
      rw [List.nil_append, forM_cons_apply, Action.execute_of_fails hfails]
  | @cons b as s t u works rest ih =>
      rw [List.cons_append, forM_cons_apply, Action.execute_of_works works]
      exact ih hfails

/-- All actions are carried out, or those before one whose work fails. -/
theorem carried_or_fails (s : Setup) (as : List Action) :
    (∃ t, Carried s as t) ∨ ∃ before a after t cause u,
      as = before ++ a :: after ∧ Carried s before t ∧ a.Fails t cause u := by
  induction as generalizing s with
  | nil => exact Or.inl ⟨s, .nil s⟩
  | cons a as ih =>
      rcases a.works_or_fails s with ⟨t, hworks⟩ | ⟨cause, t, hfails⟩
      · rcases ih (t.described a.introspectables a.site) with
          ⟨u, hrest⟩ | ⟨before, b, after, v, cause, w, rfl, hbefore, hfails⟩
        · exact Or.inl ⟨u, .cons hworks hrest⟩
        · exact Or.inr ⟨a :: before, b, after, v, cause, w, rfl, .cons hworks hbefore, hfails⟩
      · exact Or.inr ⟨[], a, as, s, cause, t, rfl, .nil s, hfails⟩

end Setup

/-! ## Commits -/

namespace Configurator

open Ledger (Recorded Resolution Governs PrecedesStrictly)

variable {c c' : Configurator} {order : List Action} {e : Error}

/-- The registry as a commit finds it, with what is reported before anything is carried out. -/
def begun (c : Configurator) : Setup :=
  { c.toSetup with journal := c.journal ++ Ledger.overrideReports c.actions }.reported .debug
    "committing configuration"

theorem setup_forM (f : Action → Effect Setup Unit) (as : List Action) (c : Configurator) :
    (as.forM fun a => setup (f a)) c =
      ((as.forM f c.toSetup).1, { c with toSetup := (as.forM f c.toSetup).2 }) := by
  induction as generalizing c with
  | nil => rfl
  | cons a as ih =>
      rw [forM_cons_apply, forM_cons_apply, setup_apply]
      rcases f a c.toSetup with ⟨e | _, t⟩
      · rfl
      · exact ih { c with toSetup := t }

def resolutionReports (c : Configurator) : Journal :=
  Ledger.overrideReports c.actions ++ match Ledger.resolve c.actions with
    | .ok _ => []
    | .error e => [.diagnostic .warning "cornice::config" e.message]

theorem setup_resolve (c : Configurator) :
    setup (Setup.reporting (Ledger.resolveReporting c.actions)) { c with actions := [] } =
      (Ledger.resolve c.actions,
        { c with actions := [], journal := c.journal ++ c.resolutionReports }) := by
  have hresolve : Ledger.resolveReporting c.actions c.journal =
      (Ledger.resolve c.actions, c.journal ++ c.resolutionReports) := by
    unfold Ledger.resolveReporting resolutionReports
    rw [← List.append_assoc]
    cases Ledger.resolve c.actions with
    | error e => rfl
    | ok order =>
        rw [List.append_nil]
        rfl
  exact within_iff.mpr ⟨_, within_iff.mpr ⟨_, hresolve, rfl⟩, rfl⟩

theorem commit_eq_bind (c : Configurator) :
    commit c = (setup (Setup.reporting (Ledger.resolveReporting c.actions)) >>= fun order => do
      report .debug "committing configuration"
      order.forM fun a => setup a.execute : Configuring Unit) { c with actions := [] } := rfl

theorem commit_of_conflicts (h : Ledger.resolve c.actions = .error e) :
    commit c =
      (.error e, { c with actions := [], journal := c.journal ++ c.resolutionReports }) := by
  rw [commit_eq_bind, bind_apply, setup_resolve, h]

theorem commit_of_resolved (h : Ledger.resolve c.actions = .ok order) :
    commit c = ((order.forM Action.execute c.begun).1,
      { c with actions := [], toSetup := (order.forM Action.execute c.begun).2 }) := by
  rw [commit_eq_bind, bind_apply, setup_resolve, h]
  have hbegun : c.begun = { c.toSetup with journal := c.journal ++ c.resolutionReports }.reported
      .debug "committing configuration" := by
    rw [begun, resolutionReports, h, List.append_nil]
  rw [hbegun]
  exact setup_forM Action.execute order _

/-- A commit comes to an end at an action: the winners before it have been carried out, and its work
fails. -/
structure StoppedAt (c : Configurator) (chosen before : List Recorded) (r : Recorded) (s : Setup)
    (cause : Error) (t : Setup) : Prop where
  resolution : Resolution c.actions chosen
  mem : r ∈ chosen
  /-- What has been carried out are the winners before it, in order. -/
  mem_before_iff : ∀ w, w ∈ before ↔ w ∈ chosen ∧ PrecedesStrictly w r
  ordered : before.Pairwise PrecedesStrictly
  carried : Setup.Carried c.begun (before.map Recorded.action) s
  fails : r.action.Fails s cause t

def Governed (c : Configurator) : Prop :=
  ∀ a ∈ c.actions, ∀ d, a.discriminator = some d → ∃ b, Governs c.actions d b

theorem governed_iff : c.Governed ↔ ∃ order, Ledger.resolve c.actions = .ok order := by
  constructor
  · intro h
    have hs := Ledger.resolution_winners (Ledger.settled_groups_iff.mpr h)
    exact ⟨_, Ledger.resolve_eq_ok_iff_resolution.mpr ⟨_, hs, rfl⟩⟩
  · rintro ⟨order, h⟩ a ha d hd
    obtain ⟨chosen, hchosen, -⟩ := Ledger.resolve_eq_ok_iff_resolution.mp h
    exact hchosen.exists_governs ha hd

/-- A ledger that does not resolve has conflicts. -/
theorem resolved_or_conflict (c : Configurator) :
    (∃ order, Ledger.resolve c.actions = .ok order) ∨
      ∃ sites, Ledger.resolve c.actions = .error (.conflict sites) := by
  unfold Ledger.resolve
  dsimp only
  split
  · exact Or.inl ⟨_, rfl⟩
  · exact Or.inr ⟨_, rfl⟩

theorem stoppedAt_of_split {chosen before after : List Recorded} {r : Recorded} {s t : Setup}
    {cause : Error} (h : Resolution c.actions chosen) (hsplit : chosen = before ++ r :: after)
    (hcarried : Setup.Carried c.begun (before.map Recorded.action) s)
    (hfails : r.action.Fails s cause t) : StoppedAt c chosen before r s cause t where
  resolution := h
  mem := by simp [hsplit]
  mem_before_iff w := hsplit ▸ (hsplit ▸ h).mem_before_iff w
  ordered := (List.pairwise_append.mp (hsplit ▸ h.ordered)).1
  carried := hcarried
  fails := hfails

theorem StoppedAt.commit_eq {chosen before : List Recorded} {r : Recorded} {s t : Setup}
    {cause : Error} (h : StoppedAt c chosen before r s cause t) :
    commit c = (.error (.execution r.action.site cause), { c with
      actions := [], toSetup := t.reported .warning "configuration action failed" }) := by
  obtain ⟨before', after, hsplit⟩ := List.append_of_mem h.mem
  have hresolution := h.resolution
  rw [hsplit] at hresolution
  have hbefore : before = before' := by
    refine Ledger.eq_of_precedesStrictly h.ordered (List.pairwise_append.mp hresolution.ordered).1
      fun w => ?_
    rw [h.mem_before_iff, hsplit, ← hresolution.mem_before_iff]
  have hresolve := Ledger.resolve_eq_ok_iff_resolution.mpr ⟨_, hresolution, rfl⟩
  rw [List.map_append, List.map_cons, ← hbefore] at hresolve
  rw [commit_of_resolved hresolve, Setup.forM_of_fails h.carried h.fails]

/-- A commit fails with a conflict before it carries anything out, or at an action. -/
theorem commit_error_cases (hcommit : commit c = (.error e, c')) :
    (∃ sites, e = .conflict sites) ∧ ¬ c.Governed ∧ c'.registry = c.registry ∨
      ∃ chosen before r s cause t, StoppedAt c chosen before r s cause t ∧
        e = .execution r.action.site cause ∧ c'.registry = t.registry := by
  rcases c.resolved_or_conflict with ⟨order, horder⟩ | ⟨sites, hsites⟩
  · obtain ⟨chosen, hchosen, hout⟩ := Ledger.resolve_eq_ok_iff_resolution.mp horder
    rcases Setup.carried_or_fails c.begun order with
      ⟨t, hall⟩ | ⟨done, a, rest, s, cause, t, hsplit, hdone, ha⟩
    · rw [commit_of_resolved horder, Setup.forM_of_carried hall] at hcommit
      cases hcommit
    · obtain ⟨before, tail, rfl, rfl, htail⟩ := List.map_eq_append_iff.mp (hout ▸ hsplit)
      obtain ⟨r, after, rfl, rfl, -⟩ := List.map_eq_cons_iff.mp htail
      have hstopped := stoppedAt_of_split hchosen rfl hdone ha
      rw [hstopped.commit_eq] at hcommit
      cases hcommit
      exact Or.inr ⟨_, _, r, s, cause, t, hstopped, rfl, rfl⟩
  · rw [commit_of_conflicts hsites] at hcommit
    cases hcommit
    refine Or.inl ⟨⟨sites, rfl⟩, fun hgoverned => ?_, rfl⟩
    obtain ⟨order, horder⟩ := governed_iff.mp hgoverned
    rw [horder] at hsites
    cases hsites

/-- **Where a commit that fails has come to.** It fails with a conflict exactly when some
discriminator of the ledger is not governed, and then the registry is as it was. Otherwise it fails
exactly when the work of a winner fails once the winners before it have been carried out: with the
site of that action and its own error, and the registry as its work has left it. -/
theorem commit_failures (c : Configurator) :
    ((∃ sites c', commit c = (.error (.conflict sites), c')) ↔ ¬ c.Governed) ∧
    (∀ chosen before r s cause t, StoppedAt c chosen before r s cause t →
      ∃ c', commit c = (.error (.execution r.action.site cause), c')) ∧
    ∀ e c', commit c = (.error e, c') →
      (∃ sites, e = .conflict sites) ∧ c'.registry = c.registry ∨
      ∃ chosen before r s cause t, StoppedAt c chosen before r s cause t ∧
        e = .execution r.action.site cause ∧ c'.registry = t.registry := by
  refine ⟨⟨?_, fun h => ?_⟩, fun _ _ _ _ _ _ h => ⟨_, h.commit_eq⟩, fun e c' hcommit => ?_⟩
  · rintro ⟨sites, c', hcommit⟩
    rcases commit_error_cases hcommit with ⟨-, hnot, -⟩ | ⟨_, _, _, _, _, _, -, heq, -⟩
    · exact hnot
    · cases heq
  · rcases c.resolved_or_conflict with horder | ⟨sites, hsites⟩
    · exact absurd (governed_iff.mpr horder) h
    · exact ⟨sites, _, commit_of_conflicts hsites⟩
  · exact (commit_error_cases hcommit).imp_left fun h => ⟨h.1, h.2.2⟩

end Configurator

end WebDispatch
