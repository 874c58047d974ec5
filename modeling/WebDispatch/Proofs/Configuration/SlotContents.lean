import WebDispatch.Proofs.Configuration.ViewSlots
import WebDispatch.Proofs.Ledger.Resolution
import WebDispatch.Proofs.View.Contents

/-!
# Registrations for one slot

Views are registered for a slot over any number of commits, while other things are configured, and
some registrations fail. None that succeeds is lost: in the end the slot holds, for each identity
that was registered for it, the view registered last (`slot_holds_last_of_each`).

* `Registration` — a view that is to be stored, and what storing it does;
* `Run` — how a configuration goes on, with the views that come to a slot meanwhile;
* `Run.execute`, `Run.commit` — actions and commits continue such a run.
-/

namespace WebDispatch

namespace Configurator

open Effect
open MultiView (Addition)

structure Registration where
  kind : ViewKind := .ordinary
  context : Interface := .any
  route : Option String := none
  callable : Callable
  options : ViewOptions

namespace Registration

variable {g : Registration} {s s' : Setup} {v : View}

def run (g : Registration) : Effect Setup Unit :=
  storeView g.kind g.context g.route g.callable g.options

def key (g : Registration) (s : Setup) : Except Error ViewKey :=
  (requestInterface s.registry g.route).map fun request =>
    ⟨g.kind.classifier, request, g.context, g.options.name⟩

def view (g : Registration) (s : Setup) : Except Error View :=
  (DerivedView.derive s.registry.toComponents g.callable g.options s.journal).1.map
    DerivedView.toView

/-- The view with the rank, the identity and the media type that were declared for it. -/
def addition (g : Registration) (v : View) : Addition :=
  ⟨v, g.options.order, g.options.phash, g.options.accept⟩

theorem addView_of_run (h : g.run s = (.ok (), s')) :
    ∃ key v, g.key s = .ok key ∧ g.view s = .ok v ∧ s'.registry = s.registry.addView key v := by
  obtain ⟨request, derived, hrequest, hderived, hregistry⟩ := registry_of_storeView h
  refine ⟨_, derived.toView, ?_, ?_, hregistry⟩
  · rw [key, hrequest]
    rfl
  · rw [view, hderived]
    rfl

/-- A view says of itself what was declared for it. -/
theorem addition_eq (h : g.view s = .ok v) : g.addition v = v.addition := by
  obtain ⟨derived, hderived, rfl⟩ := Result.map_ok h
  have hrun : DerivedView.derive s.registry.toComponents g.callable g.options s.journal =
      (.ok derived, _) := Prod.ext hderived rfl
  obtain ⟨mapped, j, -, hrun⟩ := bind_ok_iff.mp hrun
  obtain ⟨renderer, j, -, hrun⟩ := bind_ok_iff.mp hrun
  obtain ⟨rfl, -⟩ := pure_ok_iff.mp hrun
  rfl

end Registration

/-- How a configuration goes on, with what comes to a slot meanwhile: views are registered for it or
for other slots, registrations fail, and other steps leave the slot as it is. -/
inductive Run (key : ViewKey) (s : Setup) : List Addition → Setup → Prop where
  | start : Run key s [] s
  | here {t t' : Setup} {adds : List Addition} {g : Registration} {v : View}
      (before : Run key s adds t) (run : g.run t = (.ok (), t')) (goes : g.key t = .ok key)
      (made : g.view t = .ok v) : Run key s (adds ++ [g.addition v]) t'
  | elsewhere {t t' : Setup} {adds : List Addition} {g : Registration}
      (before : Run key s adds t) (run : g.run t = (.ok (), t')) (goes : g.key t ≠ .ok key) :
      Run key s adds t'
  | failed {t t' : Setup} {adds : List Addition} {g : Registration} {e : Error}
      (before : Run key s adds t) (run : g.run t = (.error e, t')) : Run key s adds t'
  | apart {t t' : Setup} {adds : List Addition} (before : Run key s adds t)
      (same : t'.registry.views.get? key = t.registry.views.get? key) : Run key s adds t'

namespace Run

variable {key : ViewKey} {s s' : Setup} {adds : List Addition}

theorem own (h : Run key s adds s') : Slot.Own adds := by
  induction h with
  | start => exact fun a ha => absurd ha List.not_mem_nil
  | @here t t' adds g v before run goes made ih =>
      intro a ha
      rcases List.mem_append.mp ha with ha | ha
      · exact ih a ha
      · exact ⟨v, (List.mem_singleton.mp ha).trans (Registration.addition_eq made)⟩
  | elsewhere before run goes ih => exact ih
  | failed before run ih => exact ih
  | apart before same ih => exact ih

/-- The slot changes by what comes to it, and by nothing else. -/
theorem content (h : Run key s adds s') (hempty : s.registry.views.get? key = none) :
    s'.registry.views.get? key = Slot.stored key.name adds := by
  induction h with
  | start => exact hempty
  | @here t t' adds g v before run goes made ih =>
      obtain ⟨key', v', hkey, hview, hregistry⟩ := Registration.addView_of_run run
      obtain rfl := Except.ok.inj (hkey.symm.trans goes)
      obtain rfl := Except.ok.inj (hview.symm.trans made)
      simp [hregistry, ih, Registration.addition]
  | @elsewhere t t' adds g before run goes ih =>
      obtain ⟨key', v', hkey, -, hregistry⟩ := Registration.addView_of_run run
      have hne : key' ≠ key := fun heq => goes (heq ▸ hkey)
      simp [hregistry, hne, ih]
  | failed before run ih => rw [registry_of_storeView_error run, ih]
  | apart before same ih => rw [same, ih]

/-! ### Commits -/

variable {t t' : Setup} {a : Action} {r : Except Error Unit}

/-- Any registration continues a run. -/
theorem register {g : Registration} (h : Run key s adds t) (hrun : g.run t = (r, t')) :
    ∃ more, Run key s (adds ++ more) t' := by
  cases r with
  | error e => exact ⟨[], (List.append_nil adds).symm ▸ h.failed hrun⟩
  | ok u =>
      obtain ⟨key', v, hkey, hview, -⟩ := Registration.addView_of_run hrun
      by_cases heq : key' = key
      · exact ⟨[g.addition v], h.here hrun (heq ▸ hkey) hview⟩
      · refine ⟨[], (List.append_nil adds).symm ▸ h.elsewhere hrun fun hgoes => heq ?_⟩
        exact Except.ok.inj (hkey.symm.trans hgoes)

/-- An action that stores a view, or does something that leaves a slot as it is. -/
def Respects (key : ViewKey) (a : Action) : Prop :=
  (∃ g : Registration, a.perform = some g.run) ∨
    ∀ act, a.perform = some act → ∀ t r t', act t = (r, t') →
      t'.registry.views.get? key = t.registry.views.get? key

/-- What is done around an action leaves the slots as they are. -/
theorem views_of_execute (hexecute : a.execute t = (r, t')) :
    a.perform = none ∧ t'.registry.views = t.registry.views ∨
      ∃ act u q u', a.perform = some act ∧ u.registry = t.registry ∧ act u = (q, u') ∧
        t'.registry.views = u'.registry.views := by
  unfold Action.execute at hexecute
  cases ha : a.perform with
  | none =>
      rw [ha] at hexecute
      refine Or.inl ⟨rfl, ?_⟩
      rw [← show _ = t' from congrArg Prod.snd hexecute]
      rfl
  | some act =>
      rw [ha] at hexecute
      rcases bind_cases hexecute with ⟨e, h, -⟩ | ⟨_, u, hreport, h⟩
      · simp [Setup.report] at h
      rcases bind_cases h with ⟨e, h, -⟩ | ⟨q, u', houtcome, hrest⟩
      · simp at h
      refine Or.inr ⟨act, u, q, u', rfl, registry_of_report hreport,
        outcome_ok_iff.mp houtcome, ?_⟩
      cases q <;> rw [← show _ = t' from congrArg Prod.snd hrest] <;> rfl

theorem execute (h : Run key s adds t) (ha : Respects key a) (hexecute : a.execute t = (r, t')) :
    ∃ more, Run key s (adds ++ more) t' := by
  rcases views_of_execute hexecute with ⟨-, hviews⟩ | ⟨act, u, q, u', hact, hu, hrun, hviews⟩
  · exact ⟨[], (List.append_nil adds).symm ▸ h.apart (by rw [hviews])⟩
  have hstart : Run key s adds u := h.apart (by rw [hu])
  rcases ha with ⟨g, hg⟩ | hkeeps
  · cases hact.symm.trans hg
    obtain ⟨more, hmore⟩ := hstart.register hrun
    exact ⟨more, hmore.apart (by rw [hviews])⟩
  · refine ⟨[], (List.append_nil adds).symm ▸ hstart.apart ?_⟩
    rw [hviews, hkeeps act hact u q u' hrun]

variable {c c' : Configurator}

theorem executeAll {order : List Action} (h : Run key s adds c.toSetup)
    (ha : ∀ a ∈ order, Respects key a)
    (hrun : (order.forM fun a => setup a.execute) c = (r, c')) :
    ∃ more, Run key s (adds ++ more) c'.toSetup := by
  induction order generalizing adds c with
  | nil =>
      obtain rfl : c = c' := congrArg Prod.snd hrun
      exact ⟨[], (List.append_nil adds).symm ▸ h⟩
  | cons a order ih =>
      change (setup a.execute >>= fun _ => order.forM fun a => setup a.execute) c = _ at hrun
      rcases bind_cases hrun with ⟨e, hlast, -⟩ | ⟨_, d, hfirst, hrest⟩
      · obtain ⟨t, hexecute, rfl⟩ := within_iff.mp hlast
        exact h.execute (ha a List.mem_cons_self) hexecute
      · obtain ⟨t, hexecute, rfl⟩ := within_iff.mp hfirst
        obtain ⟨more, hmore⟩ := h.execute (ha a List.mem_cons_self) hexecute
        obtain ⟨rest, hends⟩ := ih hmore (fun b hb => ha b (List.mem_cons_of_mem a hb)) hrest
        exact ⟨more ++ rest, List.append_assoc adds more rest ▸ hends⟩

theorem registry_of_diagnostic {level : Level} {message : String}
    (h : report level message c = (r, c')) : c'.registry = c.registry := by
  rw [← show _ = c' from congrArg Prod.snd h]
  rfl

/-- A commit carries out actions of the ledger, and no others. -/
theorem mem_of_resolved {actions order : List Action} {j j' : Journal}
    (h : Ledger.resolveReporting actions j = (.ok order, j')) (ha : a ∈ order) : a ∈ actions := by
  obtain ⟨u, j₁, -, h⟩ := bind_ok_iff.mp h
  cases hresolve : Ledger.resolve actions with
  | error e =>
      rw [hresolve] at h
      obtain ⟨u, j₂, -, hthrow⟩ := bind_ok_iff.mp h
      simp at hthrow
  | ok found =>
      rw [hresolve] at h
      obtain ⟨rfl, -⟩ := pure_ok_iff.mp h
      obtain ⟨-, rfl⟩ := Ledger.resolve_eq_ok_iff.mp hresolve
      obtain ⟨w, hw, rfl⟩ := List.mem_map.mp ha
      exact Ledger.mem_of_mem_record
        (Ledger.mem_record_of_mem_winners (List.mem_mergeSort.mp hw))

/-- A commit continues a run, also one that fails. -/
theorem commit (h : Run key s adds c.toSetup) (ha : ∀ a ∈ c.actions, Respects key a)
    (hcommit : Configurator.commit c = (r, c')) : ∃ more, Run key s (adds ++ more) c'.toSetup := by
  have hstays : ∀ {t}, t.registry = c.registry → ∃ more, Run key s (adds ++ more) t := fun ht =>
    ⟨[], (List.append_nil adds).symm ▸ h.apart (by rw [ht])⟩
  rcases bind_cases hcommit with ⟨e, hget, -⟩ | ⟨_, _, hget, hrest⟩
  · simp at hget
  obtain ⟨rfl, rfl⟩ := get_ok_iff.mp hget
  rcases bind_cases hrest with ⟨e, hempty, -⟩ | ⟨_, d, hempty, hrest⟩
  · simp at hempty
  obtain rfl := modify_ok_iff.mp hempty
  -- conflicts end a commit before anything is carried out
  rcases bind_cases hrest with ⟨e, hresolve, -⟩ | ⟨order, d, hresolve, hrest⟩
  · obtain ⟨t, hreporting, rfl⟩ := within_iff.mp hresolve
    obtain ⟨j, -, rfl⟩ := within_iff.mp hreporting
    exact hstays rfl
  obtain ⟨t, hreporting, rfl⟩ := within_iff.mp hresolve
  obtain ⟨j, hjournal, rfl⟩ := within_iff.mp hreporting
  rcases bind_cases hrest with ⟨e, hreport, -⟩ | ⟨_, d, hreport, hrest⟩
  · have hsame := registry_of_diagnostic hreport
    exact hstays hsame
  have hsame := registry_of_diagnostic hreport
  have hstart : Run key s adds d.toSetup := h.apart (by rw [hsame])
  exact hstart.executeAll (fun a hmem => ha a (mem_of_resolved hjournal hmem)) hrest

end Run

/-- **No registration is lost.** A slot that was empty holds, after any run, the view registered
last for each identity, each once: a single view where there was one identity, several otherwise. -/
theorem slot_holds_last_of_each {key : ViewKey} {s s' : Setup} {adds : List Addition}
    (h : Run key s adds s') (hempty : s.registry.views.get? key = none)
    (htypes : Slot.SameTypes adds) :
    (adds = [] → s'.registry.views.get? key = none) ∧
      (adds ≠ [] → ∃ slot, s'.registry.views.get? key = some slot ∧ Slot.HoldsLast adds slot) := by
  rw [h.content hempty]
  refine ⟨?_, Slot.holdsLast_stored key.name h.own htypes⟩
  rintro rfl
  rfl

def plainRegistration (phash : String) (order : Nat) : Registration :=
  { callable := emptyView, options := { phash := phash, order := order } }

/-- An identity comes again after another one. -/
theorem slot_holds_last_of_two :
    ∃ s' adds,
      Run ⟨.viewClassifier, .request, .any, ""⟩ { registry := Registry.empty "app" } adds s' ∧
      adds.map Addition.phash = ["a", "b", "a"] ∧ adds.map Addition.order = [1, 2, 3] ∧
      ∃ slot, s'.registry.views.get? ⟨.viewClassifier, .request, .any, ""⟩ = some slot ∧
        Slot.HoldsLast adds slot := by
  have hone := Run.start.here (s := { registry := Registry.empty "app" })
    (g := plainRegistration "a" 1) rfl rfl rfl
  have htwo := hone.here (g := plainRegistration "b" 2) rfl rfl rfl
  have hthree := htwo.here (g := plainRegistration "a" 3) rfl rfl rfl
  have htypes : ∀ {adds : List Addition}, (∀ a ∈ adds, a.accept = none) → Slot.SameTypes adds :=
    fun hnone a ha b hb _ => (hnone a ha).trans (hnone b hb).symm
  exact ⟨_, _, hthree, rfl, rfl,
    (slot_holds_last_of_each hthree rfl (htypes (by decide))).2 (by simp)⟩

end Configurator

end WebDispatch
