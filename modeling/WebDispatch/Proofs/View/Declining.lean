import WebDispatch.Proofs.View.Gating
import WebDispatch.Proofs.View.Recovery

/-!
# Views that decline

A view declines a request when its call fails because of predicates. Derived views and slots of
several views do so wherever their predicates refuse the request, and a registry to which only such
views are added has no others.

For an error the view of the first occupied slot alone is called. If it declines, the error is
unanswered, whatever the other slots hold: a view that is registered in a slot ahead of the
occupied ones, and refuses the request, takes the answer away.

* `View.Declines`, `View.Gated` — a call that fails because of predicates; the views that have one
  wherever these refuse the request;
* `Registry.firstSlot?`, `firstSlot?_addView` — the first occupied slot, and what another view
  makes of it;
* `gated_addView`, `gated_additions` — a registry stays gated as gated views are added to it;
* `unanswered_iff_declined` — when an error is unanswered.
-/

namespace WebDispatch

open WebDispatch.Http (Response)

namespace View

variable {v : View} {context : Resource} {env : Environment} {x : Exchange}

def Declines (v : View) (context : Resource) (env : Environment) (x : Exchange) : Prop :=
  ∃ e, (v.call context env x).1 = .error e ∧ e.isMismatch = true

/-- A view declines wherever its predicates refuse the request. -/
def Gated (v : View) : Prop :=
  ∀ context env x, v.refuses context x.toRequest → v.Declines context env x

theorem declines_of_call_eq {e : Error} {y : Exchange} (h : v.call context env x = (.error e, y))
    (he : e.isMismatch = true) : v.Declines context env x :=
  ⟨e, congrArg Prod.fst h, he⟩

theorem not_declines_of_ok {response : Response} (h : (v.call context env x).1 = .ok response) :
    ¬ v.Declines context env x := by
  rintro ⟨e, he, -⟩
  rw [h] at he
  cases he

end View

/-! ## The views that are declared -/

namespace DerivedView

variable {c : Components} {o : ViewOptions} {callable : Callable} {j j' : Journal}
  {d : DerivedView}

theorem refuses_iff (h : derive c callable o j = (.ok d, j')) {context : Resource} {r : Request} :
    d.toView.refuses context r ↔ Refused o context r := by
  have hpredicates : d.predicates = o.predicates := predicates_of_derive h
  rw [View.refuses, decide_eq_true_eq]
  simp only [toView, hpredicates, Refused]
  split
  · next hnone => simp [List.isEmpty_iff.mp hnone]
  · simp

theorem gated_of_derive (h : derive c callable o j = (.ok d, j')) : d.toView.Gated := by
  intro context env x hrefuses
  have hrefused : Refused o context x.toRequest := (refuses_iff h).mp hrefuses
  have hcall : ∃ text, d.call context env x = (.error (.predicateMismatch text), x) :=
    (call_of_refused h hrefused).elim fun p hp => ⟨_, hp.2.2⟩
  obtain ⟨text, hcall⟩ := hcall
  exact View.declines_of_call_eq hcall rfl

end DerivedView

namespace MultiView

variable {m : MultiView} {context : Resource} {env : Environment} {x : Exchange}

theorem call_of_refused (h : ∀ v ∈ m.views x.toRequest, v.refuses context x.toRequest) :
    m.call context env x = (.error m.mismatch, x) := by
  simp [call, View.callFirst_of_refused h, mismatch]

theorem gated_toView (m : MultiView) : m.toView.Gated := by
  intro context env x hrefuses
  have hverdict : some (m.match? context x.toRequest).isSome = some false :=
    of_decide_eq_true hrefuses
  have hnone : m.match? context x.toRequest = none := by simpa using hverdict
  have hall : ∀ v ∈ m.views x.toRequest, v.refuses context x.toRequest := by
    simpa [match?] using hnone
  exact View.declines_of_call_eq (v := m.toView) (call_of_refused hall) rfl

end MultiView

namespace Registry

variable {c : Registry} {key : ViewKey} {v : View}

def Gated (c : Registry) : Prop := ∀ key s, c.views.get? key = some s → s.toView.Gated

theorem gated_merged (old : Option Slot) (name : String) (h : v.Gated) :
    (merged old name v).toView.Gated := by
  cases old with
  | none => exact h
  | some s =>
    cases s with
    | multi m => exact MultiView.gated_toView _
    | single u =>
      rw [merged]
      split
      · exact h
      · exact MultiView.gated_toView _

/-- A registry stays gated when a gated view is added to it. -/
theorem gated_addView (h : c.Gated) (hv : v.Gated) (key : ViewKey) : (c.addView key v).Gated := by
  intro k s hget
  rw [get?_addView] at hget
  split at hget
  · cases hget
    exact gated_merged _ _ hv
  · exact h k s hget

theorem gated_empty (name : String) : (empty name).Gated := by
  intro key s hget
  cases hget

theorem gated_additions (h : c.Gated) {adds : List (ViewKey × View)}
    (hadds : ∀ a ∈ adds, a.2.Gated) : (adds.foldl (fun c a => c.addView a.1 a.2) c).Gated := by
  induction adds generalizing c with
  | nil => exact h
  | cons a adds ih =>
    have ha : (c.addView a.1 a.2).Gated := gated_addView h (hadds a List.mem_cons_self) a.1
    exact ih ha fun b hb => hadds b (List.mem_cons_of_mem a hb)

/-! ## The first occupied slot -/

def firstSlot? (c : Registry) (grid : List ViewKey) : Option Slot := grid.findSome? c.views.get?

def vacantAhead (c : Registry) (grid : List ViewKey) : List ViewKey :=
  grid.takeWhile fun k => (c.views.get? k).isNone

theorem lookupView?_eq (c : Registry) (classifier : Interface) (requests contexts : List Interface)
    (name : String) :
    c.lookupView? classifier requests contexts name =
      (c.firstSlot? (grid classifier requests contexts name)).map Slot.toView := by
  rw [lookupView?, findViews, keys_eq_grid, List.head?_map, List.head?_filterMap]
  rfl

theorem get?_addView_of_vacant (hvacant : c.views.get? key = none) (v : View) (k : ViewKey) :
    (c.addView key v).views.get? k = if key = k then some (.single v) else c.views.get? k := by
  simp [hvacant, merged]

/-- A view that is added to a vacant slot stands first if its key is looked at before an occupied
slot is found, and otherwise makes no difference. -/
theorem firstSlot?_addView (hvacant : c.views.get? key = none) (v : View) (grid : List ViewKey) :
    (c.addView key v).firstSlot? grid =
      if key ∈ c.vacantAhead grid then some (.single v) else c.firstSlot? grid := by
  have hget := get?_addView_of_vacant hvacant v
  induction grid with
  | nil => rfl
  | cons k grid ih =>
    by_cases hk : key = k
    · subst hk
      have hahead : key ∈ c.vacantAhead (key :: grid) := by
        simp [vacantAhead, hvacant]
      rw [if_pos hahead, firstSlot?, List.findSome?_cons, hget, if_pos rfl]
    · -- another slot is what it was: it ends the search, or leaves it to the rest of the grid
      have hsame : (c.addView key v).views.get? k = c.views.get? k := by
        rw [hget, if_neg hk]
      cases hold : c.views.get? k with
      | none =>
        have hahead : key ∈ c.vacantAhead (k :: grid) ↔ key ∈ c.vacantAhead grid := by
          simp [vacantAhead, hold, hk]
        simp only [hahead]
        simp only [firstSlot?, List.findSome?_cons, hsame, hold] at ih ⊢
        exact ih
      | some s =>
        have hahead : key ∉ c.vacantAhead (k :: grid) := by
          simp [vacantAhead, hold]
        rw [if_neg hahead]
        simp only [firstSlot?, List.findSome?_cons, hsame, hold]

/-! ## Errors without an answer -/

section Errors

variable {e : Error} {r : Request} {env : Environment} {x : Exchange}

theorem unanswerable_iff : c.Unanswerable e r ↔ c.firstSlot? (exceptionKeys e r) = none :=
  List.findSome?_eq_none_iff.symm

theorem isExceptionView_iff :
    c.IsExceptionView e r v ↔ ∃ s, c.firstSlot? (exceptionKeys e r) = some s ∧ s.toView = v := by
  simp only [firstSlot?, List.findSome?_eq_some_iff]
  constructor
  · rintro ⟨before, key, after, s, hkeys, hget, hv, hbefore⟩
    exact ⟨s, ⟨before, key, after, hkeys, hget, hbefore⟩, hv⟩
  · rintro ⟨s, ⟨before, key, after, hkeys, hget, hbefore⟩, hv⟩
    exact ⟨before, key, after, s, hkeys, hget, hv, hbefore⟩

/-- The exchange as an exception view finds it. -/
def announced (x : Exchange) : Exchange :=
  x.report .debug "cornice::router" "calling exception view"

theorem handleException_of_declines (hv : c.IsExceptionView e x.toRequest v)
    (h : v.Declines (.failure e) env (announced x)) :
    (c.handleException e env x).1 = .ok none := by
  obtain ⟨f, hf, hmismatch⟩ := h
  rw [handleException_of_isExceptionView hv, ← announced]
  rcases hcall : v.call (.failure e) env (announced x) with ⟨g | response, y⟩
  · rw [hcall] at hf
    cases hf
    simp only [if_pos hmismatch]
  · rw [hcall] at hf
    cases hf

theorem handleException_of_not_declines (hv : c.IsExceptionView e x.toRequest v)
    (h : ¬ v.Declines (.failure e) env (announced x)) :
    c.handleException e env x =
      ((v.call (.failure e) env (announced x)).1.map some,
        (v.call (.failure e) env (announced x)).2) := by
  rw [handleException_of_isExceptionView hv, ← announced]
  rcases hcall : v.call (.failure e) env (announced x) with ⟨g | response, y⟩
  · have hg : ¬ g.isMismatch = true :=
      fun hmismatch => h (View.declines_of_call_eq hcall hmismatch)
    simp only [if_neg hg]
    rfl
  · rfl

theorem handleException_eq_none_iff :
    (c.handleException e env x).1 = .ok none ↔
      c.Unanswerable e x.toRequest ∨
        ∃ v, c.IsExceptionView e x.toRequest v ∧ v.Declines (.failure e) env (announced x) := by
  constructor
  · intro hnone
    rcases c.unanswerable_or_exists e x.toRequest with hvacant | ⟨v, hv⟩
    · exact Or.inl hvacant
    · refine Or.inr ⟨v, hv, ?_⟩
      by_contra hanswers
      rw [handleException_of_not_declines hv hanswers] at hnone
      dsimp only at hnone
      cases hcall : (v.call (.failure e) env (announced x)).1 with
      | error f =>
        rw [hcall] at hnone
        cases hnone
      | ok response =>
        rw [hcall] at hnone
        cases hnone
  · rintro (hvacant | ⟨v, hv, hdeclines⟩)
    · rw [handleException_of_unanswerable hvacant]
    · exact handleException_of_declines hv hdeclines

theorem handleException_addView_of_notMem (hvacant : c.views.get? key = none) (v : View)
    (hbehind : key ∉ c.vacantAhead (exceptionKeys e x.toRequest)) :
    (c.addView key v).handleException e env x = c.handleException e env x := by
  have hfirst := firstSlot?_addView hvacant v (exceptionKeys e x.toRequest)
  rw [if_neg hbehind] at hfirst
  rcases c.unanswerable_or_exists e x.toRequest with hnone | ⟨u, hu⟩
  · have hnone' : (c.addView key v).Unanswerable e x.toRequest := by
      rw [unanswerable_iff] at hnone ⊢
      rw [hfirst, hnone]
    rw [handleException_of_unanswerable hnone, handleException_of_unanswerable hnone']
  · have hu' : (c.addView key v).IsExceptionView e x.toRequest u := by
      rw [isExceptionView_iff] at hu ⊢
      rw [hfirst]
      exact hu
    rw [handleException_of_isExceptionView hu, handleException_of_isExceptionView hu']

theorem isExceptionView_addView (hvacant : c.views.get? key = none) (v : View)
    (hahead : key ∈ c.vacantAhead (exceptionKeys e r)) :
    (c.addView key v).IsExceptionView e r v := by
  rw [isExceptionView_iff, firstSlot?_addView hvacant, if_pos hahead]
  exact ⟨_, rfl, rfl⟩

theorem unanswered_of_refused (hv : c.IsExceptionView e x.toRequest v) (hgated : v.Gated)
    (hrefuses : v.refuses (.failure e) (announced x).toRequest) :
    (c.handleException e env x).1 = .ok none :=
  handleException_of_declines hv (hgated _ env _ hrefuses)

/-- **An exception view that declines leaves the error unanswered.** An error has no answer exactly
if no slot for it is occupied, or the view of the first occupied one declines; so where some view
would accept the request, it has none exactly if the first one declines. A gated view does that
wherever its predicates refuse the request. A view that is added to a vacant slot makes no
difference unless its key is looked at before an occupied slot is found; but then, if it is gated
and refuses the request, the error is unanswered, whatever the answer was. -/
theorem unanswered_iff_declined (c : Registry) (e : Error) (env : Environment) (x : Exchange) :
    ((c.handleException e env x).1 = .ok none ↔
      c.Unanswerable e x.toRequest ∨
        ∃ v, c.IsExceptionView e x.toRequest v ∧ v.Declines (.failure e) env (announced x)) ∧
    ((∃ key ∈ exceptionKeys e x.toRequest, ∃ s, c.views.get? key = some s ∧
        ¬ s.toView.refuses (.failure e) (announced x).toRequest) →
      ((c.handleException e env x).1 ≠ .ok none ↔
        ∀ v, c.IsExceptionView e x.toRequest v → ¬ v.Declines (.failure e) env (announced x))) ∧
    (∀ v, c.IsExceptionView e x.toRequest v → v.Gated →
      v.refuses (.failure e) (announced x).toRequest → (c.handleException e env x).1 = .ok none) ∧
    ∀ key v, c.views.get? key = none →
      (key ∉ c.vacantAhead (exceptionKeys e x.toRequest) →
        (c.addView key v).handleException e env x = c.handleException e env x) ∧
      (key ∈ c.vacantAhead (exceptionKeys e x.toRequest) → v.Gated →
        v.refuses (.failure e) (announced x).toRequest →
        ((c.addView key v).handleException e env x).1 = .ok none) := by
  refine ⟨handleException_eq_none_iff, ?accepted, ?refused, ?added⟩
  case accepted =>
    rintro ⟨key, hkey, s, hget, -⟩
    have hoccupied : ¬ c.Unanswerable e x.toRequest := by
      intro hvacant
      rw [hvacant key hkey] at hget
      cases hget
    rw [Ne, handleException_eq_none_iff]
    constructor
    · exact fun h v hv hdeclines => h (Or.inr ⟨v, hv, hdeclines⟩)
    · rintro h (hvacant | ⟨v, hv, hdeclines⟩)
      · exact hoccupied hvacant
      · exact h v hv hdeclines
  case refused => exact fun v hv hgated hrefuses => unanswered_of_refused hv hgated hrefuses
  case added =>
    intro key v hvacant
    refine ⟨handleException_addView_of_notMem hvacant v, fun hahead hgated hrefuses => ?_⟩
    exact unanswered_of_refused (isExceptionView_addView hvacant v hahead) hgated hrefuses

/-- A view for one kind of error that refuses every request, and one for all errors. -/
def reluctant : Registry where
  name := "reluctant"
  views := ⟨[
    (⟨.exceptionViewClassifier, .request, .notFound, ""⟩, .single refusing),
    (⟨.exceptionViewClassifier, .request, .httpException, ""⟩, .single
      { description := "plain", call := fun _ => pure {} })]⟩

theorem unanswered_behind_refusing :
    ¬ ∀ (c : Registry) e env x,
      (∃ key ∈ exceptionKeys e x.toRequest, ∃ s, c.views.get? key = some s ∧
        ¬ s.toView.refuses (.failure e) (announced x).toRequest) →
      (c.handleException e env x).1 ≠ .ok none := by
  intro hall
  have hplain : ∃ key ∈ exceptionKeys (.notFound "/missing") ({} : Exchange).toRequest,
      ∃ s, reluctant.views.get? key = some s ∧
        ¬ s.toView.refuses (.failure (.notFound "/missing")) (announced {}).toRequest :=
    ⟨⟨.exceptionViewClassifier, .request, .httpException, ""⟩, by decide, _, rfl, by decide⟩
  exact hall reluctant (.notFound "/missing") {} {} hplain rfl

end Errors

end Registry

end WebDispatch
