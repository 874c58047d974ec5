import WebDispatch.Proofs.View.Declining

/-!
# Views that are called by name

A view may be called by its name from within another one. Then the view of the first occupied slot
is called and no other, where the dispatch of a request goes on to the next slots when a view
declines. So both come to the same response unless the first view declines and a later one answers.

* `Registry.renderNamed_of_first` — the view of the first occupied slot is called;
* `Registry.callView_of_first` — it answers a request, too, unless it declines;
* `Registry.callView_addView_of_refuses` — a further view that refuses is passed over by dispatch;
* `Registry.RendersAsDispatched`, `renders_as_dispatched_iff` — when both come to the same response.
-/

namespace WebDispatch

open WebDispatch.Http (Response)

namespace Registry

variable {c : Registry} {context : Resource} {env : Environment} {x : Exchange} {s : Slot}
  {v w : View}

/-! ## The first occupied slot -/

theorem vacant_iff_firstSlot? {r : Request} :
    c.Vacant context r ↔ c.firstSlot? (slotKeys context r) = none :=
  List.findSome?_eq_none_iff.symm

/-- The view of the first occupied slot is the first that accepts, unless it refuses. -/
theorem firstAccepting_of_firstSlot? {r : Request}
    (h : c.firstSlot? (slotKeys context r) = some s) (hs : ¬ s.toView.refuses context r) :
    c.FirstAccepting context r s.toView := by
  obtain ⟨before, key, after, hkeys, hget, hbefore⟩ := List.findSome?_eq_some_iff.mp h
  refine ⟨before, key, after, s, hkeys, hget, rfl, by simpa [View.refuses] using hs, ?_⟩
  intro k hk t hgett
  rw [hbefore k hk] at hgett
  cases hgett

theorem firstAccepting_unique {r : Request} (hv : c.FirstAccepting context r v)
    (hw : c.FirstAccepting context r w) : v = w := by
  have hfind {u : View} (hu : c.FirstAccepting context r u) :
      (c.viewsFor context r).find? (fun u => !u.refuses context r) = some u := by
    obtain ⟨before, rest, hviews, hbefore, haccepts⟩ := viewsFor_of_firstAccepting hu
    have hnone : before.find? (fun u => !u.refuses context r) = none := by
      simpa using hbefore
    rw [hviews, List.find?_append, hnone, Option.none_or]
    exact List.find?_cons_of_pos (by simpa using haccepts)
  exact Option.some.inj ((hfind hv).symm.trans (hfind hw))

/-! ## The two ways to a view -/

/-- The view of a name, if there is one, is called in the one way or in the other. -/
theorem renderNamed_apply (c : Registry) (context : Resource) (name : String) (secure : Bool)
    (env : Environment) (x : Exchange) :
    c.renderNamed context name secure env x =
      match c.lookupView? .viewClassifier x.type.order context.provided name with
      | none => (.ok none, x)
      | some v =>
        let run := (if secure then v.call context else v.callPermissive context) env x
        (run.1.map some, run.2) := by
  simp only [renderNamed, Handling.bind_apply, Handling.request_apply]
  cases c.lookupView? .viewClassifier x.type.order context.provided name with
  | none => rfl
  | some v =>
      cases secure with
      | true => exact Handling.bind_pure_apply (v.call context) some env x
      | false => exact Handling.bind_pure_apply (v.callPermissive context) some env x

theorem renderNamed_of_vacant (h : c.Vacant context x.toRequest) :
    c.renderNamed context x.viewName true env x = (.ok none, x) := by
  have hnone : c.lookupView? .viewClassifier x.type.order context.provided x.viewName = none := by
    rw [lookupView?_eq]
    exact congrArg (Option.map Slot.toView) (vacant_iff_firstSlot?.mp h)
  rw [renderNamed_apply, hnone]

theorem renderNamed_of_first (h : c.firstSlot? (slotKeys context x.toRequest) = some s) :
    c.renderNamed context x.viewName true env x =
      ((s.toView.call context env x).1.map some, (s.toView.call context env x).2) := by
  have hsome : c.lookupView? .viewClassifier x.type.order context.provided x.viewName =
      some s.toView := by
    rw [lookupView?_eq]
    exact congrArg (Option.map Slot.toView) h
  rw [renderNamed_apply, hsome]
  rfl

/-- The first view that accepts a request answers it, unless it declines. -/
theorem callView_of_not_declines (hv : c.FirstAccepting context x.toRequest v)
    (h : ¬ v.Declines context env x) : c.callView context env x = v.call context env x := by
  obtain ⟨before, rest, hviews, hbefore, haccepts⟩ := viewsFor_of_firstAccepting hv
  have htruth : v.Truthful context env x := fun e he hmismatch => absurd ⟨e, he, hmismatch⟩ h
  rw [callView_eq, hviews, View.callFirst_of_accepted hbefore haccepts htruth]
  rcases v.call context env x with ⟨e | response, y⟩ <;> rfl

theorem callView_of_first (h : c.firstSlot? (slotKeys context x.toRequest) = some s)
    (hs : ¬ s.toView.refuses context x.toRequest) (hcall : ¬ s.toView.Declines context env x) :
    c.callView context env x = s.toView.call context env x :=
  callView_of_not_declines (firstAccepting_of_firstSlot? h hs) hcall

theorem firstAccepting_addView {r : Request} {key : ViewKey} (hvacant : c.views.get? key = none)
    (hv : v.refuses context r) (hw : c.FirstAccepting context r w) :
    (c.addView key v).FirstAccepting context r w := by
  obtain ⟨before, k, after, s, hkeys, hget, rfl, haccepts, hbefore⟩ := hw
  -- the new view may come to stand among those that are passed over, and nowhere else
  have hne : key ≠ k := by
    rintro rfl
    rw [hvacant] at hget
    cases hget
  refine ⟨before, k, after, s, hkeys, ?_, rfl, haccepts, ?_⟩
  · rw [get?_addView_of_vacant hvacant, if_neg hne, hget]
  · intro k' hk' t hgett
    rw [get?_addView_of_vacant hvacant] at hgett
    split at hgett
    · cases hgett
      exact of_decide_eq_true hv
    · exact hbefore k' hk' t hgett

/-- A further view that refuses the request does not keep another one from answering it. -/
theorem callView_addView_of_refuses {key : ViewKey} (hvacant : c.views.get? key = none)
    (hv : v.refuses context x.toRequest) (hw : c.FirstAccepting context x.toRequest w)
    (h : ¬ w.Declines context env x) :
    (c.addView key v).callView context env x = c.callView context env x := by
  have hw' := firstAccepting_addView hvacant hv hw
  rw [callView_of_not_declines hw h, callView_of_not_declines hw' h]

theorem callView_ne_ok_of_vacant (h : c.Vacant context x.toRequest) (response : Response) :
    (c.callView context env x).1 ≠ .ok response := by
  rw [callView_of_vacant h]
  split
  · exact nofun
  · exact nofun

/-! ## Where they come to the same -/

/-- Where the dispatch of a request comes to a response, so does a call of the view by name. -/
def RendersAsDispatched (c : Registry) (context : Resource) (env : Environment) (x : Exchange) :
    Prop :=
  ∀ response, (c.callView context env x).1 = .ok response →
    (c.renderNamed context x.viewName true env x).1 = .ok (some response)

theorem rendersAsDispatched_of_not_declines
    (h : c.firstSlot? (slotKeys context x.toRequest) = some s) (hgated : s.toView.Gated)
    (hcall : ¬ s.toView.Declines context env x) : c.RendersAsDispatched context env x := by
  intro response hresponse
  have hs : ¬ s.toView.refuses context x.toRequest :=
    fun hrefuses => hcall (hgated context env x hrefuses)
  rw [callView_of_first h hs hcall] at hresponse
  rw [renderNamed_of_first h, hresponse]
  rfl

theorem not_renders_of_declines (h : c.firstSlot? (slotKeys context x.toRequest) = some s)
    (hcall : s.toView.Declines context env x) (response : Response) :
    (c.renderNamed context x.viewName true env x).1 ≠ .ok (some response) := by
  obtain ⟨e, he, -⟩ := hcall
  rw [renderNamed_of_first h, he]
  exact nofun

theorem rendersAsDispatched_iff_of_first
    (h : c.firstSlot? (slotKeys context x.toRequest) = some s) (hgated : s.toView.Gated) :
    c.RendersAsDispatched context env x ↔
      (s.toView.Declines context env x → ∀ response, (c.callView context env x).1 ≠ .ok response) := by
  constructor
  · intro hrenders hcall response hresponse
    exact not_renders_of_declines h hcall response (hrenders response hresponse)
  · intro hnone
    by_cases hcall : s.toView.Declines context env x
    · exact fun response hresponse => absurd hresponse (hnone hcall response)
    · exact rendersAsDispatched_of_not_declines h hgated hcall

/-- Where a view answers a request, it does so by name exactly if no view stands before it. -/
theorem rendersAsDispatched_iff_of_answered
    (h : c.firstSlot? (slotKeys context x.toRequest) = some s) (hgated : s.toView.Gated)
    {response : Response} {y : Exchange} (hw : c.FirstAccepting context x.toRequest w)
    (hanswer : w.call context env x = (.ok response, y)) :
    c.RendersAsDispatched context env x ↔ ¬ s.toView.refuses context x.toRequest := by
  have hcall : ¬ w.Declines context env x :=
    View.not_declines_of_ok (congrArg Prod.fst hanswer)
  constructor
  · intro hrenders hrefuses
    have hresponse : (c.callView context env x).1 = .ok response := by
      rw [callView_of_not_declines hw hcall, hanswer]
    exact not_renders_of_declines h (hgated context env x hrefuses) response
      (hrenders response hresponse)
  · intro hs
    -- nothing stands before the first occupied slot, so that its view is the one that accepts
    obtain rfl : s.toView = w := firstAccepting_unique (firstAccepting_of_firstSlot? h hs) hw
    exact rendersAsDispatched_of_not_declines h hgated hcall

/-- **A view that is called by name has no second.** Where no slot is occupied, there is neither a
view by name nor a response. Otherwise the call by name is that of the view of the first occupied
slot, with all its effects, and so is the answer to the request if that view does not decline. If
the view is gated, then both come to the same response exactly if it does not decline, or else the
request has no response. So the response of the first view that accepts the request is that of the
call by name exactly if the view of the first occupied slot does not refuse the request. -/
theorem renders_as_dispatched_iff (c : Registry) (context : Resource) (env : Environment)
    (x : Exchange) :
    (c.Vacant context x.toRequest →
      c.renderNamed context x.viewName true env x = (.ok none, x) ∧
        ∀ response, (c.callView context env x).1 ≠ .ok response) ∧
    ∀ s, c.firstSlot? (slotKeys context x.toRequest) = some s →
      c.renderNamed context x.viewName true env x =
        ((s.toView.call context env x).1.map some, (s.toView.call context env x).2) ∧
      (¬ s.toView.refuses context x.toRequest → ¬ s.toView.Declines context env x →
        c.callView context env x = s.toView.call context env x) ∧
      (s.toView.Gated →
        (c.RendersAsDispatched context env x ↔
          (s.toView.Declines context env x →
            ∀ response, (c.callView context env x).1 ≠ .ok response)) ∧
        ∀ w response y, c.FirstAccepting context x.toRequest w →
          w.call context env x = (.ok response, y) →
          c.callView context env x = (.ok response, y) ∧
            (c.RendersAsDispatched context env x ↔ ¬ s.toView.refuses context x.toRequest)) := by
  refine ⟨fun h => ⟨renderNamed_of_vacant h, callView_ne_ok_of_vacant h⟩, fun s h => ?_⟩
  refine ⟨renderNamed_of_first h, callView_of_first h, fun hgated => ⟨?_, ?_⟩⟩
  · exact rendersAsDispatched_iff_of_first h hgated
  · intro w response y hw hanswer
    have hcall : ¬ w.Declines context env x :=
      View.not_declines_of_ok (congrArg Prod.fst hanswer)
    refine ⟨?_, rendersAsDispatched_iff_of_answered h hgated hw hanswer⟩
    rw [callView_of_not_declines hw hcall, hanswer]

def hesitant : Registry where
  name := "hesitant"
  views := ⟨[
    (⟨.viewClassifier, .request, .defaultRoot, ""⟩, .single refusing),
    (⟨.viewClassifier, .request, .any, ""⟩, .single
      { description := "general", call := fun _ => pure {} })]⟩

theorem not_rendered_behind_refusing :
    ¬ ∀ (c : Registry) context env x, c.RendersAsDispatched context env x := by
  intro hall
  have hdispatched : (hesitant.callView (.defaultRoot none) {} {}).1 = .ok {} := rfl
  have hrendered : (hesitant.renderNamed (.defaultRoot none) "" true {} {}).1 =
      .error (.predicateMismatch "refusing") := rfl
  have hsame := hall hesitant (.defaultRoot none) {} {} {} hdispatched
  rw [show ({} : Exchange).viewName = "" from rfl, hrendered] at hsame
  cases hsame

end Registry

end WebDispatch
