import WebDispatch.Proofs.View.Blindness
import WebDispatch.Proofs.View.Declining
import WebDispatch.Proofs.View.Twins

/-!
# Explaining decisions changes none

An application may be asked to put its decisions on access into words. Next to it stands its twin,
which is not asked, and in which every view has been made from the same declaration. A view may call
others by name, and errors may be handed to exception views, all of which decide and explain for
themselves. If nothing that is called looks at the explanations, then both applications decide alike
throughout: every call comes to the same result, the words of a denial aside, and leaves the same
exchange, the explanation aside.

* `View.callFirst_alike`, `MultiView.toView_alike` — the views of a slot;
* `View.Declared`, `Registry.Twins`, `twins_addView` — two registries whose views come from the
  same declarations;
* `lookupView?_alike`, `renderNamed_alike`, `handleException_alike` — the views that they find,
  called by name or for an error;
* `environmentWithin_alike` — their ways back into the views, so many levels deep;
* `debugging_decides_nothing` — the calls of a view within both.
-/

namespace WebDispatch

open WebDispatch.Http (Response)

variable {c c' : Components}

/-! ## Several views -/

namespace View

variable {v v' : View} {a b : Resource}

theorem Alike.refuses_eq (h : v.Alike c c' v') (hab : a.Alike b) {r s : Request}
    (hr : r.Alike s) : v.refuses a r = v'.refuses b s := by
  rw [refuses, refuses, h.predicatesHold a b r s hab hr]

theorem callFirst_alike {e : Error} {views views' : List View}
    (h : List.Forall₂ (View.Alike c c') views views') (hab : a.Alike b)
    (last last' : Option Error) :
    Handling.Alike c c' (Sum.LiftRel Eq fun _ _ => True)
      (callFirst (fun _ => e) a views last) (callFirst (fun _ => e) b views' last') := by
  induction h generalizing last last' with
  | nil => exact .pure (.inr trivial)
  | @cons v v' rest rest' hv _ ih =>
      rw [callFirst, callFirst]
      refine .bind .request fun r s hr => ?_
      rw [hv.refuses_eq hab hr]
      split
      · exact ih _ _
      · refine .outcome_bind (hv.call a b hab) (fun _ _ hsame => .pure (.inl hsame)) ?_
        intro e e' he
        dsimp only
        rw [he.isMismatch_eq]
        split
        · exact ih _ _
        · exact .throw he

end View

namespace MultiView

variable {m m' : MultiView} {a b : Resource} {r s : Request}

theorem match?_alike (h : m.Related (View.Alike c c') m') (hab : a.Alike b) (hr : r.Alike s) :
    Option.Rel (View.Alike c c') (m.match? a r) (m'.match? b s) := by
  refine rel_find? (forall₂_views h hr.accept_eq) fun v v' hv => ?_
  rw [hv.refuses_eq hab hr]

theorem call_alike (h : m.Related (View.Alike c c') m') :
    ViewFunction.Alike c c' m.call m'.call := by
  intro a b hab
  refine .bind .request fun r s hr => ?_
  have hviews := forall₂_views h hr.accept_eq
  rw [h.mismatch_eq]
  refine .bind (View.callFirst_alike hviews hab none none) fun found found' hfound => ?_
  cases hfound with
  | inl hresponse => exact .pure hresponse
  | inr _ => exact .throw (.refl _)

theorem callPermissive_alike (h : m.Related (View.Alike c c') m') :
    ViewFunction.Alike c c' m.callPermissive m'.callPermissive := by
  intro a b hab
  refine .bind .request fun r s hr => ?_
  have hmatch := match?_alike h hab hr
  rw [h.mismatch_eq]
  generalize m.match? a r = found, m'.match? b s = found' at hmatch ⊢
  cases hmatch with
  | none => exact .throw (.refl _)
  | some hv => exact hv.callPermissive a b hab

theorem toView_alike (h : m.Related (View.Alike c c') m') :
    View.Alike c c' m.toView m'.toView where
  call := call_alike h
  callPermissive := callPermissive_alike h
  permitted := by
    intro a b r s hab hr
    show (m.match? a r).all (fun v => v.permitted a r) =
      (m'.match? b s).all fun v => v.permitted b s
    have hmatch := match?_alike h hab hr
    generalize m.match? a r = found, m'.match? b s = found' at hmatch ⊢
    cases hmatch with
    | none => rfl
    | some hv => exact hv.permitted a b r s hab hr
  predicatesHold := by
    intro a b r s hab hr
    show some (m.match? a r).isSome = some (m'.match? b s).isSome
    have hmatch := match?_alike h hab hr
    generalize m.match? a r = found, m'.match? b s = found' at hmatch ⊢
    cases hmatch with
    | none => rfl
    | some _ => rfl
  accept := rfl
  order := rfl
  phash := rfl

end MultiView

theorem Slot.toView_alike {s s' : Slot} (h : s.Related (View.Alike c c') s') :
    View.Alike c c' s.toView s'.toView := by
  cases h with
  | single hv => exact hv
  | multi hm => exact MultiView.toView_alike hm

/-! ## Two registries -/

/-- Two views that have been made of one declaration, within two applications. -/
inductive View.Declared (c c' : Components) : View → View → Prop
  | derived {callable : Callable} {o : ViewOptions} {j j' k k' : Journal} {d d' : DerivedView}
      (blind : o.Blind c c' callable) (journals : j.Alike j')
      (left : DerivedView.derive c callable o j = (.ok d, k))
      (right : DerivedView.derive c' callable o j' = (.ok d', k')) :
      Declared c c' d.toView d'.toView

theorem View.Declared.competesLike {v v' : View} (h : v.Declared c c' v') : v.CompetesLike v' := by
  obtain ⟨-, -, hd, hd'⟩ := h
  obtain ⟨_, _, _, _, rfl⟩ := DerivedView.derive_ok_iff.mp hd
  obtain ⟨_, _, _, _, rfl⟩ := DerivedView.derive_ok_iff.mp hd'
  exact ⟨rfl, rfl, rfl⟩

theorem View.Declared.alike (htwins : c.Twins c') (hblind : c.Blind) {v v' : View}
    (h : v.Declared c c' v') : View.Alike c c' v v' := by
  obtain ⟨hdecl, hj, hd, hd'⟩ := h
  have hrun := (DerivedView.derive_alike htwins hblind hdecl _ _ hj).1
  rw [hd, hd'] at hrun
  cases hrun with
  | ok halike => exact halike

namespace Registry

/-- Two registries that differ in the setting to explain decisions on access alone, where every view
has been made of the same declaration within the one as within the other. -/
structure Twins (r r' : Registry) : Prop where
  components : r.toComponents.Twins r'.toComponents
  views : ∀ key, Option.Rel (Slot.Related (View.Declared r.toComponents r'.toComponents))
    (r.views.get? key) (r'.views.get? key)

variable {r r' : Registry}

/-- Views that are made of one more declaration leave two registries twins. -/
theorem twins_addView (h : r.Twins r') {v v' : View}
    (hv : v.Declared r.toComponents r'.toComponents v') (key : ViewKey) :
    (r.addView key v).Twins (r'.addView key v') where
  components := h.components
  views := related_addView (fun _ _ hu => hu.competesLike) h.views key hv

section Blind

variable (h : r.Twins r') (hblind : r.toComponents.Blind)
include h hblind

theorem lookupView?_alike (classifier : Interface) (requests contexts : List Interface)
    (name : String) :
    Option.Rel (View.Alike r.toComponents r'.toComponents)
      (r.lookupView? classifier requests contexts name)
      (r'.lookupView? classifier requests contexts name) := by
  have hfirst := rel_findSome? h.views (grid classifier requests contexts name)
  rw [lookupView?_eq, lookupView?_eq, firstSlot?, firstSlot?]
  generalize List.findSome? r.views.get? _ = slot, List.findSome? r'.views.get? _ = slot'
    at hfirst ⊢
  cases hfirst with
  | none => exact .none
  | some hslot =>
      have halike := hslot.mono fun _ _ hv => hv.alike h.components hblind
      exact .some (Slot.toView_alike halike)

theorem renderNamed_alike {a b : Resource} (hab : a.Alike b) (name : String) (secure : Bool) :
    Handling.Alike r.toComponents r'.toComponents Eq (r.renderNamed a name secure)
      (r'.renderNamed b name secure) := by
  refine .bind .request fun q s hq => ?_
  have hlookup :=
    lookupView?_alike h hblind .viewClassifier q.type.order a.provided name
  rw [← hq.type_eq, ← hab.provided_eq]
  generalize r.lookupView? _ _ _ _ = found, r'.lookupView? _ _ _ _ = found' at hlookup ⊢
  cases hlookup with
  | none => exact .pure rfl
  | some hv =>
      cases secure with
      | true => exact (hv.call a b hab).bind fun _ _ hsame => .pure (congrArg some hsame)
      | false => exact (hv.callPermissive a b hab).bind fun _ _ hsame => .pure (congrArg some hsame)

theorem handleException_alike {e f : Error} (hef : e.Alike f) :
    Handling.Alike r.toComponents r'.toComponents Eq (r.handleException e)
      (r'.handleException f) := by
  refine .bind .request fun q s hq => ?_
  have hlookup :=
    lookupView?_alike h hblind .exceptionViewClassifier q.type.combined e.provided ""
  rw [← hq.type_eq, ← hef.provided_eq]
  generalize r.lookupView? _ _ _ _ = found, r'.lookupView? _ _ _ _ = found' at hlookup ⊢
  cases hlookup with
  | none => exact .bind (.report _ _ _) fun _ _ _ => .pure rfl
  | some hv =>
      refine .bind (.report _ _ _) fun _ _ _ => ?_
      refine .outcome_bind (hv.call _ _ (.failure hef)) (fun _ _ hsame => ?_) fun g g' hg => ?_
      · exact .pure (congrArg some hsame)
      · dsimp only
        rw [hg.isMismatch_eq]
        split
        · exact .pure rfl
        · exact .throw hg

/-- By induction on how deeply views may call others: what is called at one level is alike as soon
as what it calls in turn is. -/
theorem environmentWithin_alike (now depth : Nat) :
    Environment.Alike r.toComponents r'.toComponents (r.environmentWithin now depth)
      (r'.environmentWithin now depth) := by
  induction depth with
  | zero =>
      exact
        { left := rfl
          right := rfl
          now := rfl
          renderNamed := fun _ _ _ _ _ => .throw (.refl _)
          handleError := fun _ _ _ => .throw (.refl _) }
  | succ depth ih =>
      exact
        { left := rfl
          right := rfl
          now := rfl
          renderNamed := fun a b name secure hab =>
            renderNamed_alike h hblind hab name secure _ _ ih
          handleError := fun e f hef => handleException_alike h hblind hef _ _ ih }

/-- **Explaining decisions changes none.** Of what an application gives to be called, nothing looks
at the reason that a request carries, at the words of a denial, or at the setting. A view that is
made within it is made within its twin as well, and both are alike: called for the same context and
the same request, with the permission checked or not, they give the same response, or fail with the
same error but for the words of a denial, and leave the same exchange but for the reason that the
request carries and the reports of decisions. The views that they call in turn, by name or for an
error, are those of their own application. -/
theorem debugging_decides_nothing {callable : Callable} {o : ViewOptions}
    (hdecl : o.Blind r.toComponents r'.toComponents callable) {j j' k : Journal} (hj : j.Alike j')
    {d : DerivedView} (hd : DerivedView.derive r.toComponents callable o j = (.ok d, k)) :
    ∃ d' k', DerivedView.derive r'.toComponents callable o j' = (.ok d', k') ∧ k.Alike k' ∧
      ∀ a b, a.Alike b → ∀ now depth,
        Effect.Alike Exchange.Alike Eq (d.call a (r.environmentWithin now depth))
          (d'.call b (r'.environmentWithin now depth)) ∧
        Effect.Alike Exchange.Alike Eq (d.permissive a (r.environmentWithin now depth))
          (d'.permissive b (r'.environmentWithin now depth)) := by
  have hrun := DerivedView.derive_alike h.components hblind hdecl j j' hj
  rw [hd] at hrun
  rcases hd' : DerivedView.derive r'.toComponents callable o j' with ⟨result, k'⟩
  rw [hd'] at hrun
  obtain ⟨hresult, hjournals⟩ := hrun
  cases hresult with
  | @ok _ d' halike =>
      refine ⟨d', k', rfl, hjournals, fun a b hab now depth => ?_⟩
      have henv := environmentWithin_alike h hblind now depth
      exact ⟨halike.call a b hab _ _ henv, halike.callPermissive a b hab _ _ henv⟩

end Blind

/-- An application for its members, which explains its decisions or does not. -/
def members (explaining : Bool) : Components :=
  { DerivedView.membersOnly with settings := { debugAuthorization := explaining } }

def framing : Handling ViewOutput :=
  return .response { body := (← Handling.request).wrappedBody.getD [] }

def frame (c : Components) : DerivedView :=
  .assembled c (.requestFunction framing) { name := "frame" } (fun _ => framing) none

def framedMembers (explaining : Bool) : Registry :=
  addView { toComponents := members explaining } ⟨.viewClassifier, .request, .any, "frame"⟩
    (frame (members explaining)).toView

theorem blind_members : (members false).Blind where
  authentication := by
    rintro who ⟨⟩ r s hr
    exact hr.eq_of_plain (fun q => (q.header? "x-user").toList) fun _ => rfl
  authorization := by
    rintro may ⟨⟩ a b principals p -
    rfl
  renderers := nofun
  subscribers := nofun

theorem blind_framing (name : String) (wrapper : Option String) :
    ViewOptions.Blind c c' (.requestFunction framing) { name := name, wrapper := wrapper } where
  body := by
    refine .bind .request fun r s hr => ?_
    rw [hr.eq_of_plain Request.wrappedBody fun _ => rfl]
    exact .pure rfl
  mapper := nofun
  decorator := nofun
  predicates := nofun

theorem twins_framedMembers : (framedMembers false).Twins (framedMembers true) := by
  have hbare : Twins { toComponents := members false } { toComponents := members true } :=
    ⟨rfl, fun _ => .none⟩
  have hsilent : Journal.Alike [] [] := rfl
  have hframe : View.Declared (members false) (members true) (frame (members false)).toView
      (frame (members true)).toView :=
    .derived (blind_framing "frame" none) hsilent rfl rfl
  exact twins_addView hbare hframe _

/-- A view in the frame, called without its own permission check: the frame denies the access, in
different words. -/
theorem debugging_decides_nothing_framed :
    ∃ d d' s t,
      DerivedView.derive (members false) (.requestFunction framing)
        { wrapper := some "frame" } [] = (.ok d, []) ∧
      DerivedView.derive (members true) (.requestFunction framing)
        { wrapper := some "frame" } [] = (.ok d', []) ∧
      Effect.Alike Exchange.Alike Eq
        (d.permissive (.defaultRoot none) ((framedMembers false).environmentWithin 0 1))
        (d'.permissive (.defaultRoot none) ((framedMembers true).environmentWithin 0 1)) ∧
      (d.permissive (.defaultRoot none) ((framedMembers false).environmentWithin 0 1) {}).1 =
        .error (.forbidden s) ∧
      (d'.permissive (.defaultRoot none) ((framedMembers true).environmentWithin 0 1) {}).1 =
        .error (.forbidden t) ∧ s ≠ t := by
  have hsilent : Journal.Alike [] [] := rfl
  obtain ⟨d', k', hderive, -, hcalls⟩ := debugging_decides_nothing twins_framedMembers
    blind_members (blind_framing "" (some "frame")) hsilent rfl
  cases hderive
  have halike := (hcalls (.defaultRoot none) (.defaultRoot none) (.refl _) 0 1).2
  exact ⟨_, _, _, _, rfl, rfl, halike, rfl, rfl, by decide⟩

end Registry

end WebDispatch
