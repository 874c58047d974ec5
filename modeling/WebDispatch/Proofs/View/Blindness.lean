import WebDispatch.Proofs.Exchange.Likeness
import WebDispatch.Proofs.View.Gating

/-!
# Views that do not look at explanations

Two applications may differ in nothing but whether decisions on access are put into words. What an
application gives to be called is blind if it does not look at these words, nor at that setting: its
runs within the two applications are alike. A view that is made of blind parts within the one is
alike to the view that is made of them within the other.

* `Components.Twins` — two applications that differ in the setting alone;
* `Components.Blind`, `Callable.Blind`, `ViewOptions.Blind` — parts that do not look;
* `View.Alike` — two views, alike in all that those learn who call them or ask them;
* `derive_alike`, `toView_alike` — the views that are made of the same declaration.
-/

namespace WebDispatch

open WebDispatch.Http (Response)

/-! ## Two applications -/

/-- Components without the setting to explain decisions on access, and without the texts of all
settings. -/
def Components.quiet (c : Components) : Components :=
  { c with settings := { c.settings with debugAuthorization := false, values := {} } }

def Components.Twins (c c' : Components) : Prop := c.quiet = c'.quiet

/-- What is read off components without that setting is the same. -/
theorem Components.Twins.eq_of_quiet {c c' : Components} {α : Type} (h : c.Twins c')
    (f : Components → α) (hf : ∀ d : Components, f d.quiet = f d) : f c = f c' :=
  (hf c).symm.trans ((congrArg f h).trans (hf c'))

/-! ## Blind parts -/

def Renderer.Alike (render render' : Renderer) : Prop :=
  ∀ value name viewName a b values, a.Alike b →
    Effect.Alike Exchange.Alike Eq (render value ⟨name, viewName, some a, values⟩)
      (render' value ⟨name, viewName, some b, values⟩)

/-- What an application has does not look at explanations. -/
structure Components.Blind (c : Components) : Prop where
  authentication : ∀ who, c.authentication = some who →
    ∀ r s, r.Alike s → who.principals r = who.principals s
  authorization : ∀ may, c.authorization = some may →
    ∀ a b principals p, a.Alike b → may.permits a principals p = may.permits b principals p
  renderers : ∀ kind make, c.renderers.get? kind = some make →
    ∀ wanted, Effect.Alike Journal.Alike Renderer.Alike (make wanted) (make wanted)
  subscribers : ∀ e ∈ c.subscriptions,
    Effect.Alike Rendering.Alike Eq e.2.beforeRender e.2.beforeRender

/-- Two views whose runs within two applications are alike. -/
def ViewFunction.Alike (c c' : Components) (view view' : ViewFunction) : Prop :=
  ∀ a b, a.Alike b → Handling.Alike c c' Eq (view a) (view' b)

def MappedView.Blind (c c' : Components) (view : MappedView) : Prop :=
  ∀ a b, a.Alike b → Handling.Alike c c' Eq (view a) (view b)

def ViewObject.Alike (c c' : Components) (object object' : ViewObject) : Prop :=
  ∀ attr, Handling.Alike c c' Eq (object attr) (object' attr)

def Callable.Blind (c c' : Components) : Callable → Prop
  | function run => ∀ a b, a.Alike b → Handling.Alike c c' Eq (run a) (run b)
  | requestFunction run => Handling.Alike c c' Eq run run
  | method target => ViewObject.Alike c c' target target
  | ofRequest make => ∀ r s, r.Alike s → Result.Alike (ViewObject.Alike c c') (make r) (make s)
  | ofContext make => ∀ a b r s, a.Alike b → r.Alike s →
      Result.Alike (ViewObject.Alike c c') (make a r) (make b s)

/-- A callable and what is declared with it do not look at explanations. -/
structure ViewOptions.Blind (c c' : Components) (callable : Callable) (o : ViewOptions) : Prop where
  body : callable.Blind c c'
  mapper : ∀ m mapped, o.mapper = some m → m callable o.attr = .ok mapped →
    MappedView.Blind c c' mapped
  decorator : ∀ decorate view view', o.decorator = some decorate →
    ViewFunction.Alike c c' view view' → ViewFunction.Alike c c' (decorate view) (decorate view')
  predicates : ∀ p, .custom p ∈ o.predicates →
    ∀ a b r s, a.Alike b → r.Alike s → p.holds a r = p.holds b s

/-! ## The callable -/

namespace Callable

variable {c c' : Components} {callable : Callable}

theorem callMade_alike {made made' : Except Error ViewObject} (attr : Option String)
    (h : Result.Alike (ViewObject.Alike c c') made made') :
    Handling.Alike c c' Eq (callMade made attr) (callMade made' attr) := by
  have hmade : Handling.Alike c c' (ViewObject.Alike c c') (Handling.ofExcept made)
      (Handling.ofExcept made') := fun _ _ _ => Effect.Alike.ofExcept h
  refine hmade.bind fun object object' hobject => ?_
  exact .bind (.modifyRequest _ fun _ => rfl) fun _ _ _ => hobject attr

theorem Blind.mappedView (h : callable.Blind c c') {attr : Option String} {view : MappedView}
    (hmapped : callable.mapped attr = .ok view) : MappedView.Blind c c' view := by
  cases callable with
  | function run =>
      cases attr with
      | some a => cases hmapped
      | none =>
          cases hmapped
          exact h
  | requestFunction run =>
      cases attr with
      | some a => cases hmapped
      | none =>
          cases hmapped
          exact fun _ _ _ => h
  | method target =>
      cases hmapped
      exact fun _ _ _ => h attr
  | ofRequest make =>
      cases hmapped
      intro a b _
      exact .bind .request fun r s hr => callMade_alike attr (h r s hr)
  | ofContext make =>
      cases hmapped
      intro a b hab
      exact .bind .request fun r s hr => callMade_alike attr (h a b r s hab hr)

end Callable

/-! ## Predicates -/

namespace Predicate

variable {p : Predicate} {a b : Resource} {r s : Request}

theorem holdsForRequest?_eq (hr : r.Alike s) :
    holdsForRequest? r p = holdsForRequest? s p := by
  refine hr.eq_of_plain (fun q => holdsForRequest? q p) fun q => ?_
  cases p with
  | requestParam name value => cases value <;> rfl
  | header name value => cases value <;> rfl
  | _ => rfl

theorem holds_eq (hp : ∀ q, p = .custom q → q.holds a r = q.holds b s) (ha : a.Alike b)
    (hr : r.Alike s) : p.holds a r = p.holds b s := by
  have hverdict := holdsForRequest?_eq (p := p) hr
  have hdict : r.matchdict = s.matchdict := hr.eq_of_plain Request.matchdict fun _ => rfl
  unfold holds
  rw [← hverdict]
  split
  · rfl
  · next pairs _ => rw [hdict]
  · next i _ => exact ha.isSome_findInterface?_eq i
  · next q _ => exact hp q rfl
  · rfl

end Predicate

/-! ## Rendering -/

section Rendering

variable {c c' : Components}

theorem Components.renderer_alike (htwins : c.Twins c') (hblind : c.Blind) (name : String)
    (package : Option String) : Effect.Alike Journal.Alike Renderer.Alike
      (c.renderer name package) (c'.renderer name package) := by
  rw [← htwins.eq_of_quiet renderer fun _ => rfl, renderer_eq]
  split
  · next make hmake => exact hblind.renderers _ make hmake _
  · exact .throw (.refl _)

/-- Renderers of one name that are alike. -/
structure NamedRenderer.Alike (n n' : NamedRenderer) : Prop where
  name : n.name = n'.name
  renderer : n.renderer.Alike n'.renderer

namespace NamedRenderer

variable {n n' : NamedRenderer}

theorem announce_alike (htwins : c.Twins c') (hblind : c.Blind) (value : Value)
    (values : OrderedMap String Value) :
    Handling.Alike c c' Rendering.Alike (announce value values) (announce value values) := by
  refine .bind_read fun env env' henv => ?_
  rw [henv.left, henv.right]
  have hnotify : Effect.Alike Rendering.Alike Eq
      (c.subscriptions.notify .beforeRender fun s => s.beforeRender)
      (c'.subscriptions.notify .beforeRender fun s => s.beforeRender) := by
    rw [← htwins.eq_of_quiet Components.subscriptions fun _ => rfl]
    refine .forM fun s hs => ?_
    obtain ⟨e, he, rfl⟩ := List.mem_map.mp hs
    exact hblind.subscribers e (List.mem_of_mem_filter he)
  refine Effect.Alike.within (hnotify.bind fun _ _ _ => .get) ?_ ?_
  · exact fun _ _ hx => ⟨rfl, rfl, hx.request.journal⟩
  · exact fun _ _ _ _ hx hrendering => ⟨hx.request.setJournal hrendering.journal,
      hx.responseCallbacks, hx.finishedCallbacks⟩

theorem render_alike (htwins : c.Twins c') (hblind : c.Blind) (hn : n.Alike n') (value : Value)
    (viewName : String) :
    ViewFunction.Alike c c' (n.render value viewName) (n'.render value viewName) := by
  intro a b hab
  refine .bind .request fun r s hr => ?_
  rw [hr.target_eq, hn.name]
  refine .bind (announce_alike htwins hblind _ _) fun rendering rendering' hrendering => ?_
  have hbody : Handling.Alike c c' Eq
      (fun _ => n.renderer rendering.value ⟨n'.name, viewName, some a, rendering.values⟩)
      (fun _ => n'.renderer rendering'.value ⟨n'.name, viewName, some b, rendering'.values⟩) := by
    intro _ _ _
    rw [hrendering.value, hrendering.values]
    exact hn.renderer _ _ _ a b _ hab
  refine hbody.bind fun body _ hsame => ?_
  subst hsame
  refine .bind .request fun r s hr => .bind (.modifyRequest _ fun _ => rfl) fun _ _ _ => ?_
  rw [hr.prepared_eq]
  exact .pure rfl

end NamedRenderer

end Rendering

/-! ## The steps of a view -/

namespace DerivedView

variable {c c' : Components} {o : ViewOptions} {description viewName : String}
  {view view' : ViewFunction}

theorem rendered_alike (htwins : c.Twins c') (hblind : c.Blind)
    {renderer renderer' : Option NamedRenderer}
    (hrenderer : Option.Rel NamedRenderer.Alike renderer renderer') {mapped : MappedView}
    (hmapped : MappedView.Blind c c' mapped) :
    ViewFunction.Alike c c' (rendered renderer viewName description mapped)
      (rendered renderer' viewName description mapped) := by
  intro a b hab
  refine .bind (hmapped a b hab) fun output _ hsame => ?_
  subst hsame
  cases output with
  | response r => exact .pure rfl
  | value v =>
      cases hrenderer with
      | none => exact .throw (.refl _)
      | some husual =>
          refine .bind .request fun r s hr => ?_
          rw [hr.renderer_eq]
          split
          · exact NamedRenderer.render_alike htwins hblind husual v viewName a b hab
          · next name _ =>
            refine .bind .components fun d d' hd => ?_
            obtain ⟨rfl, rfl⟩ := hd
            refine .bind (.reporting (Components.renderer_alike htwins hblind name none)) ?_
            intro other other' hother
            have hnamed : NamedRenderer.Alike ⟨name, other⟩ ⟨name, other'⟩ := ⟨rfl, hother⟩
            exact NamedRenderer.render_alike htwins hblind hnamed v viewName a b hab

theorem cached_alike (htwins : c.Twins c') (h : ViewFunction.Alike c c' view view') :
    ViewFunction.Alike c c' (cached c o view) (cached c' o view') := by
  have hprevent : c.settings.preventHttpCache = c'.settings.preventHttpCache :=
    htwins.eq_of_quiet (fun d => d.settings.preventHttpCache) fun _ => rfl
  unfold cached
  rw [hprevent]
  split
  · intro a b hab
    refine .bind_read fun env env' henv => ?_
    rw [henv.now]
    refine Effect.Alike.bind (h a b hab env env' henv) fun response _ hsame => ?_
    exact Effect.Alike.pure (congrArg _ hsame)
  · exact h

theorem wrapped_alike (h : ViewFunction.Alike c c' view view') :
    ViewFunction.Alike c c' (wrapped o description view) (wrapped o description view') := by
  unfold wrapped
  split
  · exact h
  · next name _ =>
    intro a b hab
    refine .bind (h a b hab) fun inner _ hsame => ?_
    subst hsame
    refine .bind (.modifyRequest _ fun _ => rfl) fun _ _ _ => .bind_read fun env env' henv => ?_
    refine Effect.Alike.bind (henv.renderNamed a b name true hab) fun found _ hsame => ?_
    subst hsame
    cases found with
    | some response => exact Effect.Alike.pure rfl
    | none => exact Effect.Alike.throw (.refl _)

theorem check?_eq (htwins : c.Twins c') : check? c o = check? c' o :=
  htwins.eq_of_quiet (fun d => check? d o) fun _ => rfl

theorem check?_blind (hblind : c.Blind) {may : Resource → Request → Bool}
    (hmay : check? c o = some may) {a b : Resource} {r s : Request} (hab : a.Alike b)
    (hr : r.Alike s) : may a r = may b s := by
  unfold check? at hmay
  split at hmay
  · next who policy p hwho hpolicy _ =>
    split at hmay
    · cases hmay
    · cases hmay
      have hprincipals : who.principals r = who.principals s :=
        hblind.authentication who hwho r s hr
      show policy.permits a (who.principals r) p = policy.permits b (who.principals s) p
      rw [hprincipals]
      exact hblind.authorization policy hpolicy a b _ p hab
  · cases hmay

theorem secured_alike (htwins : c.Twins c') (hblind : c.Blind)
    (h : ViewFunction.Alike c c' view view') :
    ViewFunction.Alike c c' (secured (check? c o) description view)
      (secured (check? c' o) description view') := by
  rw [← check?_eq htwins]
  cases hcheck : check? c o with
  | none => exact h
  | some may =>
      intro a b hab
      refine .bind .request fun r s hr => ?_
      rw [check?_blind hblind hcheck hab hr]
      split
      · exact h a b hab
      -- the reason that the request carries gets into the words of the denial, and nowhere else
      · exact .throw (Or.inr ⟨_, _, rfl, rfl⟩)

theorem noted_plain (context : Resource) (x : Exchange) :
    (noted c o context x).toRequest.plain = x.toRequest.plain := by
  unfold noted
  split
  · have hreport : Journal.plain (x.journal ++
        [.diagnostic .debug "cornice::views" (explanation c o context x.toRequest)]) =
        x.journal.plain := by
      rw [Journal.plain, List.filter_append]
      exact List.append_nil _
    exact congrArg (fun j => { x.toRequest.plain with journal := j }) hreport
  · rfl

theorem noted_alike {a b : Resource} {x y : Exchange} (hx : x.Alike y) :
    (noted c o a x).Alike (noted c' o b y) where
  request := (noted_plain a x).trans (hx.request.trans (noted_plain b y).symm)
  responseCallbacks := by
    unfold noted
    split <;> split <;> exact hx.responseCallbacks
  finishedCallbacks := by
    unfold noted
    split <;> split <;> exact hx.finishedCallbacks

theorem explained_alike (h : ViewFunction.Alike c c' view view') :
    ViewFunction.Alike c c' (explained c o view) (explained c' o view') := by
  intro a b hab env env' henv x y hx
  rw [explained_apply, explained_apply]
  exact h a b hab env env' henv _ _ (noted_alike hx)

theorem holds_eq {callable : Callable} (hblind : o.Blind c c' callable) {a b : Resource}
    {r s : Request} (hab : a.Alike b) (hr : r.Alike s) :
    ∀ p ∈ o.predicates, p.holds a r = p.holds b s := by
  intro p hp
  refine Predicate.holds_eq (fun q hq => ?_) hab hr
  exact hblind.predicates q (hq ▸ hp) a b r s hab hr

theorem predicated_alike {callable : Callable} (hblind : o.Blind c c' callable)
    (h : ViewFunction.Alike c c' view view') :
    ViewFunction.Alike c c' (predicated o description view) (predicated o description view') := by
  intro a b hab
  refine .bind .request fun r s hr => ?_
  have hfind : (o.predicates.find? fun p => !p.holds a r) =
      o.predicates.find? fun p => !p.holds b s := by
    rw [← List.head?_filter, ← List.head?_filter]
    refine congrArg List.head? (List.filter_congr fun p hp => ?_)
    rw [holds_eq hblind hab hr p hp]
  rw [hfind]
  split
  · exact .throw (.refl _)
  · exact h a b hab

end DerivedView

/-! ## The view as a whole -/

/-- Two views that are alike to those who call them or ask them, and compete alike. -/
structure View.Alike (c c' : Components) (v v' : View) : Prop where
  call : ViewFunction.Alike c c' v.call v'.call
  callPermissive : ViewFunction.Alike c c' v.callPermissive v'.callPermissive
  permitted : ∀ a b r s, a.Alike b → r.Alike s → v.permitted a r = v'.permitted b s
  predicatesHold : ∀ a b r s, a.Alike b → r.Alike s → v.predicatesHold a r = v'.predicatesHold b s
  accept : v.accept = v'.accept
  order : v.order = v'.order
  phash : v.phash = v'.phash

namespace DerivedView

variable {c c' : Components} {o : ViewOptions} {callable : Callable}

theorem renderer?_alike (htwins : c.Twins c') (hblind : c.Blind) :
    Effect.Alike Journal.Alike (Option.Rel NamedRenderer.Alike) (renderer? c o)
      (renderer? c' o) := by
  have hnamed (name : String) : Effect.Alike Journal.Alike (Option.Rel NamedRenderer.Alike)
      (c.renderer name o.package >>= fun render => pure (some ⟨name, render⟩))
      (c'.renderer name o.package >>= fun render => pure (some ⟨name, render⟩)) := by
    refine (Components.renderer_alike htwins hblind name o.package).bind fun render render' h => ?_
    exact .pure (.some ⟨rfl, h⟩)
  unfold renderer?
  rw [← htwins.eq_of_quiet Components.renderers fun _ => rfl]
  split
  · next name _ => exact hnamed name
  · split
    · exact hnamed ""
    · exact .pure .none

theorem mapped_blind (hdecl : o.Blind c c' callable) {mapped : MappedView}
    (h : o.mapper.getD Callable.mapped callable o.attr = .ok mapped) :
    MappedView.Blind c c' mapped := by
  cases hmapper : o.mapper with
  | none =>
      rw [hmapper] at h
      exact hdecl.body.mappedView h
  | some m =>
      rw [hmapper] at h
      exact hdecl.mapper m mapped hmapper h

theorem decorated_alike (hdecl : o.Blind c c' callable) {view view' : ViewFunction}
    (h : ViewFunction.Alike c c' view view') :
    ViewFunction.Alike c c' (o.decorator.getD id view) (o.decorator.getD id view') := by
  cases hdecorator : o.decorator with
  | none => exact h
  | some decorate => exact hdecl.decorator decorate _ _ hdecorator h

theorem all_holds_eq (hdecl : o.Blind c c' callable) {a b : Resource} {r s : Request}
    (hab : a.Alike b) (hr : r.Alike s) :
    (o.predicates.all fun p => p.holds a r) = o.predicates.all fun p => p.holds b s := by
  rw [Bool.eq_iff_iff, List.all_eq_true, List.all_eq_true]
  exact forall₂_congr fun p hp => by rw [holds_eq hdecl hab hr p hp]

theorem toView_alike (htwins : c.Twins c') (hblind : c.Blind) (hdecl : o.Blind c c' callable)
    {mapped : MappedView} (hmapped : MappedView.Blind c c' mapped)
    {renderer renderer' : Option NamedRenderer}
    (hrenderer : Option.Rel NamedRenderer.Alike renderer renderer') :
    View.Alike c c' (assembled c callable o mapped renderer).toView
      (assembled c' callable o mapped renderer').toView := by
  have hrendered : ViewFunction.Alike c c'
      (rendered renderer o.name (describe callable o) mapped)
      (rendered renderer' o.name (describe callable o) mapped) :=
    rendered_alike htwins hblind hrenderer hmapped
  have hpermissive : ViewFunction.Alike c c' (assembled c callable o mapped renderer).permissive
      (assembled c' callable o mapped renderer').permissive :=
    wrapped_alike (cached_alike htwins (decorated_alike hdecl hrendered))
  exact
    { call := predicated_alike hdecl (explained_alike (secured_alike htwins hblind hpermissive))
      callPermissive := hpermissive
      permitted := by
        intro a b r s hab hr
        show (check? c o).all (fun may => may a r) = (check? c' o).all fun may => may b s
        rw [← check?_eq htwins]
        cases hcheck : check? c o with
        | none => rfl
        | some may => exact check?_blind hblind hcheck hab hr
      predicatesHold := by
        intro a b r s hab hr
        show (if o.predicates.isEmpty then none else some (o.predicates.all fun p => p.holds a r)) =
          if o.predicates.isEmpty then none else some (o.predicates.all fun p => p.holds b s)
        rw [all_holds_eq hdecl hab hr]
      accept := rfl
      order := rfl
      phash := rfl }

/-- What is made of one declaration within both applications. -/
theorem derive_alike (htwins : c.Twins c') (hblind : c.Blind) (hdecl : o.Blind c c' callable) :
    Effect.Alike Journal.Alike (fun d d' => View.Alike c c' d.toView d'.toView)
      (derive c callable o) (derive c' callable o) := by
  have hmapped : Effect.Alike Journal.Alike (fun m m' => m = m' ∧ MappedView.Blind c c' m)
      (Effect.ofExcept (o.mapper.getD Callable.mapped callable o.attr))
      (Effect.ofExcept (o.mapper.getD Callable.mapped callable o.attr)) := by
    refine .ofExcept ?_
    cases h : o.mapper.getD Callable.mapped callable o.attr with
    | error e => exact .error (.refl e)
    | ok mapped => exact .ok ⟨rfl, mapped_blind hdecl h⟩
  refine hmapped.bind fun mapped _ ⟨hsame, hblindly⟩ => ?_
  subst hsame
  refine (renderer?_alike htwins hblind).bind fun renderer renderer' hrenderer => ?_
  exact .pure (toView_alike htwins hblind hdecl hblindly hrenderer)

end DerivedView

end WebDispatch
