import WebDispatch.Proofs.View.Rendering

/-!
# Failures because of predicates

A view that fails because of predicates is passed over, and the next one has its turn. Let neither
what a view runs nor what renders its value fail like that. Then a view whose predicates hold still
does so in one way: it hands its response to a wrapper view, and that one declines. By then the body
of the view has run, and those who called the view go on to the next one all the same.

* `Effect.Candid` — a computation that does not fail because of predicates;
* `DerivedView.Candid` — nothing that a view runs does;
* `handOver`, `exists_unwrapped` — a view with a wrapper is the same view without one, and then the
  wrapper;
* `Accepts`, `declines_iff_wrapper_declines` — when a view whose predicates hold is passed over.
-/

namespace WebDispatch

open WebDispatch.Http (Response)

/-! ## Computations that do not fail so -/

namespace Effect

variable {σ τ α β : Type}

/-- A computation does not fail because of predicates. -/
def Candid (act : Effect σ α) : Prop := ∀ s e, (act s).1 = .error e → e.isMismatch = false

namespace Candid

theorem pure (a : α) : Candid (pure a : Effect σ α) := fun _ _ => nofun

theorem get : Candid (get : Effect σ σ) := fun _ _ => nofun

theorem modify (f : σ → σ) : Candid (modify f : Effect σ PUnit) := fun _ _ => nofun

theorem throw {e : Error} (h : e.isMismatch = false) : Candid (throw e : Effect σ α) := by
  intro s f hf
  cases hf
  exact h

theorem within {get : σ → τ} {put : σ → τ → σ} {act : Effect τ α} (h : act.Candid) :
    (within get put act).Candid := fun s => h (get s)

/-- What follows only has to be candid for what can come of the first part. -/
theorem bind {act : Effect σ α} {f : α → Effect σ β} (hact : act.Candid)
    (hf : ∀ s a t, act s = (.ok a, t) → (f a).Candid) : (act >>= f).Candid := by
  intro s e he
  rcases bind_cases (r := .error e) (Prod.ext he rfl) with ⟨e', hfails, heq⟩ | ⟨a, t, hok, hrest⟩
  · cases heq
    exact hact s e (congrArg Prod.fst hfails)
  · exact hf s a t hok t e (congrArg Prod.fst hrest)

theorem forM {f : α → Effect σ PUnit} {as : List α} (h : ∀ a ∈ as, (f a).Candid) :
    (as.forM f).Candid := by
  induction as with
  | nil => exact Candid.pure PUnit.unit
  | cons a as ih =>
      change (f a >>= fun _ => as.forM f).Candid
      have hrest := ih fun b hb => h b (List.mem_cons_of_mem a hb)
      exact (h a List.mem_cons_self).bind fun _ _ _ _ => hrest

end Candid

end Effect

namespace Handling

variable {α β : Type} {env : Environment}

def Candid (env : Environment) (act : Handling α) : Prop := Effect.Candid (act env)

namespace Candid

theorem pure (a : α) : Candid env (pure a) := Effect.Candid.pure a

theorem throw {e : Error} (h : e.isMismatch = false) : Candid env (throw e : Handling α) :=
  Effect.Candid.throw h

theorem request : Candid env Handling.request := fun _ _ => nofun

theorem modifyRequest (f : Request → Request) : Candid env (Handling.modifyRequest f) :=
  fun _ _ => nofun

theorem bind_of_ok {act : Handling α} {f : α → Handling β} (hact : act.Candid env)
    (hf : ∀ x a y, act env x = (.ok a, y) → (f a).Candid env) : (act >>= f).Candid env :=
  Effect.Candid.bind hact hf

theorem bind {act : Handling α} {f : α → Handling β} (hact : act.Candid env)
    (hf : ∀ a, (f a).Candid env) : (act >>= f).Candid env :=
  hact.bind_of_ok fun _ a _ _ => hf a

theorem bind_read {f : Environment → Handling β} (h : (f env).Candid env) :
    (read >>= f).Candid env := h

theorem components : Candid env Handling.components := by
  refine .bind_read ?_
  split
  · exact .pure _
  · exact .throw rfl

end Candid

theorem components_ok {c : Components} {x y : Exchange}
    (h : Handling.components env x = (.ok c, y)) : env.components = some c := by
  rcases env with ⟨_ | found, now, renderNamed, handleError⟩
  · cases h
  · cases h
    rfl

end Handling

def ViewFunction.Candid (env : Environment) (view : ViewFunction) : Prop :=
  ∀ context, (view context).Candid env

def Renderer.Candid (render : Renderer) : Prop := ∀ v system, (render v system).Candid

/-- A factory does not fail because of predicates, and neither do its renderers. -/
structure RendererFactory.Candid (make : RendererFactory) : Prop where
  making : ∀ wanted, (make wanted).Candid
  made : ∀ wanted j render j', make wanted j = (.ok render, j') → Renderer.Candid render

namespace Components

variable {c : Components}

def CandidRenderers (c : Components) : Prop :=
  ∀ kind make, c.renderers.get? kind = some make → RendererFactory.Candid make

theorem CandidRenderers.making (h : c.CandidRenderers) (name : String)
    (package : Option String) : (c.renderer name package).Candid := by
  rw [renderer_eq]
  split
  · next make hmake => exact (h _ make hmake).making _
  · exact .throw rfl

theorem CandidRenderers.made (h : c.CandidRenderers) {name : String} {package : Option String}
    {j j' : Journal} {render : Renderer} (hmade : c.renderer name package j = (.ok render, j')) :
    render.Candid := by
  rw [renderer_eq] at hmade
  split at hmade
  · next make hmake => exact (h _ make hmake).made _ j render j' hmade
  · cases hmade

end Components

/-! ## Lists of views -/

namespace View

variable {v : View} {refusal : View → Error} {context : Resource} {env : Environment} {x : Exchange}
  {before : List View}

/-- A view that accepts a request and does not decline is the last one that is called. -/
theorem callFirst_of_not_declines (hbefore : ∀ u ∈ before, u.refuses context x.toRequest)
    (hv : ¬ v.refuses context x.toRequest) (h : ¬ v.Declines context env x) (rest : List View)
    (last : Option Error) :
    callFirst refusal context (before ++ v :: rest) last env x =
      ((v.call context env x).1.map .inl, (v.call context env x).2) :=
  callFirst_of_accepted hbefore hv (fun e he hmismatch => absurd ⟨e, he, hmismatch⟩ h) last

/-- Behind one that declines, the next ones are called on what it left. -/
theorem callFirst_of_declines (hbefore : ∀ u ∈ before, u.refuses context x.toRequest)
    (hv : ¬ v.refuses context x.toRequest) {e : Error} {y : Exchange}
    (hcall : v.call context env x = (.error e, y)) (he : e.isMismatch = true) (rest : List View)
    (last : Option Error) :
    callFirst refusal context (before ++ v :: rest) last env x =
      callFirst refusal context rest (some e) env y := by
  rw [callFirst_append_of_refused hbefore, callFirst_cons, if_neg hv, hcall]
  exact if_pos he

end View

/-! ## The steps of a view -/

namespace NamedRenderer

variable {env : Environment} {n : NamedRenderer}

/-- No subscriber who is told of a value before it is rendered fails because of predicates. -/
def CandidAudience (env : Environment) : Prop :=
  ∀ c, env.components = some c → ∀ e ∈ c.subscriptions, e.2.beforeRender.Candid

theorem announce_candid (h : CandidAudience env) (value : Value)
    (values : OrderedMap String Value) : (announce value values).Candid env := by
  refine .bind_read ?_
  split
  · exact .pure _
  · next c hc =>
    refine Effect.Candid.within (.bind (.forM fun s hs => ?_) fun _ _ _ _ => .get)
    obtain ⟨e, he, rfl⟩ := List.mem_map.mp hs
    exact h c hc e (List.mem_of_mem_filter he)

theorem render_candid (haudience : CandidAudience env) (hn : n.renderer.Candid) (value : Value)
    (viewName : String) : (n.render value viewName).Candid env := by
  intro context
  refine .bind .request fun r => .bind (announce_candid haudience _ _) fun rendering => ?_
  have hbody : Handling.Candid env fun _ =>
      n.renderer rendering.value ⟨n.name, viewName, some context, rendering.values⟩ := hn _ _
  exact .bind hbody fun body => .bind .request fun r => .bind (.modifyRequest _) fun _ => .pure _

end NamedRenderer

def ViewOptions.unwrapped (o : ViewOptions) : ViewOptions := { o with wrapper := none }

namespace DerivedView

variable {c : Components} {callable : Callable} {o : ViewOptions} {j j' : Journal}
  {d bare : DerivedView} {context : Resource} {env : Environment} {x : Exchange}
  {description : String} {view : ViewFunction}

theorem rendered_candid (haudience : NamedRenderer.CandidAudience env)
    (hchosen : ∀ c, env.components = some c → c.CandidRenderers) {renderer : Option NamedRenderer}
    (hrenderer : ∀ n, renderer = some n → n.renderer.Candid) {viewName : String}
    {mapped : MappedView} (hmapped : ∀ context, (mapped context).Candid env) :
    (rendered renderer viewName description mapped).Candid env := by
  intro context
  refine .bind (hmapped context) fun output => ?_
  split
  · exact .pure _
  · exact .throw rfl
  · next v usual =>
    refine .bind .request fun r => ?_
    split
    · exact NamedRenderer.render_candid haudience (hrenderer usual rfl) v viewName context
    · next name _ =>
      refine .bind_of_ok .components fun x c y hc => ?_
      have hcandid : c.CandidRenderers := hchosen c (Handling.components_ok hc)
      have hmaking : Handling.Candid env (Handling.reporting (c.renderer name none)) :=
        Effect.Candid.within (hcandid.making name none)
      refine hmaking.bind_of_ok fun x other y hother => ?_
      obtain ⟨t, hmade, -⟩ := Effect.within_iff.mp hother
      exact NamedRenderer.render_candid haudience (hcandid.made hmade) v viewName context

theorem cached_candid (h : view.Candid env) : (cached c o view).Candid env := by
  unfold cached
  split
  · exact fun context => .bind_read (.bind (h context) fun _ => .pure _)
  · exact h

/-! ## The wrapper -/

/-- The exchange as a wrapper finds it. -/
def handed (inner : Response) (y : Exchange) : Exchange :=
  { y with wrapped := some inner, wrappedBody := some inner.body }

def handOver (name description : String) (context : Resource) (env : Environment) :
    Except Error Response × Exchange → Except Error Response × Exchange
  | (.error e, y) => (.error e, y)
  | (.ok inner, y) =>
    match env.renderNamed context name true (handed inner y) with
    | (.ok (some response), z) => (.ok response, z)
    | (.ok none, z) =>
      (.error (.configuration ("No wrapper view named " ++ Text.quoted name
        ++ " found when executing view " ++ description)), z)
    | (.error e, z) => (.error e, z)

theorem wrapped_apply {name : String} (h : o.wrapper = some name) :
    wrapped o description view context env x =
      handOver name description context env (view context env x) := by
  rcases hview : view context env x with ⟨e | inner, y⟩
  · simp [wrapped, h, hview, handOver]
  · rcases hrender : env.renderNamed context name true (handed inner y) with ⟨e | _ | response, z⟩
    all_goals
      rw [handed] at hrender
      simp [wrapped, h, hview, handOver, handed, hrender]

/-- What is put around a view either ends before it or ends with it. -/
theorem gated_apply {check : Option (Resource → Request → Bool)} {view' : ViewFunction}
    {next : Except Error Response × Exchange → Except Error Response × Exchange}
    (hstop : ∀ (e : Error) (y : Exchange), next (Except.error e, y) = (Except.error e, y))
    (hview : ∀ x, view' context env x = next (view context env x)) :
    predicated o description (explained c o (secured check description view')) context env x =
      next (predicated o description (explained c o (secured check description view)) context env
        x) := by
  rw [predicated_apply, predicated_apply]
  split
  · rw [hstop]
  · simp only [explained_apply]
    cases check with
    | none => exact hview _
    | some may =>
        rw [secured_apply, secured_apply]
        split
        · exact hview _
        · rw [hstop]

theorem exists_unwrapped (h : derive c callable o j = (.ok d, j')) :
    ∃ bare, derive c callable o.unwrapped j = (.ok bare, j') ∧
      (o.wrapper = none → bare.call = d.call) ∧
      ∀ name, o.wrapper = some name → ∀ context env x,
        d.call context env x =
          handOver name (describe callable o) context env (bare.call context env x) := by
  obtain ⟨mapped, renderer, hmapped, hrenderer, rfl⟩ := derive_ok_iff.mp h
  have hbare : derive c callable o.unwrapped j =
      (.ok (assembled c callable o.unwrapped mapped renderer), j') :=
    derive_ok_iff.mpr ⟨mapped, renderer, hmapped, hrenderer, rfl⟩
  refine ⟨_, hbare, fun hnone => ?_, fun name hname context env x => ?_⟩
  · have hsame : o.unwrapped = o := by
      rw [ViewOptions.unwrapped, ← hnone]
    rw [hsame]
  · exact gated_apply (o := o) (fun _ _ => rfl) fun y => wrapped_apply hname

/-! ## When a view is passed over -/

/-- Nothing that a view runs fails because of predicates: neither its callable nor its decorator,
nor what may render its value. -/
structure Candid (c : Components) (callable : Callable) (o : ViewOptions) (env : Environment) :
    Prop where
  body : ∀ mapped, o.mapper.getD Callable.mapped callable o.attr = .ok mapped →
    ∀ context, (mapped context).Candid env
  decorator : ∀ view : ViewFunction, view.Candid env → (o.decorator.getD id view).Candid env
  /-- The renderers at the time when the view is made. -/
  renderers : c.CandidRenderers
  /-- Those from which a request may choose another one. -/
  chosen : ∀ c', env.components = some c' → c'.CandidRenderers
  audience : NamedRenderer.CandidAudience env

theorem renderer?_candid (hrenderers : c.CandidRenderers) {renderer : Option NamedRenderer}
    (h : renderer? c o j = (.ok renderer, j')) : ∀ n, renderer = some n → n.renderer.Candid := by
  rintro n rfl
  have hmade : ∀ name, (c.renderer name o.package >>= fun render =>
      pure (some ⟨name, render⟩) : Effect Journal (Option NamedRenderer)) j = (.ok (some n), j') →
        n.renderer.Candid := by
    intro name hrun
    obtain ⟨render, t, hmade, hpure⟩ := Effect.bind_ok_iff.mp hrun
    cases (Effect.pure_ok_iff.mp hpure).1
    exact hrenderers.made hmade
  cases ho : o.renderer with
  | some name =>
      rw [renderer?, ho] at h
      exact hmade name h
  | none =>
      rw [renderer?, ho] at h
      dsimp only at h
      split at h
      · exact hmade "" h
      · cases (Effect.pure_ok_iff.mp h).1

/-- A view without a wrapper does not decline where its predicates hold. -/
theorem not_declines_of_unwrapped (hbare : derive c callable o.unwrapped j = (.ok bare, j'))
    (hcandid : Candid c callable o env) (hholds : ¬ Refused o context x.toRequest) :
    ¬ bare.toView.Declines context env x := by
  rintro ⟨e, he, hmismatch⟩
  have hcall : (bare.call context env x).1 = .error e := he
  by_cases hdenied : Denied c o.unwrapped context (noted c o.unwrapped context x).toRequest
  · rw [call_of_denied hbare hholds hdenied] at hcall
    cases hcall
    cases hmismatch
  · rw [call_of_passed hbare hholds hdenied] at hcall
    obtain ⟨mapped, renderer, hmapped, hrenderer, hpermissive, -⟩ := derive_ok hbare
    have hpermitted : bare.permissive.Candid env := by
      rw [hpermissive]
      refine cached_candid (hcandid.decorator _ ?_)
      exact rendered_candid hcandid.audience hcandid.chosen
        (renderer?_candid hcandid.renderers hrenderer) (hcandid.body mapped hmapped)
    rw [hpermitted context _ e hcall] at hmismatch
    cases hmismatch

def WrapperDeclines (env : Environment) (context : Resource) (name : String) (y : Exchange) :
    Prop :=
  ∃ e, (env.renderNamed context name true y).1 = .error e ∧ e.isMismatch = true

theorem wrapperDeclines_iff {r : Registry} {now depth : Nat} {name : String} {y : Exchange} :
    WrapperDeclines (r.environmentWithin now (depth + 1)) context name y ↔
      ∃ v, r.lookupView? .viewClassifier y.type.order context.provided name = some v ∧
        v.Declines context (r.environmentWithin now depth) y := by
  have hrender : (r.environmentWithin now (depth + 1)).renderNamed context name true y =
      r.renderNamed context name true (r.environmentWithin now depth) y := rfl
  rw [WrapperDeclines, hrender, Registry.renderNamed_apply]
  cases r.lookupView? .viewClassifier y.type.order context.provided name with
  | none => simp
  | some v =>
      change (∃ e, (v.call context (r.environmentWithin now depth) y).1.map some = .error e ∧ _) ↔ _
      simp only [Option.some.injEq, exists_eq_left', View.Declines]
      rcases v.call context (r.environmentWithin now depth) y with ⟨e | response, z⟩
      · simp [Except.map]
      · simp [Except.map]

/-- What becomes of a view whose predicates hold for a request, next to the same view without a
wrapper. -/
structure Accepts (callable : Callable) (o : ViewOptions) (d bare : DerivedView)
    (context : Resource) (env : Environment) (x : Exchange) : Prop where
  /-- Without a wrapper it does not decline. -/
  body : ¬ bare.toView.Declines context env x
  unwrapped : o.wrapper = none → d.call context env x = bare.call context env x
  /-- With one it declines if the wrapper does, to which it hands its response. -/
  wrapped : ∀ name, o.wrapper = some name →
    (d.toView.Declines context env x ↔
      ∃ inner y, bare.call context env x = (.ok inner, y) ∧
        WrapperDeclines env context name (handed inner y))
  /-- The wrapper is the view of the first occupied slot of its name, called one level deeper. -/
  wrapper : ∀ (r : Registry) now depth name y, env = r.environmentWithin now (depth + 1) →
    (WrapperDeclines env context name y ↔
      ∃ v, r.lookupView? .viewClassifier y.type.order context.provided name = some v ∧
        v.Declines context (r.environmentWithin now depth) y)
  /-- If it does not decline, no other view is called. -/
  final : ¬ d.toView.Declines context env x → ∀ refusal before rest last,
    (∀ u ∈ before, u.refuses context x.toRequest) →
      View.callFirst refusal context (before ++ d.toView :: rest) last env x =
        ((d.call context env x).1.map .inl, (d.call context env x).2)
  /-- If it does, the next ones are called. -/
  passed_over : ∀ e y, d.call context env x = (.error e, y) → e.isMismatch = true →
    ∀ refusal before rest last, (∀ u ∈ before, u.refuses context x.toRequest) →
      View.callFirst refusal context (before ++ d.toView :: rest) last env x =
        View.callFirst refusal context rest (some e) env y

theorem declines_handOver_iff {name : String} {e : Error}
    {result : Except Error Response × Exchange}
    (hresult : ∀ e, result.1 = .error e → e.isMismatch = false) (he : e.isMismatch = true) :
    (handOver name description context env result).1 = .error e ↔
      ∃ inner y, result = (.ok inner, y) ∧
        (env.renderNamed context name true (handed inner y)).1 = .error e := by
  rcases result with ⟨f | inner, y⟩
  · constructor
    · intro hfails
      cases hfails
      rw [hresult e rfl] at he
      cases he
    · rintro ⟨inner, z, hok, -⟩
      cases hok
  · rw [handOver]
    constructor
    · intro hfails
      refine ⟨inner, y, rfl, ?_⟩
      rcases hrun : env.renderNamed context name true (handed inner y) with ⟨f | _ | response, z⟩
      · rw [hrun] at hfails
        cases hfails
        rfl
      · rw [hrun] at hfails
        cases hfails
        cases he
      · rw [hrun] at hfails
        cases hfails
    · rintro ⟨inner', z, hok, hfails⟩
      cases hok
      rcases hrun : env.renderNamed context name true (handed inner y) with ⟨f | found, z⟩
      · rw [hrun] at hfails
        cases hfails
        rfl
      · rw [hrun] at hfails
        cases hfails

/-- **A view whose predicates hold is passed over for its wrapper.** Let nothing that the view runs
fail because of predicates. Without a wrapper it does not decline. With one it declines exactly
where it has answered and the wrapper declines what it is handed, be it that the predicates of the
wrapper refuse the request. Then the next views are called, though this one has run; in all other
cases it is the last one that is called. -/
theorem declines_iff_wrapper_declines (h : derive c callable o j = (.ok d, j'))
    (hcandid : Candid c callable o env) (hholds : ¬ Refused o context x.toRequest) :
    ∃ bare, derive c callable o.unwrapped j = (.ok bare, j') ∧
      Accepts callable o d bare context env x := by
  obtain ⟨bare, hbare, hsame, hnext⟩ := exists_unwrapped h
  have hbody : ¬ bare.toView.Declines context env x :=
    not_declines_of_unwrapped hbare hcandid hholds
  have hrefuses : ¬ d.toView.refuses context x.toRequest := mt (refuses_iff h).mp hholds
  refine ⟨bare, hbare, hbody, fun hnone => by rw [hsame hnone], fun name hname => ?_, ?_, ?_, ?_⟩
  · have hresult : ∀ e, (bare.call context env x).1 = .error e → e.isMismatch = false :=
      fun e he => Bool.not_eq_true _ ▸ fun hmismatch => hbody ⟨e, he, hmismatch⟩
    have hcall : d.toView.call context env x =
      handOver name (describe callable o) context env (bare.call context env x) :=
      hnext name hname context env x
    rw [View.Declines, hcall]
    constructor
    · rintro ⟨e, he, hmismatch⟩
      obtain ⟨inner, y, hok, hfails⟩ := (declines_handOver_iff hresult hmismatch).mp he
      exact ⟨inner, y, hok, e, hfails, hmismatch⟩
    · rintro ⟨inner, y, hok, e, hfails, hmismatch⟩
      exact ⟨e, (declines_handOver_iff hresult hmismatch).mpr ⟨inner, y, hok, hfails⟩, hmismatch⟩
  · rintro r now depth name y rfl
    exact wrapperDeclines_iff
  · exact fun hfinal refusal before rest last hbefore =>
      View.callFirst_of_not_declines hbefore hrefuses hfinal rest last
  · exact fun e y hcall he refusal before rest last hbefore =>
      View.callFirst_of_declines hbefore hrefuses hcall he rest last

def framed : Registry :=
  (Registry.empty "framed").addView ⟨.viewClassifier, .request, .any, "frame"⟩ Registry.refusing

def inFrame : ViewOptions := { wrapper := some "frame" }

def answering (text : String) : Callable := .requestFunction (return .response (.ofText text))

theorem candid_inFrame :
    Candid framed.toComponents (answering "first") inFrame (framed.environmentWithin 0 1) where
  body mapped hmapped := by
    cases hmapped
    exact fun _ => .pure _
  decorator _ hview := hview
  renderers _ _ hget := nomatch hget
  chosen c' hc' _ _ hget := by
    cases hc'
    cases hget
  audience c' hc' := by
    cases hc'
    exact fun _ he => nomatch he

theorem not_refused_inFrame {r : Request} : ¬ Refused inFrame context r :=
  fun ⟨_, hp, _⟩ => nomatch hp

/-- Without its wrapper the view answers; the wrapper declines what it is handed. -/
theorem declines_iff_wrapper_declines_framed :
    ∃ d, derive framed.toComponents (answering "first") inFrame [] = (.ok d, []) ∧
      d.toView.Declines (.defaultRoot none) (framed.environmentWithin 0 1) {} := by
  have hderive : derive framed.toComponents (answering "first") inFrame [] = (.ok _, []) := rfl
  obtain ⟨bare, hbare, haccepts⟩ :=
    @declines_iff_wrapper_declines _ _ _ _ _ _ (.defaultRoot none) _ {} hderive candid_inFrame
      not_refused_inFrame
  cases hbare
  have hfails : WrapperDeclines (framed.environmentWithin 0 1) (.defaultRoot none) "frame"
      (handed (.ofText "first") {}) := ⟨.predicateMismatch "refusing", rfl, rfl⟩
  exact ⟨_, hderive, (haccepts.wrapped "frame" rfl).mpr ⟨_, _, rfl, hfails⟩⟩

/-- The first view runs, and the answer is that of the second one. -/
theorem second_called_behind_frame :
    ∃ first second, derive framed.toComponents (answering "first") inFrame [] = (.ok first, []) ∧
      derive framed.toComponents (answering "second") {} [] = (.ok second, []) ∧
      Candid framed.toComponents (answering "first") inFrame (framed.environmentWithin 0 1) ∧
      ¬ Refused inFrame (.defaultRoot none) {} ∧
      first.toView.Declines (.defaultRoot none) (framed.environmentWithin 0 1) {} ∧
      (View.callFirst (fun v => .predicateMismatch v.description) (.defaultRoot none)
        [first.toView, second.toView] none (framed.environmentWithin 0 1) {}).1 =
          .ok (.inl (.ofText "second")) :=
  ⟨_, _, rfl, rfl, candid_inFrame, not_refused_inFrame,
    ⟨.predicateMismatch "refusing", rfl, rfl⟩, rfl⟩

end DerivedView

end WebDispatch
