import WebDispatch.Proofs.View.Selection

/-!
# Who gets through to a view

A derived view asks its predicates first and the policies second, and only then runs what it was
made from. All that it asks by is fixed when it is derived: the policies, the default permission
and the options. What it tells those who ask without calling it is the same decision.

* `Denied` — the policies deny the permission that a view asks for;
* `noted` — the exchange with the decision on access put into words;
* `call_of_refused`, `call_of_denied`, `call_of_passed` — the three outcomes of a call;
* `gates_of_derive` — a derived view, as those see it who call it or ask it.
-/

namespace WebDispatch

open WebDispatch.Http (Response)

/-- The factory of a renderer is looked up by the kind of its name. -/
theorem Components.renderer_eq (c : Components) (name : String) (package : Option String) :
    c.renderer name package =
      match c.renderers.get? (rendererKind name) with
      | some make => make ⟨name, package, c.name⟩
      | none => throw (.configuration ("No such renderer factory " ++ rendererKind name)) := rfl

namespace DerivedView

variable {c : Components} {o : ViewOptions} {context : Resource} {env : Environment}
  {x : Exchange} {description : String} {view : ViewFunction}

/-! ## The decision -/

/-- A view asks for a permission: its own, or the default one where it declares none. Views that
anyone may call ask for none. -/
def AsksFor (c : Components) (o : ViewOptions) (p : String) : Prop :=
  (o.permission = some p ∨ o.permission = none ∧ c.defaultPermission = some p) ∧
    p ≠ noPermissionRequired

/-- The policies deny the permission that a view asks for to the sender of a request. -/
def Denied (c : Components) (o : ViewOptions) (context : Resource) (r : Request) : Prop :=
  ∃ who may p, c.authentication = some who ∧ c.authorization = some may ∧ AsksFor c o p ∧
    may.permits context (who.principals r) p = false

def Refused (o : ViewOptions) (context : Resource) (r : Request) : Prop :=
  ∃ p ∈ o.predicates, p.holds context r = false

/-- The exchange with the decision on access put into words, where the settings ask for that. -/
def noted (c : Components) (o : ViewOptions) (context : Resource) (x : Exchange) : Exchange :=
  if c.settings.debugAuthorization then
    { x.report .debug "cornice::views" (explanation c o context x.toRequest) with
      accessReason := some (explanation c o context x.toRequest) }
  else x

theorem asksFor_iff {p : String} :
    AsksFor c o p ↔ permission c o = some p ∧ p ≠ noPermissionRequired := by
  unfold AsksFor permission
  rcases o.permission with _ | q <;> simp

/-- Whether the sender is asked at all, and what the answer is. -/
theorem check?_denies_iff {r : Request} :
    (∃ may, check? c o = some may ∧ may context r = false) ↔ Denied c o context r := by
  simp only [Denied, asksFor_iff]
  constructor
  · rintro ⟨check, hcheck, hdenies⟩
    unfold check? at hcheck
    split at hcheck
    · next who may p hwho hmay hp =>
        split at hcheck
        · cases hcheck
        · next hasked =>
            cases hcheck
            exact ⟨who, may, p, hwho, hmay, ⟨hp, hasked⟩, hdenies⟩
    · cases hcheck
  · rintro ⟨who, may, p, hwho, hmay, ⟨hp, hasked⟩, hdenies⟩
    refine ⟨fun context r => may.permits context (who.principals r) p, ?_, hdenies⟩
    simp only [check?, hwho, hmay, hp, if_neg hasked]

/-- Putting the decision into words changes nothing but the reason that the request carries. -/
theorem noted_eq (c : Components) (o : ViewOptions) (context : Resource) (x : Exchange) :
    ∃ reason reports,
      noted c o context x =
        { x with accessReason := reason, journal := x.journal ++ reports } := by
  unfold noted
  split
  · exact ⟨_, _, rfl⟩
  · exact ⟨x.accessReason, [], by rw [List.append_nil]⟩

/-- Senders who are known by the same principals are told the same. -/
theorem denied_congr {r r' : Request}
    (h : ∀ who, c.authentication = some who → who.principals r = who.principals r') :
    Denied c o context r ↔ Denied c o context r' := by
  constructor
  · rintro ⟨who, may, p, hwho, hmay, hp, hdenies⟩
    exact ⟨who, may, p, hwho, hmay, hp, h who hwho ▸ hdenies⟩
  · rintro ⟨who, may, p, hwho, hmay, hp, hdenies⟩
    exact ⟨who, may, p, hwho, hmay, hp, (h who hwho).symm ▸ hdenies⟩

/-! ## The steps -/

@[simp] theorem explained_apply :
    explained c o view context env x = view context env (noted c o context x) := by
  unfold explained noted
  split
  · rfl
  · rfl

theorem predicated_apply :
    predicated o description view context env x =
      match o.predicates.find? fun p => !p.holds context x.toRequest with
      | some p => (.error (.predicateMismatch ("predicate mismatch for view " ++ description
          ++ " (" ++ p.text ++ ")")), x)
      | none => view context env x := by
  cases h : o.predicates.find? fun p => !p.holds context x.toRequest <;> simp [predicated, h]

theorem refused_iff {r : Request} :
    Refused o context r ↔ ∃ p, (o.predicates.find? fun p => !p.holds context r) = some p := by
  rw [← Option.isSome_iff_exists, List.find?_isSome]
  simp only [Refused, Bool.not_eq_true']

theorem predicated_of_not_refused (h : ¬ Refused o context x.toRequest) :
    predicated o description view context env x = view context env x := by
  rw [refused_iff, ← Option.isSome_iff_exists, Option.not_isSome_iff_eq_none] at h
  rw [predicated_apply, h]

theorem secured_apply (may : Resource → Request → Bool) :
    secured (some may) description view context env x =
      if may context x.toRequest then view context env x
      else (.error (.forbidden (x.accessReason.getD
        ("Unauthorized: " ++ description ++ " failed permission check"))), x) := by
  by_cases h : may context x.toRequest <;> simp [secured, h]

theorem secured_of_denied (h : Denied c o context x.toRequest) :
    secured (check? c o) description view context env x =
      (.error (.forbidden (x.accessReason.getD
        ("Unauthorized: " ++ description ++ " failed permission check"))), x) := by
  obtain ⟨may, hcheck, hdenies⟩ := check?_denies_iff.mpr h
  rw [hcheck, secured_apply, hdenies, if_neg Bool.false_ne_true]

theorem secured_of_not_denied (h : ¬ Denied c o context x.toRequest) :
    secured (check? c o) description view context env x = view context env x := by
  cases hcheck : check? c o with
  | none => rfl
  | some may =>
      rw [secured_apply, if_pos]
      rw [← Bool.not_eq_false]
      exact fun hdenies => h (check?_denies_iff.mp ⟨may, hcheck, hdenies⟩)

theorem rendered_of_response {mapped : MappedView} {response : Response} {y : Exchange}
    (h : mapped context env x = (.ok (.response response), y))
    (renderer : Option NamedRenderer) (name : String) :
    rendered renderer name description mapped context env x = (.ok response, y) := by
  simp [rendered, h]

theorem rendered_of_error {mapped : MappedView} {e : Error} {y : Exchange}
    (h : mapped context env x = (.error e, y)) (renderer : Option NamedRenderer) (name : String) :
    rendered renderer name description mapped context env x = (.error e, y) := by
  simp [rendered, h]

/-- A response with the caching fields that are declared, unless the settings forbid these. -/
def withCaching (c : Components) (o : ViewOptions) (now : Nat) (response : Response) : Response :=
  if c.settings.preventHttpCache then response
  else (o.httpCache.map fun cache => cache.apply now response).getD response

@[simp] theorem cached_apply :
    cached c o view context env x =
      ((view context env x).1.map (withCaching c o env.now), (view context env x).2) := by
  have hsame : (view context env x).1.map (fun response => response) = (view context env x).1 := by
    cases (view context env x).1 <;> rfl
  unfold cached withCaching
  cases c.settings.preventHttpCache with
  | true => exact Prod.ext hsame.symm rfl
  | false =>
    cases o.httpCache with
    | none => exact Prod.ext hsame.symm rfl
    | some cache => exact Handling.bind_pure_apply (view context) (cache.apply env.now) env x

/-! ## The view as a whole -/

section Derived

variable {callable : Callable} {j j' : Journal} {d : DerivedView}

/-- The view that is made once the callable has been mapped and its renderer found. -/
def assembled (c : Components) (callable : Callable) (o : ViewOptions) (mapped : MappedView)
    (renderer : Option NamedRenderer) : DerivedView :=
  let description := describe callable o
  let permissive := wrapped o description
    (cached c o (o.decorator.getD id (rendered renderer o.name description mapped)))
  { description := description
    call := predicated o description (explained c o (secured (check? c o) description permissive))
    permissive := permissive
    predicates := o.predicates
    permitted := check? c o
    accept := o.accept
    order := o.order
    phash := o.phash }

theorem derive_ok_iff :
    derive c callable o j = (.ok d, j') ↔
      ∃ mapped renderer, o.mapper.getD Callable.mapped callable o.attr = .ok mapped ∧
        renderer? c o j = (.ok renderer, j') ∧ assembled c callable o mapped renderer = d := by
  simp only [derive, Effect.bind_ok_iff, Effect.ofExcept_ok_iff, Effect.pure_ok_iff]
  constructor
  · rintro ⟨mapped, t, ⟨hmapped, rfl⟩, renderer, t, hrenderer, rfl, rfl⟩
    exact ⟨mapped, renderer, hmapped, hrenderer, rfl⟩
  · rintro ⟨mapped, renderer, hmapped, hrenderer, rfl⟩
    exact ⟨mapped, j, ⟨hmapped, rfl⟩, renderer, j', hrenderer, rfl, rfl⟩

/-- What a view consists of. -/
theorem derive_ok (h : derive c callable o j = (.ok d, j')) :
    ∃ mapped renderer, o.mapper.getD Callable.mapped callable o.attr = .ok mapped ∧
      renderer? c o j = (.ok renderer, j') ∧
      d.permissive = wrapped o (describe callable o) (cached c o (o.decorator.getD id
        (rendered renderer o.name (describe callable o) mapped))) ∧
      d.call = predicated o (describe callable o)
        (explained c o (secured (check? c o) (describe callable o) d.permissive)) ∧
      d.permitted = check? c o := by
  obtain ⟨mapped, renderer, hmapped, hrenderer, rfl⟩ := derive_ok_iff.mp h
  exact ⟨mapped, renderer, hmapped, hrenderer, rfl, rfl, rfl⟩

theorem predicates_of_derive (h : derive c callable o j = (.ok d, j')) :
    d.predicates = o.predicates := by
  obtain ⟨mapped, renderer, -, -, rfl⟩ := derive_ok_iff.mp h
  rfl

theorem call_of_refused (h : derive c callable o j = (.ok d, j'))
    (hrefused : Refused o context x.toRequest) :
    ∃ p ∈ o.predicates, p.holds context x.toRequest = false ∧
      d.call context env x =
        (.error (.predicateMismatch ("predicate mismatch for view " ++ describe callable o ++ " ("
          ++ p.text ++ ")")), x) := by
  obtain ⟨-, -, -, -, -, hcall, -⟩ := derive_ok h
  obtain ⟨p, hfound⟩ := refused_iff.mp hrefused
  refine ⟨p, List.mem_of_find?_eq_some hfound, by simpa using List.find?_some hfound, ?_⟩
  rw [hcall, predicated_apply, hfound]

theorem call_of_denied (h : derive c callable o j = (.ok d, j'))
    (hholds : ¬ Refused o context x.toRequest)
    (hdenied : Denied c o context (noted c o context x).toRequest) :
    d.call context env x =
      (.error (.forbidden ((noted c o context x).accessReason.getD
        ("Unauthorized: " ++ describe callable o ++ " failed permission check"))),
        noted c o context x) := by
  obtain ⟨-, -, -, -, -, hcall, -⟩ := derive_ok h
  rw [hcall, predicated_of_not_refused hholds, explained_apply, secured_of_denied hdenied]

theorem call_of_passed (h : derive c callable o j = (.ok d, j'))
    (hholds : ¬ Refused o context x.toRequest)
    (hallowed : ¬ Denied c o context (noted c o context x).toRequest) :
    d.call context env x = d.permissive context env (noted c o context x) := by
  obtain ⟨-, -, -, -, -, hcall, -⟩ := derive_ok h
  rw [hcall, predicated_of_not_refused hholds, explained_apply, secured_of_not_denied hallowed]

theorem permitted_eq_false_iff (h : derive c callable o j = (.ok d, j')) {r : Request} :
    d.toView.permitted context r = false ↔ Denied c o context r := by
  obtain ⟨-, -, -, -, -, -, hpermitted⟩ := derive_ok h
  rw [← check?_denies_iff, ← hpermitted]
  change d.permitted.all (fun may => may context r) = false ↔ _
  cases d.permitted <;> simp

/-- Messages name a view by the shape of its callable, whatever that does. -/
theorem describe_congr {callable' : Callable} (h : callable'.shape = callable.shape) :
    describe callable' o = describe callable o := by
  simp only [describe, Callable.description, h]

end Derived

/-- A view, as those see it who call it or ask it, with the components and the options that were
there when it was derived. -/
structure Gates (c : Components) (o : ViewOptions) (callable : Callable) (d : DerivedView) :
    Prop where
  /-- What is behind the gates: the callable with what the options put around it. -/
  inside : ∃ mapped renderer j j',
    o.mapper.getD Callable.mapped callable o.attr = .ok mapped ∧
    renderer? c o j = (.ok renderer, j') ∧
    d.permissive = wrapped o (describe callable o) (cached c o (o.decorator.getD id
      (rendered renderer o.name (describe callable o) mapped)))
  /-- With neither decorator nor wrapper, that is the response of the mapped callable with the
  caching fields that are declared, or its failure. -/
  plain : o.decorator = none → o.wrapper = none → ∀ mapped,
    o.mapper.getD Callable.mapped callable o.attr = .ok mapped → ∀ context env x,
      (∀ response y, mapped context env x = (.ok (.response response), y) →
        d.permissive context env x = (.ok (withCaching c o env.now response), y)) ∧
      ∀ e y, mapped context env x = (.error e, y) → d.permissive context env x = (.error e, y)
  /-- Where a predicate does not hold, the call is a mismatch and leaves everything as it is. -/
  refused : ∀ context env x, Refused o context x.toRequest →
    ∃ text, d.call context env x = (.error (.predicateMismatch text), x)
  /-- Where access is denied, the call says so and leaves at most the reason. -/
  denied : ∀ context env x, ¬ Refused o context x.toRequest →
    Denied c o context (noted c o context x).toRequest →
    ∃ text, d.call context env x = (.error (.forbidden text), noted c o context x)
  /-- Otherwise the call is what is behind the gates. -/
  passed : ∀ context env x, ¬ Refused o context x.toRequest →
    ¬ Denied c o context (noted c o context x).toRequest →
    d.call context env x = d.permissive context env (noted c o context x)
  /-- A callable behind closed gates does not run: with any other in its place, the call is the
  same. -/
  idle : ∀ (callable' : Callable) (j j' : Journal) (d' : DerivedView),
    callable'.shape = callable.shape → derive c callable' o j = (.ok d', j') →
    ∀ context env x, Refused o context x.toRequest ∨
        Denied c o context (noted c o context x).toRequest →
      d'.call context env x = d.call context env x
  /-- The reason for the decision is all that the gates add to the request, and nothing is added
  unless the settings ask for it. -/
  reason : ∀ context x,
    (∃ reason reports, noted c o context x =
      { x with accessReason := reason, journal := x.journal ++ reports }) ∧
    (c.settings.debugAuthorization = false → noted c o context x = x)
  /-- The decision does not hang on the reason, unless the policies read it. -/
  decision : ∀ context x,
    (∀ who, c.authentication = some who →
      who.principals (noted c o context x).toRequest = who.principals x.toRequest) →
    (Denied c o context (noted c o context x).toRequest ↔ Denied c o context x.toRequest)
  /-- Those who ask are told the decision of the policies, whatever the predicates say. -/
  permitted : ∀ context r, d.toView.permitted context r = false ↔ Denied c o context r

/-- **Nothing gets past the gates of a view.** A derived view runs what it was made from only
where all its predicates hold and the policies do not deny the permission it asks for. -/
theorem gates_of_derive {c : Components} {o : ViewOptions} {callable : Callable} {j j' : Journal}
    {d : DerivedView} (h : derive c callable o j = (.ok d, j')) : Gates c o callable d where
  inside := by
    obtain ⟨mapped, renderer, hmapped, hrenderer, hpermissive, -⟩ := derive_ok h
    exact ⟨mapped, renderer, j, j', hmapped, hrenderer, hpermissive⟩
  plain hdecorator hwrapper mapped hmapped context env x := by
    obtain ⟨mapped', renderer, hmapped', -, hpermissive, -⟩ := derive_ok h
    obtain rfl : mapped = mapped' := Except.ok.inj (hmapped.symm.trans hmapped')
    have hplain : d.permissive =
        cached c o (rendered renderer o.name (describe callable o) mapped) := by
      rw [hpermissive, hdecorator, wrapped, hwrapper]
      rfl
    rw [hplain, cached_apply]
    constructor
    · intro response y hresponse
      rw [rendered_of_response hresponse]
      rfl
    · intro e y herror
      rw [rendered_of_error herror]
      rfl
  refused context env x hrefused := by
    obtain ⟨p, hp, hfails, hcall⟩ := call_of_refused h hrefused
    exact ⟨_, hcall⟩
  denied context env x hholds hdenied := ⟨_, call_of_denied h hholds hdenied⟩
  passed context env x hholds hallowed := call_of_passed h hholds hallowed
  idle callable' j₁ j₂ d' hshape h' context env x hgates := by
    obtain ⟨-, -, -, -, -, hcall, -⟩ := derive_ok h
    obtain ⟨-, -, -, -, -, hcall', -⟩ := derive_ok h'
    -- closed gates answer by themselves, and read nothing of what is behind them
    rw [hcall, hcall', describe_congr hshape]
    by_cases hrefused : Refused o context x.toRequest
    · obtain ⟨p, hfound⟩ := refused_iff.mp hrefused
      rw [predicated_apply, predicated_apply, hfound]
    · have hdenied := hgates.resolve_left hrefused
      rw [predicated_of_not_refused hrefused, predicated_of_not_refused hrefused,
        explained_apply, explained_apply, secured_of_denied hdenied, secured_of_denied hdenied]
  reason context x := by
    refine ⟨noted_eq c o context x, fun hquiet => ?_⟩
    rw [noted, hquiet]
    rfl
  decision context x hsame := denied_congr hsame
  permitted context r := permitted_eq_false_iff h

/-- An application that knows its users by a header field and lets only them do anything. -/
def membersOnly : Components where
  name := "members"
  authentication := some { principals := fun r => (r.header? "x-user").toList }
  authorization := some { permits := fun _ principals _ => !principals.isEmpty }
  defaultPermission := some "use"

def postOnly : ViewOptions := { predicates := [.requestMethod ["POST"]] }

def anonymousPost : Exchange := { method := "POST" }

/-- The predicate holds, and the default permission is denied. -/
theorem gates_of_membersOnly :
    ∃ d, derive membersOnly (.requestFunction (return .response {})) postOnly [] = (.ok d, []) ∧
      Gates membersOnly postOnly (.requestFunction (return .response {})) d ∧
      ∃ text, d.call (.defaultRoot none) {} anonymousPost =
        (.error (.forbidden text), anonymousPost) := by
  have hgates : Gates membersOnly postOnly (.requestFunction (return .response {})) _ :=
    gates_of_derive (j := []) rfl
  have hquiet : noted membersOnly postOnly (.defaultRoot none) anonymousPost = anonymousPost :=
    (hgates.reason _ _).2 rfl
  have hholds : ¬ Refused postOnly (.defaultRoot none) anonymousPost.toRequest := by
    rintro ⟨p, hp, hfails⟩
    rw [List.mem_singleton.mp hp] at hfails
    cases hfails
  have hdenied : Denied membersOnly postOnly (.defaultRoot none) anonymousPost.toRequest :=
    ⟨_, _, "use", rfl, rfl, ⟨Or.inr ⟨rfl, rfl⟩, by decide⟩, rfl⟩
  have hcall := hgates.denied (.defaultRoot none) {} anonymousPost hholds
  rw [hquiet] at hcall
  exact ⟨_, rfl, hgates, hcall hdenied⟩

end DerivedView

end WebDispatch
