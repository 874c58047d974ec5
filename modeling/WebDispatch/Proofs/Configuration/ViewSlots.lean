import WebDispatch.Proofs.Effect
import WebDispatch.Proofs.Ledger.Groups
import WebDispatch.Configuration.Perform

/-!
# What views compete for

A declared view is known in the ledger by texts: how its context and its route are shown, its
name and the digest of its predicates. On commit it is stored in a slot, which is made of the
interfaces themselves. The texts leave the kind of the view out, and they show a view without a
route like one for a route named `None` and two interfaces of one name alike. Apart from that the
two agree: what meets in the ledger belongs into slots of the same place, and has the same
predicates.

* `Records` — a declaration adds an action to the ledger; `action_of_records` — which action;
* `stores_slot` — what the action does.
-/

namespace WebDispatch

open Effect

namespace RouteTable

/-- The table that results from connecting routes one after the other. -/
def ofRoutes (routes : List Route) : RouteTable := routes.foldl connect {}

/-- A route is found under its own name. -/
theorem name_of_get?_ofRoutes {routes : List Route} {name : String} {r : Route}
    (h : (ofRoutes routes).get? name = some r) : r.name = name := by
  induction routes using List.reverseRecOn with
  | nil => cases h
  | append_singleton routes q ih =>
      rw [ofRoutes, List.foldl_append] at h
      simp only [List.foldl_cons, List.foldl_nil, get?_connect] at h
      split at h
      · next hq => exact (Option.some.inj h) ▸ hq
      · exact ih h

end RouteTable

namespace Interface

@[simp] theorem ofRoute_inj {r₁ r₂ : String} : ofRoute r₁ = ofRoute r₂ ↔ r₁ = r₂ := by
  rw [ofRoute, ofRoute, named.injEq, String.append_left_inj]

theorem ofRoute_ne_request (r : String) : ofRoute r ≠ request := nofun

end Interface

namespace Configurator

variable {d d₁ d₂ : Declaration} {a a₁ a₂ : Action} {k k₁ k₂ : ViewKind} {c c₁ c₂ : ViewConfig}

/-! ## Declarations of views -/

/-- The view that a declaration is about, with its kind and with the context that its kind
gives it. -/
def declaredView? : Declaration → Option (ViewKind × ViewConfig)
  | .view c => some (.ordinary, c)
  | .exceptionView c =>
    some (.exceptional, { c with context := some (c.context.getD .exception) })
  | .notFoundView c => some (.exceptional, { c with context := some .notFound })
  | .forbiddenView c => some (.exceptional, { c with context := some .forbidden })
  | _ => none

def contextOf (c : ViewConfig) : Interface := c.context.getD .any

def requestOf (c : ViewConfig) : Interface := (c.routeName.map Interface.ofRoute).getD .request

def slotOf (k : ViewKind) (c : ViewConfig) : ViewKey :=
  ⟨k.classifier, requestOf c, contextOf c, c.name⟩

def phashOf (c : ViewConfig) : Option String :=
  c.predicates.compile.toOption.map PredicateSet.phash

/-- A declaration, made where actions are recorded, adds an action to the ledger. -/
def Records (d : Declaration) (a : Action) : Prop :=
  ∃ (site : Site) (s s' : Configurator), s.autocommit = false ∧
    declare site d s = (.ok (), s') ∧ s'.actions = s.actions ++ [a]

/-- An action as it is recorded for a view: the texts by which the view is known, and that it is
to be stored. -/
structure IsActionOf (k : ViewKind) (c : ViewConfig) (a : Action) : Prop where
  discriminator : ∃ set, c.predicates.compile = .ok set ∧
    a.discriminator = some (viewDiscriminator c (contextOf c) set.phash)
  perform : ∃ (callable : Callable) (o : ViewOptions), o.name = c.name ∧
    a.perform = some (storeView k (contextOf c) c.routeName callable o)

theorem act_ok {site : Site} {discriminator : Option Discriminator}
    {perform : Option (Effect Setup Unit)} {order : Int} {items : List Introspectable}
    {s s' : Configurator} (hs : s.autocommit = false)
    (h : act site discriminator perform order items s = (.ok (), s')) :
    s'.actions = s.actions ++ [⟨discriminator, perform, order, s.includePath, site, items⟩] := by
  rw [act_deferred hs] at h
  cases h
  rfl

theorem callableOf_ok {callable : Callable} {s s' : Configurator}
    (h : callableOf c s = (.ok callable, s')) : s = s' := by
  unfold callableOf at h
  cases hv : c.view with
  | some v =>
      rw [hv] at h
      obtain ⟨t, u, ht, h⟩ := bind_ok_iff.mp h
      obtain ⟨rfl, rfl⟩ := get_ok_iff.mp ht
      exact (ofExcept_ok_iff.mp h).2
  | none =>
      rw [hv] at h
      by_cases hr : c.renderer.isSome = true
      · simp only [if_pos hr] at h
        exact (pure_ok_iff.mp h).2
      · simp only [if_neg hr] at h
        simp at h

theorem refuseOptions_ok {method : String} {fixedContext : Bool} {s s' : Configurator}
    (h : refuseOptions c method fixedContext s = (.ok (), s')) : s = s' := by
  unfold refuseOptions at h
  cases ho : refusedOptions c fixedContext with
  | nil =>
      rw [ho] at h
      exact (pure_ok_iff.mp h).2
  | cons option rest =>
      rw [ho] at h
      simp at h

theorem addViewOf_ok {site : Site} {s s' : Configurator} (hs : s.autocommit = false)
    (h : addViewOf k site c s = (.ok (), s')) :
    ∃ a, IsActionOf k c a ∧ s'.actions = s.actions ++ [a] := by
  obtain ⟨callable, t, hcallable, h⟩ := bind_ok_iff.mp h
  cases callableOf_ok hcallable
  obtain ⟨set, t, hcompile, h⟩ := bind_ok_iff.mp h
  obtain ⟨hset, rfl⟩ := ofExcept_ok_iff.mp hcompile
  obtain ⟨t, u, ht, h⟩ := bind_ok_iff.mp h
  obtain ⟨rfl, rfl⟩ := get_ok_iff.mp ht
  exact ⟨_, ⟨⟨set, hset, rfl⟩, ⟨callable, _, rfl, rfl⟩⟩, act_ok hs h⟩

/-- Each of the ways to declare a view records one action for it. -/
theorem declare_ok {site : Site} {s s' : Configurator} (hd : declaredView? d = some (k, c))
    (hs : s.autocommit = false) (h : declare site d s = (.ok (), s')) :
    ∃ a, IsActionOf k c a ∧ s'.actions = s.actions ++ [a] := by
  cases d with
  | view c' =>
      cases hd
      exact addViewOf_ok hs h
  | exceptionView c' =>
      cases hd
      obtain ⟨u, t, hoptions, h⟩ := bind_ok_iff.mp h
      cases refuseOptions_ok hoptions
      exact addViewOf_ok hs h
  | notFoundView c' =>
      cases hd
      obtain ⟨u, t, hoptions, h⟩ := bind_ok_iff.mp h
      cases refuseOptions_ok hoptions
      exact addViewOf_ok hs h
  | forbiddenView c' =>
      cases hd
      obtain ⟨u, t, hoptions, h⟩ := bind_ok_iff.mp h
      cases refuseOptions_ok hoptions
      exact addViewOf_ok hs h
  | _ => cases hd

theorem action_of_records (h : Records d a) (hd : declaredView? d = some (k, c)) :
    IsActionOf k c a := by
  obtain ⟨site, s, s', hs, hdeclare, hactions⟩ := h
  obtain ⟨b, hb, hactions'⟩ := declare_ok hd hs hdeclare
  rw [hactions] at hactions'
  cases List.append_cancel_left hactions'
  exact hb

/-! ## What the action does -/

/-- Carrying out an action, where that succeeds, fills one slot and leaves all others as they
are. -/
def Stores (a : Action) (key : ViewKey) : Prop :=
  ∀ s s' : Setup, (∀ t, s.registry.routes = some t → ∃ routes, t = RouteTable.ofRoutes routes) →
    a.execute s = (.ok (), s') →
      ∃ content, s'.registry.views = s.registry.views.insert key content

theorem requestInterface_ok {r : Registry} {request : Interface}
    (hr : ∀ t, r.routes = some t → ∃ routes, t = RouteTable.ofRoutes routes)
    (h : requestInterface r c.routeName = .ok request) : request = requestOf c := by
  unfold requestOf
  cases hroute : c.routeName with
  | none =>
      rw [hroute] at h
      exact (Except.ok.inj h).symm
  | some name =>
      rw [hroute] at h
      simp only [requestInterface] at h
      split at h
      · next route hfound =>
          obtain ⟨t, ht, hget⟩ := Option.bind_eq_some_iff.mp hfound
          obtain ⟨routes, rfl⟩ := hr t ht
          rw [← Except.ok.inj h, Option.map_some, Option.getD_some,
            ← RouteTable.name_of_get?_ofRoutes hget]
          rfl
      · cases h

theorem registry_of_report {level : Level} {message : String} {u : Unit} {s s' : Setup}
    (h : Setup.report level message s = (.ok u, s')) : s'.registry = s.registry := by
  rw [← modify_ok_iff.mp h]

theorem views_of_describe {items : List Introspectable} {site : Site} {u : Unit} {s s' : Setup}
    (h : Setup.describe items site s = (.ok u, s')) :
    s'.registry.views = s.registry.views := by
  rw [← modify_ok_iff.mp h]

section Storing

variable {context : Interface} {route : Option String} {callable : Callable} {o : ViewOptions}
  {s s' : Setup}

/-- What is reported of a slot at the end does not change it. -/
theorem report_slot {slot : Option Slot} {result : Except Error Unit}
    (h : (match slot with
      | some (.multi _) => Setup.report .debug "views merged into a multi-view"
      | _ => return () : Effect Setup Unit) s = (result, s')) :
    result = .ok () ∧ s'.registry = s.registry := by
  rcases slot with _ | v | m <;> cases h <;> exact ⟨rfl, rfl⟩

/-- A view is derived and comes to its slot. -/
theorem registry_of_storeView (h : storeView k context route callable o s = (.ok (), s')) :
    ∃ request derived, requestInterface s.registry route = .ok request ∧
      (DerivedView.derive s.registry.toComponents callable o s.journal).1 = .ok derived ∧
      s'.registry =
        s.registry.addView ⟨k.classifier, request, context, o.name⟩ derived.toView := by
  obtain ⟨s₀, s₁, hget, h⟩ := bind_ok_iff.mp h
  obtain ⟨rfl, rfl⟩ := get_ok_iff.mp hget
  obtain ⟨request, s₁, hinterface, h⟩ := bind_ok_iff.mp h
  obtain ⟨hrequest, rfl⟩ := ofExcept_ok_iff.mp hinterface
  obtain ⟨s₀, s₁, hget, h⟩ := bind_ok_iff.mp h
  obtain ⟨rfl, rfl⟩ := get_ok_iff.mp hget
  obtain ⟨derived, s₁, hreporting, h⟩ := bind_ok_iff.mp h
  obtain ⟨journal, hderive, rfl⟩ := within_iff.mp hreporting
  obtain ⟨u, s₂, hupdate, h⟩ := bind_ok_iff.mp h
  obtain rfl := modify_ok_iff.mp hupdate
  obtain ⟨s₃, s₄, hget, h⟩ := bind_ok_iff.mp h
  obtain ⟨rfl, rfl⟩ := get_ok_iff.mp hget
  exact ⟨request, derived, hrequest, congrArg Prod.fst hderive, (report_slot h).2⟩

/-- A view that cannot be stored leaves the registry as it is. -/
theorem registry_of_storeView_error {e : Error}
    (h : storeView k context route callable o s = (.error e, s')) :
    s'.registry = s.registry := by
  rcases bind_cases h with ⟨e, h, -⟩ | ⟨s₀, s₁, hget, h⟩
  · simp at h
  obtain ⟨rfl, rfl⟩ := get_ok_iff.mp hget
  rcases bind_cases h with ⟨e, h, -⟩ | ⟨request, s₁, hinterface, h⟩
  · rw [← show s = s' from congrArg Prod.snd h]
  obtain ⟨-, rfl⟩ := ofExcept_ok_iff.mp hinterface
  rcases bind_cases h with ⟨e, h, -⟩ | ⟨s₀, s₁, hget, h⟩
  · simp at h
  obtain ⟨rfl, rfl⟩ := get_ok_iff.mp hget
  rcases bind_cases h with ⟨e, h, -⟩ | ⟨derived, s₁, hreporting, h⟩
  · obtain ⟨journal, -, rfl⟩ := within_iff.mp h
    rfl
  -- from here on nothing fails
  rcases bind_cases h with ⟨e, h, -⟩ | ⟨u, s₂, hupdate, h⟩
  · simp at h
  rcases bind_cases h with ⟨e, h, -⟩ | ⟨s₀, s₁, hget, h⟩
  · simp at h
  cases (report_slot h).1

theorem storeView_ok
    (hr : ∀ t, s.registry.routes = some t → ∃ routes, t = RouteTable.ofRoutes routes)
    (ho : o.name = c.name)
    (h : storeView k (contextOf c) c.routeName callable o s = (.ok (), s')) :
    ∃ content, s'.registry.views = s.registry.views.insert (slotOf k c) content := by
  obtain ⟨request, derived, hrequest, -, hregistry⟩ := registry_of_storeView h
  cases requestInterface_ok hr hrequest
  rw [hregistry, ho]
  exact ⟨_, rfl⟩

end Storing

theorem stores_slot (h : IsActionOf k c a) : Stores a (slotOf k c) := by
  intro s s' hr hexecute
  obtain ⟨callable, o, ho, hperform⟩ := h.perform
  unfold Action.execute at hexecute
  rw [hperform] at hexecute
  obtain ⟨u, s₁, hreport, hexecute⟩ := bind_ok_iff.mp hexecute
  obtain ⟨result, s₂, houtcome, hexecute⟩ := bind_ok_iff.mp hexecute
  have hstore := outcome_ok_iff.mp houtcome
  have hregistry := registry_of_report hreport
  cases result with
  | ok u =>
      obtain ⟨content, hviews⟩ := storeView_ok (hregistry ▸ hr) ho hstore
      refine ⟨content, ?_⟩
      rw [views_of_describe hexecute, hviews, hregistry]
  | error e =>
      obtain ⟨u, s₃, -, hthrow⟩ := bind_ok_iff.mp hexecute
      simp at hthrow

/-! ## Texts and slots -/

/-- Views that the ledger cannot tell apart: one has no route and the other one named as if it had
none, or their contexts are different interfaces of one name. -/
def Blurred (c₁ c₂ : ViewConfig) : Prop :=
  c₁.routeName ≠ c₂.routeName ∧ c₁.routeName.getD "None" = c₂.routeName.getD "None" ∨
    contextOf c₁ ≠ contextOf c₂ ∧ (contextOf c₁).name = (contextOf c₂).name

/-- Slots that differ in their classifier at most. -/
def SamePlace (key₁ key₂ : ViewKey) : Prop :=
  key₁.request = key₂.request ∧ key₁.context = key₂.context ∧ key₁.name = key₂.name

theorem requestOf_eq_iff : requestOf c₁ = requestOf c₂ ↔ c₁.routeName = c₂.routeName := by
  unfold requestOf
  cases c₁.routeName with
  | none =>
      cases c₂.routeName with
      | none => simp
      | some r₂ => simpa using (Interface.ofRoute_ne_request r₂).symm
  | some r₁ =>
      cases c₂.routeName with
      | none => simpa using Interface.ofRoute_ne_request r₁
      | some r₂ => simp

theorem phashOf_of_compile {set : PredicateSet} (h : c.predicates.compile = .ok set) :
    phashOf c = some set.phash := by
  rw [phashOf, h]
  rfl

theorem discriminator_eq_iff (h₁ : IsActionOf k₁ c₁ a₁) (h₂ : IsActionOf k₂ c₂ a₂) :
    a₁.discriminator = a₂.discriminator ↔
      (contextOf c₁).name = (contextOf c₂).name ∧ c₁.name = c₂.name ∧
        c₁.routeName.getD "None" = c₂.routeName.getD "None" ∧ phashOf c₁ = phashOf c₂ := by
  obtain ⟨set₁, hset₁, hd₁⟩ := h₁.discriminator
  obtain ⟨set₂, hset₂, hd₂⟩ := h₂.discriminator
  rw [hd₁, hd₂, phashOf_of_compile hset₁, phashOf_of_compile hset₂]
  simp [viewDiscriminator]

theorem discriminator_eq_iff_of_not_blurred (h₁ : IsActionOf k₁ c₁ a₁) (h₂ : IsActionOf k₂ c₂ a₂)
    (hb : ¬ Blurred c₁ c₂) :
    a₁.discriminator = a₂.discriminator ↔
      SamePlace (slotOf k₁ c₁) (slotOf k₂ c₂) ∧ phashOf c₁ = phashOf c₂ := by
  rw [discriminator_eq_iff h₁ h₂, SamePlace]
  simp only [slotOf, requestOf_eq_iff]
  constructor
  · rintro ⟨hcontext, hname, hroute, hphash⟩
    refine ⟨⟨?_, ?_, hname⟩, hphash⟩
    · by_contra hne
      exact hb (Or.inl ⟨hne, hroute⟩)
    · by_contra hne
      exact hb (Or.inr ⟨hne, hcontext⟩)
  · rintro ⟨⟨hroute, hcontext, hname⟩, hphash⟩
    exact ⟨by rw [hcontext], hname, by rw [hroute], hphash⟩

/-- **What meets in the ledger has one place.** The actions of two declared views, which are not
shown alike, fill their slots; they have one discriminator exactly when these slots differ in
their classifier at most and the predicates have one digest; and only then one of them meets the
other in a ledger. -/
theorem discriminator_eq_iff_samePlace (h₁ : Records d₁ a₁) (h₂ : Records d₂ a₂)
    (hd₁ : declaredView? d₁ = some (k₁, c₁)) (hd₂ : declaredView? d₂ = some (k₂, c₂))
    (hb : ¬ Blurred c₁ c₂) :
    Stores a₁ (slotOf k₁ c₁) ∧ Stores a₂ (slotOf k₂ c₂) ∧
      (a₁.discriminator = a₂.discriminator ↔
        SamePlace (slotOf k₁ c₁) (slotOf k₂ c₂) ∧ phashOf c₁ = phashOf c₂) ∧
      ∀ actions r base, Ledger.Meets actions r base → r.action = a₁ → base.action = a₂ →
        SamePlace (slotOf k₁ c₁) (slotOf k₂ c₂) ∧ phashOf c₁ = phashOf c₂ := by
  have hact₁ := action_of_records h₁ hd₁
  have hact₂ := action_of_records h₂ hd₂
  have hiff := discriminator_eq_iff_of_not_blurred hact₁ hact₂ hb
  refine ⟨stores_slot hact₁, stores_slot hact₂, hiff, ?_⟩
  rintro actions r base hmeets rfl rfl
  exact hiff.mp (Ledger.discriminator_eq_of_meets hmeets)

def plainView (route : Option String) (context : Option Interface) : ViewConfig :=
  { view := some (.value emptyView), routeName := route, context := context }

theorem exists_records (route : Option String) (context : Option Interface) :
    (∃ a, Records (.view (plainView route context)) a) ∧
      ∃ a, Records (.exceptionView (plainView route context)) a :=
  ⟨⟨_, .application, { registry := Registry.empty "app" }, _, rfl, rfl, rfl⟩,
    ⟨_, .application, { registry := Registry.empty "app" }, _, rfl, rfl, rfl⟩⟩

theorem places_of_plain_and_routed :
    ∃ a₁ a₂, Records (.view (plainView none none)) a₁ ∧
      Records (.view (plainView (some "home") none)) a₂ ∧
      ¬ Blurred (plainView none none) (plainView (some "home") none) ∧
      (a₁.discriminator = a₂.discriminator ↔
        SamePlace (slotOf .ordinary (plainView none none))
            (slotOf .ordinary (plainView (some "home") none)) ∧
          phashOf (plainView none none) = phashOf (plainView (some "home") none)) := by
  obtain ⟨a₁, h₁⟩ := (exists_records none none).1
  obtain ⟨a₂, h₂⟩ := (exists_records (some "home") none).1
  have hb : ¬ Blurred (plainView none none) (plainView (some "home") none) := by
    rintro (⟨-, hroute⟩ | ⟨hcontext, -⟩)
    · exact absurd hroute (by decide)
    · exact hcontext rfl
  exact ⟨a₁, a₂, h₁, h₂, hb, (discriminator_eq_iff_samePlace h₁ h₂ rfl rfl hb).2.2.1⟩

/-- The kind of a view is not among the texts: a view whose context is any error and an exception
view for any error have one discriminator, but not one slot. -/
theorem discriminator_ignores_classifier :
    ¬ ∀ d₁ d₂ a₁ a₂ k₁ k₂ c₁ c₂, Records d₁ a₁ → Records d₂ a₂ →
      declaredView? d₁ = some (k₁, c₁) → declaredView? d₂ = some (k₂, c₂) →
      (a₁.discriminator = a₂.discriminator ↔
        slotOf k₁ c₁ = slotOf k₂ c₂ ∧ phashOf c₁ = phashOf c₂) := by
  intro hall
  obtain ⟨⟨a₁, h₁⟩, a₂, h₂⟩ := exists_records none (some .exception)
  have heq : a₁.discriminator = a₂.discriminator :=
    (discriminator_eq_iff (action_of_records h₁ rfl) (action_of_records h₂ rfl)).mpr
      ⟨rfl, rfl, rfl, rfl⟩
  have hslot := ((hall _ _ a₁ a₂ _ _ _ _ h₁ h₂ rfl rfl).mp heq).1
  exact absurd (congrArg ViewKey.classifier hslot) (by decide)

end Configurator

end WebDispatch
