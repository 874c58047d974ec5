import WebDispatch.Configuration.Routes
import WebDispatch.Proofs.Configuration.RoutePrefixes
import WebDispatch.Proofs.Effect
import WebDispatch.Proofs.Path.LeadingSlash

/-!
# Routes below a prefix

A route that is declared below a prefix is the route that would be declared without one, its pattern
written in full: a slash, the prefix, a slash, and the given pattern without the slashes that it
begins with. Both declarations fail, or both add a route, and the two routes are alike.

* `Route.Alike` — routes that match and generate the same;
* `declaredRoute`, `addRoute_apply` — the route that is declared, and what becomes of it;
* `addRoute_below` — a route below a prefix, and the one with its pattern in full.
-/

namespace WebDispatch

/-- Two routes of a name match the same paths, with the same values, and generate the same paths. -/
structure Route.Alike (r s : Route) : Prop where
  name : r.name = s.name
  pattern : r.pattern.Alike s.pattern
  match? : ∀ request, r.match? request = s.match? request
  generate : ∀ values path, r.generate values = .ok path ↔ s.generate values = .ok path

theorem Route.alike_of_pattern {r s : Route} (hs : s = { r with pattern := s.pattern })
    (h : r.pattern.Alike s.pattern) : r.Alike s where
  name := by rw [hs]
  pattern := h
  match? request := by
    have hpredicates : s.predicates = r.predicates := by rw [hs]
    rw [Route.match?, Route.match?, h.match?, hpredicates]
  generate values path := by
    have hpregenerator : s.pregenerator = r.pregenerator := by rw [hs]
    rw [Route.generate, Route.generate, hpregenerator]
    exact h.generate _ path

namespace Configurator

variable {site : Site} {name pattern whole : String} {d : RouteConfig} {c : Configurator}

def declaredOptions (c : Configurator) (name : String) (d : RouteConfig) :
    Except Error (Option RootFactory × List Predicate) := do
  (refuseViewOptions name d c).1
  let factory ← d.factory.mapM (c.catalog.resolveReference .rootFactory c.package)
  let set ← d.predicates.compile
  return (factory, set.predicates)

def declaredRoute (c : Configurator) (name pattern : String) (d : RouteConfig) :
    Except Error Route := do
  let (factory, predicates) ← declaredOptions c name d
  let compiled ← Pattern.compile (RoutePrefix.apply c.routePrefix pattern)
  return {
    name := name
    pattern := compiled
    factory := factory
    predicates := predicates
    pregenerator := d.pregenerator
    useGlobalViews := d.useGlobalViews
    isStatic := d.isStatic }

/-- Has a route connected on commit, and its view stored if one is given. -/
def addDeclared (site : Site) (d : RouteConfig) (r : Route) : Configuring Unit := do
  act site (some ["route", r.name]) (some (connectRoute r)) (-10) (routeIntrospectables r)
  match d.view with
  | some view => addView site (routeView r.name d view)
  | none => return ()

theorem refuseViewOptions_apply (name : String) (d : RouteConfig) (c : Configurator) :
    refuseViewOptions name d c = ((refuseViewOptions name d c).1, c) := by
  unfold refuseViewOptions
  cases d.view <;> cases givenViewOptions d <;> rfl

@[simp] theorem factory_apply (d : RouteConfig) (c : Configurator) :
    d.factory.mapM (resolve .rootFactory) c =
      (d.factory.mapM (c.catalog.resolveReference .rootFactory c.package), c) := by
  cases d.factory with
  | none => rfl
  | some r =>
    change (resolve .rootFactory r >>= fun f => pure (some f)) c =
      (c.catalog.resolveReference .rootFactory c.package r >>= fun f => pure (some f), c)
    rw [Effect.bind_apply, resolve_apply]
    cases c.catalog.resolveReference .rootFactory c.package r <;> rfl

theorem addRoute_apply (site : Site) (name pattern : String) (d : RouteConfig) (c : Configurator) :
    addRoute site name pattern d c = match declaredRoute c name pattern d with
      | .ok r => addDeclared site d r c
      | .error e => (.error e, c) := by
  rw [addRoute, Effect.bind_apply, refuseViewOptions_apply, declaredRoute, declaredOptions]
  cases (refuseViewOptions name d c).1 with
  | error e => rfl
  | ok _ =>
    dsimp only
    rw [Effect.bind_apply, factory_apply]
    cases d.factory.mapM (c.catalog.resolveReference .rootFactory c.package) with
    | error e => rfl
    | ok factory =>
      dsimp only
      rw [Effect.bind_apply, Effect.ofExcept_apply]
      cases d.predicates.compile with
      | error e => rfl
      | ok set =>
        dsimp only
        rw [Effect.bind_apply, Effect.get_apply]
        dsimp only
        rw [Effect.bind_apply, Effect.ofExcept_apply]
        cases Pattern.compile (RoutePrefix.apply c.routePrefix pattern) <;> rfl

/-! ## Below a prefix -/

def fullPattern (whole pattern : String) : String :=
  "/" ++ whole ++ "/" ++ Text.trimStartBy (· = '/') pattern

/-- A configuration that begins with a prefix for its routes, if one is given. -/
def withRoutePrefix (c : Configurator) (initial : Option String) : Configurator :=
  { c with routePrefix := initial.bind RoutePrefix.normalize }

def withoutPrefix (c : Configurator) : Configurator := { c with routePrefix := none }

theorem apply_some (h : RoutePrefix.Proper whole) (pattern : String) :
    RoutePrefix.apply (some whole) pattern =
      whole ++ "/" ++ Text.trimStartBy (· = '/') pattern := by
  rw [RoutePrefix.apply, h.trimEndBy_eq]

theorem compile_below (h : RoutePrefix.Proper whole) (pattern : String) :
    (∃ e e', Pattern.compile (RoutePrefix.apply (some whole) pattern) = .error e ∧
        Pattern.compile (fullPattern whole pattern) = .error e') ∨
      ∃ p p', Pattern.compile (RoutePrefix.apply (some whole) pattern) = .ok p ∧
        Pattern.compile (fullPattern whole pattern) = .ok p' ∧ p.Alike p' := by
  have hfull : fullPattern whole pattern = "/" ++ RoutePrefix.apply (some whole) pattern := by
    rw [apply_some h, fullPattern]
    simp only [String.append_assoc]
  have hhead : (RoutePrefix.apply (some whole) pattern).toList.head? ≠ some '/' := by
    rw [apply_some h, String.append_assoc, String.toList_append, List.head?_append]
    intro hslash
    cases hwhole : whole.toList.head? with
    | none => exact h.ne_empty (String.toList_eq_nil_iff.mp (List.head?_eq_none_iff.mp hwhole))
    | some ch =>
      rw [hwhole] at hslash
      exact h.head? (hwhole.trans hslash)
  rw [hfull]
  rcases Pattern.compile_slash_append hhead with ⟨e, e', he, he'⟩ | ⟨p, hp, hp'⟩
  · exact Or.inl ⟨e, e', he, he'⟩
  · exact Or.inr ⟨p, _, hp, hp', p.alike_of_source _⟩

@[simp] theorem declaredOptions_withoutPrefix (c : Configurator) (name : String) (d : RouteConfig) :
    declaredOptions c.withoutPrefix name d = declaredOptions c name d := by
  have hrefuse : (refuseViewOptions name d c.withoutPrefix).1 = (refuseViewOptions name d c).1 := by
    unfold refuseViewOptions
    cases d.view <;> cases givenViewOptions d <;> rfl
  rw [declaredOptions, declaredOptions, hrefuse]
  rfl

theorem declaredRoute_below (hc : c.routePrefix = some whole) (h : RoutePrefix.Proper whole)
    (name pattern : String) (d : RouteConfig) :
    (∃ e e', declaredRoute c name pattern d = .error e ∧
        declaredRoute c.withoutPrefix name (fullPattern whole pattern) d = .error e') ∨
      ∃ r r', declaredRoute c name pattern d = .ok r ∧
        declaredRoute c.withoutPrefix name (fullPattern whole pattern) d = .ok r' ∧
        r.name = name ∧ r.Alike r' := by
  have hpattern : RoutePrefix.apply c.withoutPrefix.routePrefix (fullPattern whole pattern) =
      fullPattern whole pattern := rfl
  unfold declaredRoute
  rw [declaredOptions_withoutPrefix, hpattern, hc]
  cases declaredOptions c name d with
  | error e => exact Or.inl ⟨e, e, rfl, rfl⟩
  | ok options =>
    rcases compile_below h pattern with ⟨e, e', he, he'⟩ | ⟨p, p', hp, hp', halike⟩
    · rw [he, he']
      exact Or.inl ⟨e, e', rfl, rfl⟩
    · rw [hp, hp']
      exact Or.inr ⟨_, _, rfl, rfl, rfl, Route.alike_of_pattern rfl halike⟩

/-- **A route below a prefix** is added like the one that has its pattern in full. -/
theorem addRoute_below (hc : c.routePrefix = some whole) (h : RoutePrefix.Proper whole)
    (site : Site) (name pattern : String) (d : RouteConfig) :
    (∃ r r', addRoute site name pattern d c = addDeclared site d r c ∧
        addRoute site name (fullPattern whole pattern) d c.withoutPrefix =
          addDeclared site d r' c.withoutPrefix ∧
        r.name = name ∧ r.Alike r') ∨
      ∃ e e', addRoute site name pattern d c = (.error e, c) ∧
        addRoute site name (fullPattern whole pattern) d c.withoutPrefix =
          (.error e', c.withoutPrefix) := by
  rw [addRoute_apply, addRoute_apply]
  rcases declaredRoute_below hc h name pattern d with ⟨e, e', he, he'⟩ | ⟨r, r', hr, hr', hlike⟩
  · rw [he, he']
    exact Or.inr ⟨e, e', rfl, rfl⟩
  · rw [hr, hr']
    exact Or.inl ⟨r, r', rfl, rfl, hlike⟩

end Configurator

end WebDispatch
