import WebDispatch.Proofs.Path.Generated
import WebDispatch.Proofs.Route.Connections

/-!
# Routes that give a path to traverse

The pattern of the path to traverse is compiled behind all conditions (`exists_conditions`). It is no
condition where the captured values serve it: where they name a path already, or give a value to
every name of the pattern. Where they do not, no path can be generated, and the route refuses a
request that it would claim without the option.

* `Untraversed` — a route, and the same route declared without a path to traverse;
* `Route.Serves` — captured values from which every path to traverse of a route can be made;
* `sameRoute_iff` — when a table finds the route that it would find without these paths.
-/

namespace WebDispatch

namespace PredicateOptions

variable {o : PredicateOptions} {set : PredicateSet}

/-! ## Options without a path to traverse -/

def conditionGroups : List (PredicateOptions → Except Error (Option PredicateGroup)) :=
  [xhrGroup, methodGroup, pathGroup, paramGroup, headerGroup, acceptGroup, containmentGroup,
    typeGroup, matchGroup, customGroup]

def untraversed (o : PredicateOptions) : PredicateOptions := { o with traverse := none }

/-- The path to traverse is compiled last. -/
theorem compile_eq (o : PredicateOptions) :
    o.compile = do
      let found ← conditionGroups.mapM fun f => f o
      let path ← traverseGroup o
      return PredicateSet.ofGroups ((found ++ [path]).filterMap id) := by
  have hgroups : o.groups = do
      let found ← (conditionGroups ++ [traverseGroup]).mapM fun f => f o
      return found.filterMap id := rfl
  rw [compile, hgroups, List.mapM_append]
  cases conditionGroups.mapM fun f => f o with
  | error e => rfl
  | ok found =>
      rw [List.mapM_cons, List.mapM_nil]
      cases traverseGroup o with
      | error e => rfl
      | ok path => rfl

theorem mapM_conditionGroups_untraversed (o : PredicateOptions) :
    (conditionGroups.mapM fun f => f o.untraversed) = conditionGroups.mapM fun f => f o := rfl

/-- Options compile without their path to traverse, to the same predicates but for the path. -/
theorem exists_conditions (h : o.compile = .ok set) :
    ∃ conditions, o.untraversed.compile = .ok conditions ∧
      (set.predicates = conditions.predicates ∨
        ∃ p, set.predicates = conditions.predicates ++ [.traverse p]) := by
  have hnone : traverseGroup o.untraversed = .ok none := rfl
  rw [compile_eq] at h
  rw [compile_eq, mapM_conditionGroups_untraversed, hnone]
  cases hfound : conditionGroups.mapM fun f => f o with
  | error e =>
      rw [hfound] at h
      cases h
  | ok found =>
      rw [hfound] at h
      refine ⟨_, rfl, ?_⟩
      obtain ⟨path, hpath, rfl⟩ := Result.map_ok h
      rcases Result.mapM_option_ok hpath with ⟨-, rfl⟩ | ⟨source, group, -, hgroup, rfl⟩
      · exact Or.inl rfl
      · obtain ⟨p, -, rfl⟩ := Result.map_ok hgroup
        refine Or.inr ⟨p, ?_⟩
        simp [PredicateSet.ofGroups]

end PredicateOptions

namespace Predicate

variable {request : Request} {p : Pattern} {ps : List Predicate}
  {values d : MatchDict}

/-! ## Conditions that hold -/

/-- Captured values serve the pattern of a path to traverse: a path can be made from them, or is
there already. -/
def Serves (p : Pattern) (values : MatchDict) : Prop :=
  values.contains traverseKey = true ∨ ∀ name ∈ p.names, (values.get? name).isSome

theorem serves_iff (request : Request) :
    Serves p values ↔ ∃ d, (traverse p).holdsForRoute values request = (true, d) := by
  simp only [holdsForRoute_traverse_iff]
  cases hkey : values.contains traverseKey with
  | true => simp [Serves, hkey]
  | false => simp [Serves, hkey]

theorem allHoldForRoute_snoc (ps : List Predicate) (q : Predicate) (values : MatchDict) :
    allHoldForRoute request (ps ++ [q]) values =
      (allHoldForRoute request ps values).bind (allHoldForRoute request [q]) := by
  induction ps generalizing values with
  | nil => rfl
  | cons p ps ih =>
      rw [List.cons_append, allHoldForRoute, allHoldForRoute]
      split
      · exact ih _
      · rfl

theorem contains_holdsForRoute (q : Predicate) (request : Request)
    (h : values.contains traverseKey = true) :
    (q.holdsForRoute values request).2.contains traverseKey = true := by
  unfold holdsForRoute
  split
  case h_5 pattern _ =>
    rw [withTraverse, if_pos h]
    exact h
  all_goals exact h

theorem contains_leave (ps : List Predicate) (h : values.contains traverseKey = true) :
    (leave request ps values).contains traverseKey = true := by
  induction ps generalizing values with
  | nil => exact h
  | cons q ps ih => exact ih (contains_holdsForRoute q request h)

/-- Where a path to traverse has been asked for and was given, the values hold it. -/
theorem contains_of_mem (hp : traverse p ∈ ps)
    (hall : allHoldForRoute request ps values = some d) : d.contains traverseKey = true := by
  obtain ⟨hhold, rfl⟩ := allHoldForRoute_eq_some_iff.mp hall
  obtain ⟨before, after, rfl⟩ := List.append_of_mem hp
  have hgiven : (traverse p).holdsForRoute (leave request before values) request =
      (true, ((traverse p).holdsForRoute (leave request before values) request).2) :=
    Prod.ext (hhold before (traverse p) after rfl) rfl
  rw [leave, List.foldl_append, List.foldl_cons, ← leave, ← leave]
  apply contains_leave
  rcases (holdsForRoute_traverse_iff request).mp hgiven with ⟨hkey, heq⟩ | ⟨-, -, heq⟩
  · rw [heq]
    exact hkey
  · rw [heq, ← OrderedMap.mem_keys_iff_contains, ← OrderedMap.isSome_get?_iff,
      OrderedMap.get?_insert, if_pos rfl]
    rfl

end Predicate

namespace Route

variable {r r' : Route} {request : Request} {d d' : MatchDict}

/-! ## A route without its path to traverse -/

/-- Captured values from which every path to traverse of a route can be made. -/
def Serves (r : Route) (d : MatchDict) : Prop :=
  ∀ p, Predicate.traverse p ∈ r.predicates → Predicate.Serves p d

def AgreeApart (d d' : MatchDict) : Prop := ∀ k, k ≠ Predicate.traverseKey → d.get? k = d'.get? k

/-- A route, and the route that its declaration gives without a path to traverse. -/
def Untraversed (r r' : Route) : Prop :=
  ∃ (o : PredicateOptions) (set conditions : PredicateSet), o.compile = .ok set ∧
    o.untraversed.compile = .ok conditions ∧ r.predicates = set.predicates ∧
    r' = { r with predicates := conditions.predicates }

namespace Untraversed

theorem name_eq (h : Untraversed r r') : r'.name = r.name := by
  obtain ⟨o, set, conditions, -, -, -, rfl⟩ := h
  rfl

theorem isStatic_eq (h : Untraversed r r') : r'.isStatic = r.isStatic := by
  obtain ⟨o, set, conditions, -, -, -, rfl⟩ := h
  rfl

theorem pattern_eq (h : Untraversed r r') : r'.pattern = r.pattern := by
  obtain ⟨o, set, conditions, -, -, -, rfl⟩ := h
  rfl

theorem predicates_cases (h : Untraversed r r') :
    r.predicates = r'.predicates ∨ ∃ p, r.predicates = r'.predicates ++ [.traverse p] := by
  obtain ⟨o, set, conditions, hset, hconditions, hr, rfl⟩ := h
  obtain ⟨conditions', hconditions', hcases⟩ := PredicateOptions.exists_conditions hset
  rw [hconditions] at hconditions'
  obtain rfl := Except.ok.inj hconditions'
  rw [hr]
  exact hcases

/-- A request that the route without the path to traverse refuses is refused. -/
theorem match?_eq_none (h : Untraversed r r') (hnone : r'.match? request = none) :
    r.match? request = none := by
  rw [match?, h.pattern_eq] at hnone
  rw [match?]
  rcases h.predicates_cases with heq | ⟨p, heq⟩
  · rw [heq]
    exact hnone
  · rw [Option.bind_eq_none_iff] at hnone ⊢
    intro captured hcaptured
    rw [heq, Predicate.allHoldForRoute_snoc, hnone captured hcaptured, Option.bind_none]

/-- A request that it claims is claimed where the values serve the path, with the same values. -/
theorem match?_eq_some (h : Untraversed r r') (hsome : r'.match? request = some d') :
    (r.Serves d' ∧ ∃ d, r.match? request = some d ∧ AgreeApart d d') ∨
      (¬r.Serves d' ∧ r.match? request = none) := by
  obtain ⟨captured, hcaptured, hall⟩ := Option.bind_eq_some_iff.mp hsome
  rw [h.pattern_eq] at hcaptured
  have hmatch : r.match? request = Predicate.allHoldForRoute request r.predicates captured := by
    rw [match?, hcaptured, Option.bind_some]
  have hserved : ∀ p, Predicate.traverse p ∈ r'.predicates → Predicate.Serves p d' :=
    fun p hp => Or.inl (Predicate.contains_of_mem hp hall)
  rcases h.predicates_cases with heq | ⟨p, heq⟩
  · rw [heq] at hmatch
    refine Or.inl ⟨fun p hp => hserved p (heq ▸ hp), d', hmatch.trans hall, fun k _ => rfl⟩
  · have hserves : r.Serves d' ↔ Predicate.Serves p d' := by
      rw [Serves, heq]
      refine ⟨fun hall => hall p (by simp), fun hp p' hp' => ?_⟩
      rcases List.mem_append.mp hp' with hp' | hp'
      · exact hserved p' hp'
      · obtain rfl := Predicate.traverse.inj (List.mem_singleton.mp hp')
        exact hp
    rw [heq, Predicate.allHoldForRoute_snoc, hall, Option.bind_some, Predicate.allHoldForRoute]
      at hmatch
    rw [hserves, Predicate.serves_iff request]
    split at hmatch
    · next d heq' =>
        have hkept : ∀ k, k ≠ Predicate.traverseKey →
            ((Predicate.traverse p).holdsForRoute d' request).2.get? k = d'.get? k :=
          fun _ => Predicate.get?_holdsForRoute (.traverse p) d'
        rw [heq'] at hkept
        exact Or.inl ⟨⟨d, heq'⟩, d, hmatch, hkept⟩
    · next d heq' =>
        refine Or.inr ⟨?_, hmatch⟩
        rintro ⟨d'', heq''⟩
        rw [heq'] at heq''
        cases (Prod.mk.inj heq'').1

end Untraversed

end Route

namespace RouteTable

open Route (Untraversed AgreeApart)

variable {cs cs' : List Route} {request : Request}

/-! ## Tables without paths to traverse -/

/-- The same route for a request, with the same values but for the path to traverse, or none. -/
def SameRoute : Option (Route × MatchDict) → Option (Route × MatchDict) → Prop
  | some (r, d), some (r', d') => r.name = r'.name ∧ AgreeApart d d'
  | none, none => True
  | _, _ => False

def firstOf (request : Request) (rs : List Route) : Option (Route × MatchDict) :=
  rs.findSome? fun r => (r.match? request).map fun d => (r, d)

theorem names_of_forall₂ (h : List.Forall₂ Untraversed cs cs') :
    cs'.map Route.name = cs.map Route.name := by
  induction h with
  | nil => rfl
  | cons hr _ ih => rw [List.map_cons, List.map_cons, hr.name_eq, ih]

theorem forall₂_standing (h : List.Forall₂ Untraversed cs cs') :
    List.Forall₂ Untraversed (standing cs) (standing cs') := by
  induction h with
  | nil => exact List.Forall₂.nil
  | @cons r r' cs cs' hr hcs ih =>
      have hlater : (∃ s ∈ cs', s.name = r'.name) ↔ ∃ s ∈ cs, s.name = r.name := by
        rw [← List.mem_map, ← List.mem_map, names_of_forall₂ hcs, hr.name_eq]
      rw [standing, standing]
      by_cases hreplaced : ∃ s ∈ cs, s.name = r.name
      · rw [if_pos hreplaced, if_pos (hlater.mpr hreplaced)]
        exact ih
      · rw [if_neg hreplaced, if_neg (mt hlater.mp hreplaced)]
        exact ih.cons hr

theorem forall₂_candidates (h : List.Forall₂ Untraversed cs cs') :
    List.Forall₂ Untraversed (ofConnections cs).candidates (ofConnections cs').candidates := by
  rw [candidates_ofConnections, candidates_ofConnections]
  refine List.rel_filter ?_ (forall₂_standing h)
  intro r r' hr
  show (!r.isStatic) = true ↔ (!r'.isStatic) = true
  rw [hr.isStatic_eq]

theorem nodup_names_candidates (cs : List Route) :
    ((ofConnections cs).candidates.map Route.name).Nodup := by
  have hstanding : ((standing cs).map Route.name).Nodup := by
    rw [names_standing]
    exact List.nodup_dedup _
  rw [candidates_ofConnections]
  exact hstanding.sublist (List.filter_sublist.map Route.name)

theorem mem_of_firstOf {rs : List Route} {r : Route} {d : MatchDict}
    (h : firstOf request rs = some (r, d)) : r.name ∈ rs.map Route.name := by
  obtain ⟨s, hs, hmatch⟩ := List.exists_of_findSome?_eq_some h
  obtain ⟨d', -, heq⟩ := Option.map_eq_some_iff.mp hmatch
  obtain ⟨rfl, -⟩ := Prod.mk.inj heq
  exact List.mem_map_of_mem hs

theorem sameRoute_firstOf_iff {rs rs' : List Route} (h : List.Forall₂ Untraversed rs rs')
    (hnodup : (rs.map Route.name).Nodup) :
    SameRoute (firstOf request rs) (firstOf request rs') ↔
      ∀ r' d', firstOf request rs' = some (r', d') → ∀ r ∈ rs, r.name = r'.name → r.Serves d' := by
  induction h with
  | nil => simp [firstOf, SameRoute]
  | @cons r r' rs rs' hr hrs ih =>
      rw [List.map_cons, List.nodup_cons] at hnodup
      cases hbare : r'.match? request with
      | none =>
          have hskip : firstOf request (r :: rs) = firstOf request rs := by
            simp [firstOf, hr.match?_eq_none hbare]
          have hskip' : firstOf request (r' :: rs') = firstOf request rs' := by
            simp [firstOf, hbare]
          rw [hskip, hskip', ih hnodup.2]
          refine forall_congr' fun s' => forall_congr' fun d' => imp_congr_right fun hfirst => ?_
          rw [List.forall_mem_cons]
          refine (and_iff_right fun hname => ?_).symm
          rw [hname, ← names_of_forall₂ hrs] at hnodup
          exact absurd (mem_of_firstOf hfirst) hnodup.1
      | some d' =>
          have hfirst' : firstOf request (r' :: rs') = some (r', d') := by
            simp [firstOf, hbare]
          -- the route of this name is the only one that the condition is about
          have hcondition : (∀ s' d'', firstOf request (r' :: rs') = some (s', d'') →
              ∀ s ∈ r :: rs, s.name = s'.name → s.Serves d'') ↔ r.Serves d' := by
            rw [hfirst']
            constructor
            · intro hall
              exact hall r' d' rfl r List.mem_cons_self hr.name_eq.symm
            · rintro hserves s' d'' heq s hs hname
              obtain ⟨rfl, rfl⟩ := Prod.mk.inj (Option.some.inj heq)
              rcases List.mem_cons.mp hs with rfl | hs
              · exact hserves
              · rw [hr.name_eq] at hname
                exact absurd (hname ▸ List.mem_map_of_mem hs) hnodup.1
          rw [hcondition]
          rcases hr.match?_eq_some hbare with ⟨hserves, d, hmatch, hagree⟩ | ⟨hserves, hnone⟩
          · have hfirst : firstOf request (r :: rs) = some (r, d) := by
              simp [firstOf, hmatch]
            rw [hfirst, hfirst']
            exact iff_of_true ⟨hr.name_eq.symm, hagree⟩ hserves
          · have hskip : firstOf request (r :: rs) = firstOf request rs := by
              simp [firstOf, hnone]
            rw [hskip, hfirst']
            refine iff_of_false ?_ hserves
            cases hfirst : firstOf request rs with
            | none => exact id
            | some found =>
                rintro ⟨hname, -⟩
                rw [hr.name_eq] at hname
                exact hnodup.1 (hname ▸ mem_of_firstOf hfirst)

/-- **Paths to traverse and routes.** With their paths to traverse and without, any connections lead
a request to one route, with the same values apart from that path, or both to none: exactly when the
values that the request has without the paths serve that of the route which it then gets. -/
theorem sameRoute_iff (h : List.Forall₂ Untraversed cs cs') (request : Request) :
    SameRoute ((ofConnections cs).match? request) ((ofConnections cs').match? request) ↔
      ∀ r' d', (ofConnections cs').match? request = some (r', d') →
        ∀ r ∈ (ofConnections cs).candidates, r.name = r'.name → r.Serves d' :=
  sameRoute_firstOf_iff (forall₂_candidates h) (nodup_names_candidates cs)

def items (p : Pattern) (predicates : List Predicate) : Route :=
  { name := "items", pattern := p, predicates := predicates }

theorem untraversed_items {source : String} {q : Pattern} (hq : Pattern.compile source = .ok q)
    (p : Pattern) : Untraversed (items p [.traverse q]) (items p []) := by
  have hpath : PredicateOptions.traverseGroup { traverse := some source } =
      .ok (some ⟨.traverse, [.traverse q], ""⟩) := by
    rw [PredicateOptions.traverseGroup, Option.mapM_some, hq]
    rfl
  refine ⟨{ traverse := some source }, .ofGroups [⟨.traverse, [.traverse q], ""⟩], .ofGroups [],
    ?_, rfl, rfl, rfl⟩
  rw [PredicateOptions.compile_eq, hpath]
  rfl

/-- What the route captures from one request without a path to traverse. -/
theorem exists_items : ∃ p, Pattern.compile "/items/{id}" = .ok p ∧
    (items p []).match? (Request.blank "/items/7") = some ⟨[("id", .text "7")]⟩ ∧
    (ofConnections [items p []]).match? (Request.blank "/items/7") =
      some (items p [], ⟨[("id", .text "7")]⟩) := by
  have hcomputed : ((Pattern.compile "/items/{id}").toOption.map fun p =>
        p.match? (Request.blank "/items/7").pathInfo) = some (some ⟨[("id", .text "7")]⟩) := by
    decide +kernel
  obtain ⟨p, hcompile, hp⟩ := Pattern.exists_compiled hcomputed
  have hmatch : (items p []).match? (Request.blank "/items/7") = some ⟨[("id", .text "7")]⟩ := by
    rw [Route.match?, items, hp]
    rfl
  refine ⟨p, hcompile, hmatch, ?_⟩
  show ([items p []].findSome? fun r => _) = _
  rw [List.findSome?_singleton, hmatch]
  rfl

/-- A path to traverse that is made of what the route captures. -/
theorem sameRoute_items :
    ∃ p q, Pattern.compile "/items/{id}" = .ok p ∧ Pattern.compile "/docs/{id}" = .ok q ∧
      SameRoute ((ofConnections [items p [.traverse q]]).match? (Request.blank "/items/7"))
        ((ofConnections [items p []]).match? (Request.blank "/items/7")) := by
  obtain ⟨p, hp, -, hfirst⟩ := exists_items
  have hcomputed : ((Pattern.compile "/docs/{id}").toOption.map Pattern.names) = some ["id"] := by
    decide +kernel
  obtain ⟨q, hq, hnames⟩ := Pattern.exists_compiled hcomputed
  refine ⟨p, q, hp, hq, ?_⟩
  rw [sameRoute_iff (.cons (untraversed_items hq p) .nil)]
  intro r' d' hfound r hr _ p' hp'
  rw [hfirst] at hfound
  obtain ⟨-, rfl⟩ := Prod.mk.inj (Option.some.inj hfound)
  obtain rfl : r = items p [.traverse q] := List.mem_singleton.mp hr
  obtain rfl := Predicate.traverse.inj (List.mem_singleton.mp hp')
  refine Or.inr ?_
  rw [hnames]
  decide

/-- A path to traverse that asks for another name: the request gets no route. -/
theorem not_sameRoute_slug :
    ∃ p q, Pattern.compile "/items/{id}" = .ok p ∧ Pattern.compile "/docs/{slug}" = .ok q ∧
      List.Forall₂ Untraversed [items p [.traverse q]] [items p []] ∧
      (ofConnections [items p []]).match? (Request.blank "/items/7") =
        some (items p [], ⟨[("id", .text "7")]⟩) ∧
      (ofConnections [items p [.traverse q]]).match? (Request.blank "/items/7") = none := by
  obtain ⟨p, hp, hmatch, hfirst⟩ := exists_items
  have hcomputed : ((Pattern.compile "/docs/{slug}").toOption.map Pattern.names) =
      some ["slug"] := by
    decide +kernel
  obtain ⟨q, hq, hnames⟩ := Pattern.exists_compiled hcomputed
  have hbare := untraversed_items hq p
  refine ⟨p, q, hp, hq, .cons hbare .nil, hfirst, ?_⟩
  have hnone : (items p [.traverse q]).match? (Request.blank "/items/7") = none := by
    rcases hbare.match?_eq_some hmatch with ⟨hserves, -⟩ | ⟨-, hnone⟩
    · rcases hserves q List.mem_cons_self with hkey | hgiven
      · exact absurd hkey (by decide)
      · rw [hnames] at hgiven
        exact absurd hgiven (by decide)
    · exact hnone
  show ([items p [.traverse q]].findSome? fun r => _) = _
  rw [List.findSome?_singleton, hnone]
  rfl

end RouteTable

end WebDispatch
