import Mathlib.Data.List.Dedup
import Mathlib.Data.List.Induction
import WebDispatch.Route.Table

/-!
# Routes connected one after the other

A connection stands as long as no later one has its name. After any run of connections the table
lists the connections that stand, in order, and its candidates are those of them that are not
static: a connection takes away the candidate that it replaces and no other.

A request goes to the first candidate that claims it. What it captures is what the pattern of that
route captures, completed by the predicates of that route.

* `Route.Claims` — when a route claims a request, and with which values;
* `standing`, `routes_ofConnections`, `candidates_ofConnections` — the table after a run;
* `connected_match_iff` — which route a request goes to.
-/

namespace WebDispatch

namespace Predicate

variable {request : Request}

/-- The values that predicates of a route leave when they are asked one after the other. -/
def leave (request : Request) (ps : List Predicate) (d : MatchDict) : MatchDict :=
  ps.foldl (fun d p => (p.holdsForRoute d request).2) d

def AllHold (request : Request) (ps : List Predicate) (d : MatchDict) : Prop :=
  ∀ before p after, ps = before ++ p :: after →
    (p.holdsForRoute (leave request before d) request).1 = true

theorem allHold_cons_iff {p : Predicate} {ps : List Predicate} {d : MatchDict} :
    AllHold request (p :: ps) d ↔
      (p.holdsForRoute d request).1 = true ∧
        AllHold request ps (p.holdsForRoute d request).2 := by
  constructor
  · intro h
    refine ⟨h [] p ps rfl, ?_⟩
    rintro before q after rfl
    exact h (p :: before) q after rfl
  · rintro ⟨hp, hps⟩ before q after hsplit
    cases before with
    | nil =>
        obtain ⟨rfl, -⟩ := List.cons.inj hsplit
        exact hp
    | cons p' before =>
        obtain ⟨rfl, hrest⟩ := List.cons.inj hsplit
        exact hps before q after hrest

theorem allHoldForRoute_eq_some_iff {ps : List Predicate} {d d' : MatchDict} :
    allHoldForRoute request ps d = some d' ↔ AllHold request ps d ∧ leave request ps d = d' := by
  induction ps generalizing d with
  | nil =>
      rw [allHoldForRoute, Option.some.injEq, leave, List.foldl_nil]
      exact (and_iff_right fun before p after h => by simp at h).symm
  | cons p ps ih =>
      rw [allHold_cons_iff, leave, List.foldl_cons, ← leave, and_assoc, ← ih, allHoldForRoute]
      rcases p.holdsForRoute d request with ⟨_ | _, left⟩
      · simp
      · simp

/-- A predicate of a route changes captured values under one name at most. -/
theorem get?_holdsForRoute (p : Predicate) (d : MatchDict) {k : String} (hk : k ≠ traverseKey) :
    (p.holdsForRoute d request).2.get? k = d.get? k := by
  unfold holdsForRoute
  split
  case h_5 pattern _ =>
    unfold withTraverse
    by_cases hd : d.contains traverseKey
    · rw [if_pos hd]
    · rw [if_neg hd]
      cases pattern.generate d with
      | error e => rfl
      | ok path =>
          change (d.insert traverseKey _).get? k = d.get? k
          simp [Ne.symm hk]
  all_goals rfl

theorem get?_leave (ps : List Predicate) (d : MatchDict) {k : String} (hk : k ≠ traverseKey) :
    (leave request ps d).get? k = d.get? k := by
  induction ps generalizing d with
  | nil => rfl
  | cons p ps ih => exact (ih _).trans (get?_holdsForRoute p d hk)

end Predicate

namespace Route

/-- A route claims a request with some values: its pattern matches the path, its predicates hold
one after the other, and the values are what they leave of the captured ones. -/
def Claims (r : Route) (request : Request) (d : MatchDict) : Prop :=
  ∃ captured, r.pattern.match? request.pathInfo = some captured ∧
    Predicate.AllHold request r.predicates captured ∧
    Predicate.leave request r.predicates captured = d

theorem match?_eq_some_iff {r : Route} {request : Request} {d : MatchDict} :
    r.match? request = some d ↔ r.Claims request d := by
  rw [match?, Option.bind_eq_some_iff]
  exact exists_congr fun captured => and_congr_right fun _ => Predicate.allHoldForRoute_eq_some_iff

theorem match?_eq_none_iff {r : Route} {request : Request} :
    r.match? request = none ↔ ∀ d, ¬ r.Claims request d := by
  rw [Option.eq_none_iff_forall_ne_some]
  exact forall_congr' fun d => not_congr match?_eq_some_iff

end Route

namespace RouteTable

/-! ## The connections that stand -/

def ofConnections (cs : List Route) : RouteTable := cs.foldl connect {}

/-- The connections that no later one of the same name replaces. -/
def standing : List Route → List Route
  | [] => []
  | r :: later => if ∃ s ∈ later, s.name = r.name then standing later else r :: standing later

@[simp] theorem ofConnections_snoc (cs : List Route) (r : Route) :
    ofConnections (cs ++ [r]) = (ofConnections cs).connect r := by
  rw [ofConnections, List.foldl_append]
  rfl

/-- A connection is the last to stand, in place of the one of its name. -/
@[simp] theorem standing_snoc (cs : List Route) (r : Route) :
    standing (cs ++ [r]) = (standing cs).filter (fun s => s.name ≠ r.name) ++ [r] := by
  induction cs with
  | nil => simp [standing]
  | cons s cs ih =>
      rw [List.cons_append, standing, standing, ih]
      by_cases hlater : ∃ t ∈ cs, t.name = s.name
      · have hlater' : ∃ t ∈ cs ++ [r], t.name = s.name := by
          obtain ⟨t, ht, hname⟩ := hlater
          exact ⟨t, List.mem_append_left _ ht, hname⟩
        rw [if_pos hlater, if_pos hlater']
      · rw [if_neg hlater]
        by_cases hr : r.name = s.name
        · rw [if_pos ⟨r, by simp, hr⟩, List.filter_cons_of_neg (by simp [hr])]
        · have hnone : ¬ ∃ t ∈ cs ++ [r], t.name = s.name := by
            rintro ⟨t, ht, hname⟩
            rcases List.mem_append.mp ht with ht | ht
            · exact hlater ⟨t, ht, hname⟩
            · exact hr (List.mem_singleton.mp ht ▸ hname)
          rw [if_neg hnone, List.filter_cons_of_pos (by simpa using Ne.symm hr), List.cons_append]

theorem mem_standing_iff {cs : List Route} {r : Route} :
    r ∈ standing cs ↔
      ∃ earlier later, cs = earlier ++ r :: later ∧ ∀ s ∈ later, s.name ≠ r.name := by
  induction cs with
  | nil => simp [standing]
  | cons c cs ih =>
      rw [standing]
      constructor
      · intro h
        have hcases : r ∈ standing cs ∨ (r = c ∧ ¬ ∃ s ∈ cs, s.name = c.name) := by
          split at h
          · exact Or.inl h
          · next hnone =>
            rcases List.mem_cons.mp h with hc | h
            · exact Or.inr ⟨hc, hnone⟩
            · exact Or.inl h
        rcases hcases with h | ⟨rfl, hnone⟩
        · obtain ⟨earlier, later, rfl, hlater⟩ := ih.mp h
          exact ⟨c :: earlier, later, rfl, hlater⟩
        · exact ⟨[], cs, rfl, fun s hs hname => hnone ⟨s, hs, hname⟩⟩
      · rintro ⟨earlier, later, hcs, hlater⟩
        cases earlier with
        | nil =>
            obtain ⟨rfl, rfl⟩ := List.cons.inj hcs
            rw [if_neg fun ⟨s, hs, hname⟩ => hlater s hs hname]
            exact List.mem_cons_self
        | cons _ earlier =>
            obtain ⟨rfl, rfl⟩ := List.cons.inj hcs
            have hmem := ih.mpr ⟨earlier, later, rfl, hlater⟩
            split
            · exact hmem
            · exact List.mem_cons_of_mem _ hmem

/-- The connections that stand bear each name once, in the order in which it was last used. -/
@[simp] theorem names_standing (cs : List Route) :
    (standing cs).map Route.name = (cs.map Route.name).dedup := by
  induction cs with
  | nil => rfl
  | cons r cs ih =>
      rw [standing, List.map_cons]
      by_cases hlater : ∃ s ∈ cs, s.name = r.name
      · rw [if_pos hlater, List.dedup_cons_of_mem (List.mem_map.mpr hlater), ih]
      · rw [if_neg hlater, List.dedup_cons_of_notMem fun h => hlater (List.mem_map.mp h),
          List.map_cons, ih]

/-! ## The table after a run -/

/-- One connection in a table: the entry of its name goes, and its own comes last. -/
theorem toList_routes_connect (t : RouteTable) (r : Route) :
    (t.connect r).routes.toList =
      (t.routes.toList.filter fun e => e.1 ≠ r.name) ++ [(r.name, r)] := by
  have hnew : r.name ∉ (t.routes.erase r.name).keys := by
    simp
  have hlist : (t.connect r).routes.toList = (t.routes.erase r.name).toList ++ [(r.name, r)] :=
    OrderedMap.insertEntry_of_notMem hnew r
  rw [hlist]
  simp [OrderedMap.erase]

theorem routes_ofConnections (cs : List Route) :
    (ofConnections cs).routes.toList = (standing cs).map fun r => (r.name, r) := by
  induction cs using List.reverseRecOn with
  | nil => rfl
  | append_singleton cs r ih =>
      rw [ofConnections_snoc, toList_routes_connect, standing_snoc, ih, List.map_append,
        List.filter_map]
      rfl

@[simp] theorem values_ofConnections (cs : List Route) :
    (ofConnections cs).routes.values = standing cs := by
  rw [OrderedMap.values, routes_ofConnections, List.map_map]
  exact List.map_id _

@[simp] theorem keys_ofConnections (cs : List Route) :
    (ofConnections cs).routes.keys = (standing cs).map Route.name := by
  rw [OrderedMap.keys, routes_ofConnections, List.map_map]
  rfl

@[simp] theorem candidates_ofConnections (cs : List Route) :
    (ofConnections cs).candidates = (standing cs).filter fun r => !r.isStatic := by
  induction cs using List.reverseRecOn with
  | nil => rfl
  | append_singleton cs r ih =>
      have hothers : (ofConnections cs).candidates.filter (fun s => s.name ≠ r.name) =
          ((standing cs).filter fun s => s.name ≠ r.name).filter fun s => !s.isStatic := by
        rw [ih, List.filter_filter, List.filter_filter]
        exact List.filter_congr fun s _ => Bool.and_comm _ _
      rw [ofConnections_snoc, connect, standing_snoc, List.filter_append]
      simp only [hothers]
      cases hstatic : r.isStatic with
      | false => simp [hstatic]
      | true => simp [hstatic]

/-- What is found under a name is the connection last made under it. -/
theorem get?_ofConnections (cs : List Route) (name : String) :
    (ofConnections cs).get? name = cs.reverse.find? fun r => r.name = name := by
  induction cs using List.reverseRecOn with
  | nil => rfl
  | append_singleton cs r ih =>
      by_cases hname : r.name = name <;> simp [hname, ih]

/-- The connection that stands under a name, if there is one, is the last made under it. -/
theorem standing_of_name (cs : List Route) (name : String) :
    (standing cs).filter (fun r => r.name = name) =
      (cs.reverse.find? fun r => r.name = name).toList := by
  induction cs using List.reverseRecOn with
  | nil => rfl
  | append_singleton cs r ih =>
      rw [standing_snoc, List.filter_append, List.filter_filter, List.reverse_concat,
        List.find?_cons]
      by_cases hname : r.name = name
      · subst hname
        simp
      · have hothers : (standing cs).filter (fun s => decide (s.name = name) &&
            decide (s.name ≠ r.name)) = (standing cs).filter fun s => s.name = name := by
          refine List.filter_congr fun s _ => ?_
          by_cases hs : s.name = name
          · simp [hs, Ne.symm hname]
          · simp [hs]
        rw [hothers, ih, List.filter_cons_of_neg (by simpa using hname), List.filter_nil,
          List.append_nil]
        simp [hname]

/-- Under each name there is one candidate at most, the route that the table has under it: so a
connection takes away the candidate that it replaces, and no other. -/
theorem candidates_of_name (cs : List Route) (name : String) :
    (ofConnections cs).candidates.filter (fun r => r.name = name) =
      ((ofConnections cs).get? name).toList.filter fun r => !r.isStatic := by
  rw [candidates_ofConnections, get?_ofConnections, ← standing_of_name, List.filter_filter,
    List.filter_filter]
  exact List.filter_congr fun r _ => Bool.and_comm _ _

/-! ## The route of a request -/

theorem match?_eq_some_iff {t : RouteTable} {request : Request} {r : Route} {d : MatchDict} :
    t.match? request = some (r, d) ↔
      ∃ before after, t.candidates = before ++ r :: after ∧ r.Claims request d ∧
        ∀ s ∈ before, ∀ d', ¬ s.Claims request d' := by
  rw [match?, List.findSome?_eq_some_iff]
  constructor
  · rintro ⟨before, s, after, hsplit, hs, hbefore⟩
    obtain ⟨d', hmatch, heq⟩ := Option.map_eq_some_iff.mp hs
    obtain ⟨rfl, rfl⟩ := Prod.mk.inj heq
    refine ⟨before, after, hsplit, Route.match?_eq_some_iff.mp hmatch, fun u hu => ?_⟩
    exact Route.match?_eq_none_iff.mp (Option.map_eq_none_iff.mp (hbefore u hu))
  · rintro ⟨before, after, hsplit, hclaims, hbefore⟩
    refine ⟨before, r, after, hsplit, ?_, fun u hu => ?_⟩
    · rw [Route.match?_eq_some_iff.mpr hclaims, Option.map_some]
    · rw [Route.match?_eq_none_iff.mpr (hbefore u hu), Option.map_none]

theorem match?_eq_none_iff {t : RouteTable} {request : Request} :
    t.match? request = none ↔ ∀ r ∈ t.candidates, ∀ d, ¬ r.Claims request d := by
  rw [match?, List.findSome?_eq_none_iff]
  refine forall_congr' fun r => imp_congr_right fun _ => ?_
  rw [Option.map_eq_none_iff, Route.match?_eq_none_iff]

/-- The first member of a filtered list is the first of the list that passes. -/
theorem filter_eq_append_cons_iff {α : Type} {p : α → Bool} {q : α → Prop} {l : List α} {a : α} :
    (∃ before after, l.filter p = before ++ a :: after ∧ ∀ b ∈ before, q b) ↔
      ∃ before after, l = before ++ a :: after ∧ p a = true ∧
        ∀ b ∈ before, p b = true → q b := by
  constructor
  · rintro ⟨before, after, hfilter, hbefore⟩
    obtain ⟨left, rest, rfl, hleft, hrest⟩ := List.filter_eq_append_iff.mp hfilter
    obtain ⟨skipped, tail, rfl, hskipped, ha, -⟩ := List.filter_eq_cons_iff.mp hrest
    refine ⟨left ++ skipped, tail, (List.append_assoc _ _ _).symm, ha, fun b hb hpb => ?_⟩
    rcases List.mem_append.mp hb with hb | hb
    · exact hbefore b (hleft ▸ List.mem_filter.mpr ⟨hb, hpb⟩)
    · exact absurd hpb (hskipped b hb)
  · rintro ⟨before, after, rfl, ha, hbefore⟩
    refine ⟨before.filter p, after.filter p, ?_, fun b hb => ?_⟩
    · rw [List.filter_append, List.filter_cons_of_pos ha]
    · obtain ⟨hb, hpb⟩ := List.mem_filter.mp hb
      exact hbefore b hb hpb

theorem candidates_eq_filter_values (cs : List Route) :
    (ofConnections cs).candidates = (ofConnections cs).routes.values.filter fun r => !r.isStatic := by
  rw [candidates_ofConnections, values_ofConnections]

theorem match?_ofConnections_iff {cs : List Route} {request : Request} {r : Route}
    {d : MatchDict} :
    (ofConnections cs).match? request = some (r, d) ↔
      ∃ before after, (ofConnections cs).routes.values = before ++ r :: after ∧
        r.isStatic = false ∧ r.Claims request d ∧
        ∀ s ∈ before, s.isStatic = false → ∀ d', ¬ s.Claims request d' := by
  have hfirst := filter_eq_append_cons_iff (p := fun s : Route => !s.isStatic)
    (q := fun s => ∀ d', ¬ s.Claims request d') (l := (ofConnections cs).routes.values) (a := r)
  simp only [Bool.not_eq_true'] at hfirst
  rw [match?_eq_some_iff, candidates_eq_filter_values]
  constructor
  · rintro ⟨before, after, hsplit, hclaims, hbefore⟩
    obtain ⟨before, after, hsplit, hr, hbefore⟩ := hfirst.mp ⟨before, after, hsplit, hbefore⟩
    exact ⟨before, after, hsplit, hr, hclaims, hbefore⟩
  · rintro ⟨before, after, hsplit, hr, hclaims, hbefore⟩
    obtain ⟨before, after, hsplit, hbefore⟩ := hfirst.mpr ⟨before, after, hsplit, hr, hbefore⟩
    exact ⟨before, after, hsplit, hclaims, hbefore⟩

theorem match?_ofConnections_eq_none_iff {cs : List Route} {request : Request} :
    (ofConnections cs).match? request = none ↔
      ∀ r ∈ (ofConnections cs).routes.values, r.isStatic = false →
        ∀ d, ¬ r.Claims request d := by
  rw [match?_eq_none_iff, candidates_eq_filter_values]
  simp only [List.mem_filter, Bool.not_eq_true', and_imp]

/-- **Routes over whole runs.** After any connections the table lists those that stand, each name
once, in the order of the last connections, and every name leads to the last connection made under
it. The candidates are the listed routes that are not static; under a name there is the route that
the table has under it, or none.

So a request goes to the first listed route that is not static and claims it, and to none when
there is no such route. Its values are captured by the pattern of that route, but for the path to
traverse. A connection that a later one of its name has replaced gets no request. -/
theorem connected_match_iff (cs : List Route) :
    let t := ofConnections cs
    t.routes.values = standing cs ∧
    t.routes.keys = t.routes.values.map Route.name ∧
    t.routes.keys = (cs.map Route.name).dedup ∧
    (∀ name, t.get? name = cs.reverse.find? fun r => r.name = name) ∧
    t.candidates = t.routes.values.filter (fun r => !r.isStatic) ∧
    (∀ name, t.candidates.filter (fun r => r.name = name) =
      (t.get? name).toList.filter fun r => !r.isStatic) ∧
    ∀ request,
      (∀ r d, t.match? request = some (r, d) ↔
        ∃ before after, t.routes.values = before ++ r :: after ∧ r.isStatic = false ∧
          r.Claims request d ∧
          ∀ s ∈ before, s.isStatic = false → ∀ d', ¬ s.Claims request d') ∧
      (t.match? request = none ↔
        ∀ r ∈ t.routes.values, r.isStatic = false → ∀ d, ¬ r.Claims request d) ∧
      ∀ r d, t.match? request = some (r, d) →
        (∃ captured, r.pattern.match? request.pathInfo = some captured ∧
          ∀ k, k ≠ Predicate.traverseKey → d.get? k = captured.get? k) ∧
        ∃ earlier later, cs = earlier ++ r :: later ∧ ∀ s ∈ later, s.name ≠ r.name := by
  intro t
  refine ⟨values_ofConnections cs, ?_, ?_, get?_ofConnections cs, candidates_eq_filter_values cs,
    candidates_of_name cs, fun request => ⟨fun r d => match?_ofConnections_iff, match?_ofConnections_eq_none_iff, ?_⟩⟩
  · rw [values_ofConnections, keys_ofConnections]
  · rw [keys_ofConnections, names_standing]
  · intro r d hmatch
    obtain ⟨before, after, hsplit, -, ⟨captured, hcaptured, -, hd⟩, -⟩ :=
      match?_ofConnections_iff.mp hmatch
    have hstanding : r ∈ standing cs := by
      rw [← values_ofConnections, hsplit]
      exact List.mem_append_right _ List.mem_cons_self
    refine ⟨⟨captured, hcaptured, fun k hk => ?_⟩, mem_standing_iff.mp hstanding⟩
    rw [← hd]
    exact Predicate.get?_leave r.predicates captured hk

end RouteTable

end WebDispatch
