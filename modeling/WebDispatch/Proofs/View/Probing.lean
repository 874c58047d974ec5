import WebDispatch.Proofs.View.Contents
import WebDispatch.Proofs.View.Negotiation
import WebDispatch.Proofs.View.Permissive
import WebDispatch.Proofs.View.Twins

/-!
# Probing a slot and calling it

A slot is asked for its predicates, for access and for the matching view without any view being
called, and it is called by trying one view after the other. Both ways lead to the same view, as
long as views fail because of predicates only where these refuse the request; and a slot of such
views is one itself, so that slots may hold slots.

* `View.SameFor` — two views that do the same for a request;
* `View.BuiltOf` — a view of given leaves, or a slot of such views, at any depth;
* `toView_sameFor`, `sameFor_of_replaced` — the slot does what its matching view does, and would do
  so whatever the other views did when called;
* `Leads`, `exists_leads` — the leaf to which the matching views lead;
* `probing_agrees_with_calling` — all that a slot does for a request.
-/

namespace WebDispatch

namespace View

variable {context : Resource} {env : Environment} {x : Exchange} {u v w : View}

/-- Two views that do the same for a request, whichever way they are called. -/
structure SameFor (context : Resource) (env : Environment) (x : Exchange) (u v : View) : Prop where
  call : u.call context env x = v.call context env x
  callPermissive : u.callPermissive context env x = v.callPermissive context env x
  permitted : u.permitted context x.toRequest = v.permitted context x.toRequest

theorem SameFor.trans (huv : u.SameFor context env x v) (hvw : v.SameFor context env x w) :
    u.SameFor context env x w where
  call := huv.call.trans hvw.call
  callPermissive := huv.callPermissive.trans hvw.callPermissive
  permitted := huv.permitted.trans hvw.permitted

theorem SameFor.symm (h : u.SameFor context env x v) : v.SameFor context env x u where
  call := h.call.symm
  callPermissive := h.callPermissive.symm
  permitted := h.permitted.symm

/-- Two views whose predicates say the same of a request. -/
def SameVerdict (context : Resource) (r : Request) (u v : View) : Prop :=
  u.predicatesHold context r = v.predicatesHold context r

theorem SameVerdict.refuses_eq {r : Request} (h : u.SameVerdict context r v) :
    u.refuses context r = v.refuses context r := by
  unfold SameVerdict at h
  rw [refuses, refuses, h]

/-- Being truthful is a matter of what the predicates say and of what the call gives. -/
theorem Truthful.of_same (hu : u.Truthful context env x)
    (hverdict : u.SameVerdict context x.toRequest v) (hsame : u.SameFor context env x v) :
    v.Truthful context env x := by
  intro e hcall hmismatch
  have hrefuses := hu e (by rw [hsame.call, hcall]) hmismatch
  rwa [hverdict] at hrefuses

/-- A view in the place of another one, with the same verdict; it does anything when it is called,
unless the other one is a given view. -/
def ReplacedExcept (context : Resource) (env : Environment) (x : Exchange) (v u u' : View) : Prop :=
  u.SameVerdict context x.toRequest u' ∧ (u = v → u.SameFor context env x u')

/-- A view of given leaves: one of them, or a slot of such views. -/
inductive BuiltOf (Leaf : View → Prop) : View → Prop
  | leaf {v : View} (h : Leaf v) : BuiltOf Leaf v
  | slot {m : MultiView} (h : ∀ c ∈ m.all, BuiltOf Leaf c.view) : BuiltOf Leaf m.toView

end View

namespace MultiView

variable {m m' : MultiView} {context : Resource} {env : Environment} {r : Request} {x : Exchange}
  {u v : View} {Leaf : View → Prop}

/-! ## The matching view -/

/-- Without media types, the views are tried as they stand. -/
theorem views_of_no_types (h : m.accepts = []) (r : Request) :
    m.views r = m.candidates.map Candidate.view := by
  have hnone : preferred r.accept [] = [] :=
    preferred_of_none (by cases r.accept <;> rfl)
  rw [views, h, hnone]
  rfl

theorem exists_candidate_of_match? (h : m.match? context r = some v) :
    ∃ c ∈ m.all, c.view = v := by
  have hmem : v ∈ m.views r := List.mem_of_find?_eq_some h
  obtain ⟨c, hc, hview⟩ := List.mem_map.mp hmem
  refine ⟨c, ?_, hview⟩
  rcases List.mem_append.mp hc with hc | hc
  · obtain ⟨type, -, hbucket⟩ := List.mem_flatMap.mp hc
    exact mem_all_of_mem_bucket (some type) hbucket
  · exact mem_all_of_mem_bucket none hc

theorem refuses_of_match?_none (h : m.match? context r = none) :
    ∀ v ∈ m.views r, v.refuses context r := by
  simpa [match?] using h

theorem call_of_match? (h : m.match? context x.toRequest = some v)
    (htruth : v.Truthful context env x) : m.call context env x = v.call context env x := by
  obtain ⟨haccepts, before, after, hviews, hbefore⟩ := List.find?_eq_some_iff_append.mp h
  have hbefore' : ∀ u ∈ before, u.refuses context x.toRequest := by
    intro u hu
    simpa using hbefore u hu
  have haccepts' : ¬ v.refuses context x.toRequest := by simpa using haccepts
  rcases hcall : v.call context env x with ⟨e | response, y⟩ <;>
    simp [call, hviews, View.callFirst_of_accepted hbefore' haccepts' htruth, hcall, Except.map]

theorem toView_sameFor (h : m.match? context x.toRequest = some v)
    (htruth : v.Truthful context env x) : m.toView.SameFor context env x v where
  call := call_of_match? h htruth
  callPermissive := by
    show m.callPermissive context env x = _
    rw [callPermissive_apply, h]
  permitted := by
    show ((m.match? context x.toRequest).all fun v => v.permitted context x.toRequest) = _
    rw [h, Option.all_some]

theorem callPermissive_of_match?_none (h : m.match? context x.toRequest = none) :
    m.callPermissive context env x = (.error m.mismatch, x) := by
  rw [callPermissive_apply, h]

@[simp] theorem predicatesHold_toView (m : MultiView) (context : Resource) (r : Request) :
    m.toView.predicatesHold context r = some (m.match? context r).isSome := rfl

/-! ## The other views -/

/-- Only the matching view has a say: the slot does what it did if the others are replaced. -/
theorem sameFor_of_replaced (h : m.match? context x.toRequest = some v)
    (htruth : v.Truthful context env x)
    (hreplaced : m.Related (View.ReplacedExcept context env x v) m') :
    m'.toView.SameFor context env x v := by
  have hmatches : Option.Rel (View.ReplacedExcept context env x v)
      (m.match? context x.toRequest) (m'.match? context x.toRequest) := by
    refine rel_find? (forall₂_views hreplaced (r := x.toRequest) rfl) ?_
    intro u u' hu
    rw [hu.1.refuses_eq]
  rw [h] at hmatches
  cases hmatch : m'.match? context x.toRequest with
  | none =>
      rw [hmatch] at hmatches
      cases hmatches
  | some v' =>
      rw [hmatch] at hmatches
      cases hmatches with
      | some hv =>
          have hsame := hv.2 rfl
          exact (toView_sameFor hmatch (htruth.of_same hv.1 hsame)).trans hsame.symm

/-! ## Slots within slots -/

/-- A slot of truthful views is truthful. -/
theorem truthful_toView (h : ∀ c ∈ m.all, c.view.Truthful context env x) :
    m.toView.Truthful context env x := by
  intro e hcall hmismatch
  rw [predicatesHold_toView]
  cases hmatch : m.match? context x.toRequest with
  | none => rfl
  | some v =>
      obtain ⟨c, hc, rfl⟩ := exists_candidate_of_match? hmatch
      have htruth := h c hc
      rw [(toView_sameFor hmatch htruth).call] at hcall
      have hrefuses : c.view.refuses context x.toRequest :=
        decide_eq_true (htruth e hcall hmismatch)
      exact absurd hrefuses (not_refuses_of_match? hmatch)

theorem truthful_of_builtOf (hleaf : ∀ v, Leaf v → v.Truthful context env x)
    (h : v.BuiltOf Leaf) : v.Truthful context env x := by
  induction h with
  | leaf h => exact hleaf _ h
  | slot _ ih => exact truthful_toView ih

/-- A view to which the matching views lead, from slot to slot. -/
inductive Leads (context : Resource) (r : Request) : MultiView → View → Prop
  | here {m : MultiView} {v : View} (h : m.match? context r = some v) : Leads context r m v
  | within {m n : MultiView} {v : View} (h : m.match? context r = some n.toView)
      (hrest : Leads context r n v) : Leads context r m v

/-- The matching views lead to a leaf, for which the matching view of the slot stands. -/
theorem exists_leads (hleaf : ∀ v, Leaf v → v.Truthful context env x) (hv : v.BuiltOf Leaf)
    (h : m.match? context x.toRequest = some v) :
    ∃ leaf, Leaf leaf ∧ Leads context x.toRequest m leaf ∧ v.SameFor context env x leaf := by
  induction hv generalizing m with
  | leaf hv => exact ⟨_, hv, .here h, ⟨rfl, rfl, rfl⟩⟩
  | @slot n hn ih =>
      -- a slot that matches has a matching view in turn
      obtain ⟨w, hw⟩ : ∃ w, n.match? context x.toRequest = some w := by
        have haccepts := not_refuses_of_match? h
        rw [View.refuses, predicatesHold_toView] at haccepts
        simpa [Option.ne_none_iff_exists'] using haccepts
      obtain ⟨c, hc, rfl⟩ := exists_candidate_of_match? hw
      obtain ⟨leaf, hl, hleads, hsame⟩ := ih c hc hw
      have htruth := truthful_of_builtOf hleaf (hn c hc)
      exact ⟨leaf, hl, .within h hleads, (toView_sameFor hw htruth).trans hsame⟩

/-- **Probing and calling agree.** Let the leaves of a slot fail because of predicates only where
their own predicates refuse the request. If a view of the slot matches, then calling the slot,
calling it permissively and asking it for access are the same of that view, with all effects, and
stay so whatever the other views would do if they were called; the matching views lead to a leaf
that does the same in turn. If none matches, both calls fail because of predicates, in the name of
the slot, and leave the exchange as it was, and access is given. The predicates of the slot hold
exactly if a view matches, and refuse the request otherwise. -/
theorem probing_agrees_with_calling (m : MultiView) (context : Resource) (env : Environment)
    (x : Exchange) (hleaf : ∀ v, Leaf v → v.Truthful context env x)
    (h : ∀ c ∈ m.all, c.view.BuiltOf Leaf) :
    (∀ v, m.match? context x.toRequest = some v →
      m.toView.SameFor context env x v ∧
      (∀ m', m.Related (View.ReplacedExcept context env x v) m' →
        m'.toView.SameFor context env x v) ∧
      ∃ leaf, Leaf leaf ∧ Leads context x.toRequest m leaf ∧
        m.toView.SameFor context env x leaf) ∧
    (m.match? context x.toRequest = none →
      m.toView.call context env x = (.error (.predicateMismatch m.name), x) ∧
      m.toView.callPermissive context env x = (.error (.predicateMismatch m.name), x) ∧
      m.toView.permitted context x.toRequest = true) ∧
    (m.toView.predicatesHold context x.toRequest = some true ↔
      ∃ v, m.match? context x.toRequest = some v) ∧
    (m.toView.predicatesHold context x.toRequest = some false ↔
      m.match? context x.toRequest = none) := by
  refine ⟨?matched, ?unmatched, ?holds, ?refuses⟩
  case matched =>
    intro v hmatch
    obtain ⟨c, hc, rfl⟩ := exists_candidate_of_match? hmatch
    have htruth := truthful_of_builtOf hleaf (h c hc)
    have hsame : m.toView.SameFor context env x c.view := toView_sameFor hmatch htruth
    obtain ⟨leaf, hl, hleads, hleafSame⟩ := exists_leads hleaf (h c hc) hmatch
    refine ⟨hsame, ?_, leaf, hl, hleads, hsame.trans hleafSame⟩
    intro m' hreplaced
    exact sameFor_of_replaced hmatch htruth hreplaced
  case unmatched =>
    intro hnone
    refine ⟨call_of_refused (refuses_of_match?_none hnone), callPermissive_of_match?_none hnone, ?_⟩
    show ((m.match? context x.toRequest).all fun v => v.permitted context x.toRequest) = true
    rw [hnone]
    rfl
  case holds =>
    rw [predicatesHold_toView, Option.some.injEq]
    exact Option.isSome_iff_exists
  case refuses =>
    rw [predicatesHold_toView, Option.some.injEq]
    exact Option.isSome_eq_false_iff.trans Option.isNone_iff_eq_none

def answering : View where
  description := "answering"
  call := fun _ => pure {}

def hesitant : MultiView where
  name := "hesitant"
  candidates := [⟨1, Registry.refusing, "a"⟩, ⟨2, answering, "b"⟩]

/-- A slot with that slot between a view that refuses and one that denies access. -/
def layered : MultiView where
  name := "layered"
  candidates := [⟨1, Registry.refusing, "a"⟩, ⟨2, hesitant.toView, "b"⟩, ⟨3, Registry.denying, "c"⟩]

theorem probing_agrees_with_calling_layered :
    layered.match? (.defaultRoot none) {} = some hesitant.toView ∧
      layered.toView.SameFor (.defaultRoot none) {} {} hesitant.toView ∧
      layered.toView.call (.defaultRoot none) {} {} = (.ok {}, {}) := by
  have hleaf : ∀ v, v = Registry.refusing ∨ v = answering ∨ v = Registry.denying →
      v.Truthful (.defaultRoot none) {} {} := by
    rintro v (rfl | rfl | rfl) e hcall hmismatch
    · rfl
    · cases hcall
    · cases hcall
      cases hmismatch
  have hhesitant : ∀ c ∈ hesitant.all, c.view.BuiltOf fun v =>
      v = Registry.refusing ∨ v = answering ∨ v = Registry.denying := by
    intro c hc
    rcases List.mem_pair.mp hc with rfl | rfl
    · exact .leaf (Or.inl rfl)
    · exact .leaf (Or.inr (Or.inl rfl))
  have hlayered : ∀ c ∈ layered.all, c.view.BuiltOf fun v =>
      v = Registry.refusing ∨ v = answering ∨ v = Registry.denying := by
    intro c hc
    have hc' : c = ⟨1, Registry.refusing, "a"⟩ ∨ c = ⟨2, hesitant.toView, "b"⟩ ∨
        c = ⟨3, Registry.denying, "c"⟩ := by
      simpa [all, layered, OrderedMap.values] using hc
    rcases hc' with rfl | rfl | rfl
    · exact .leaf (Or.inl rfl)
    · exact .slot hhesitant
    · exact .leaf (Or.inr (Or.inr rfl))
  have hinner : hesitant.match? (.defaultRoot none) {} = some answering := by
    rw [match?, views_of_no_types rfl]
    rfl
  have hmatch : layered.match? (.defaultRoot none) {} = some hesitant.toView := by
    have hverdict : hesitant.toView.refuses (.defaultRoot none) {} = false := by
      rw [View.refuses, predicatesHold_toView, hinner]
      rfl
    rw [match?, views_of_no_types rfl]
    simp only [layered, List.map_cons, List.find?_cons, hverdict]
    rfl
  have hsame := ((probing_agrees_with_calling layered (.defaultRoot none) {} {} hleaf
    hlayered).1 hesitant.toView hmatch).1
  have hcall := ((probing_agrees_with_calling hesitant (.defaultRoot none) {} {} hleaf
    hhesitant).1 answering hinner).1.call
  exact ⟨hmatch, hsame, hsame.call.trans hcall⟩

end MultiView

end WebDispatch
