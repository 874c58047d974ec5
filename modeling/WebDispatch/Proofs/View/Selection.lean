import Mathlib.Data.List.Basic
import Mathlib.Data.List.ProdSigma
import Mathlib.Tactic.ByContra
import WebDispatch.Proofs.Effect
import WebDispatch.Router

/-!
# The view that answers a request

The slots for a request and a context are looked at in order, and the view of the first slot whose
predicates do not refuse the request is called. Its result is final, unless it fails because of
predicates: then the next views have their turn. A view that does so only where its predicates
refuse the request is never passed over once it has been called.

* `View.callFirst_cons` — one view of a list; `callFirst_of_refused`, `callFirst_of_accepted` —
  the views up to the first that is called;
* `callView_eq` — the result of the list as the answer to the request;
* `callView_runs_first_accepting` — the answer told by the slots alone.
-/

namespace WebDispatch

open WebDispatch.Http (Response)

/-! ## Lists of views -/

namespace View

/-- A view that fails because of predicates has predicates that refuse the request. -/
def Truthful (context : Resource) (env : Environment) (x : Exchange) (v : View) : Prop :=
  ∀ e, (v.call context env x).1 = .error e → e.isMismatch →
    v.predicatesHold context x.toRequest = some false

section CallFirst

variable {refusal : View → Error} {context : Resource} {env : Environment} {x : Exchange}

theorem callFirst_cons (v : View) (rest : List View) (last : Option Error) :
    callFirst refusal context (v :: rest) last env x =
      if v.refuses context x.toRequest then
        callFirst refusal context rest (some (refusal v)) env x
      else match v.call context env x with
        | (.ok response, y) => (.ok (.inl response), y)
        | (.error e, y) =>
          if e.isMismatch then callFirst refusal context rest (some e) env y
          else (.error e, y) := by
  by_cases h : v.refuses context x.toRequest
  · simp [callFirst, h]
  · rcases hcall : v.call context env x with ⟨e | response, y⟩
    · by_cases he : e.isMismatch <;> simp [callFirst, h, hcall, he]
    · simp [callFirst, h, hcall]

/-- Views that refuse the request are passed over; the last of them is what there is to tell. -/
theorem callFirst_append_of_refused {before : List View}
    (h : ∀ v ∈ before, v.refuses context x.toRequest) (rest : List View) (last : Option Error) :
    callFirst refusal context (before ++ rest) last env x =
      callFirst refusal context rest ((before.getLast?.map refusal).or last) env x := by
  induction before generalizing last with
  | nil => rfl
  | cons v before ih =>
      rw [List.cons_append, callFirst_cons, if_pos (h v List.mem_cons_self),
        ih fun u hu => h u (List.mem_cons_of_mem v hu), List.getLast?_cons]
      cases before.getLast? <;> rfl

theorem callFirst_of_refused {views : List View} (h : ∀ v ∈ views, v.refuses context x.toRequest)
    (last : Option Error) :
    callFirst refusal context views last env x =
      (.ok (.inr ((views.getLast?.map refusal).or last)), x) := by
  have hrun : callFirst refusal context (views ++ []) last env x = _ :=
    callFirst_append_of_refused h [] last
  rwa [List.append_nil] at hrun

/-- The first view that does not refuse the request has the last word. -/
theorem callFirst_of_accepted {before rest : List View} {v : View}
    (hbefore : ∀ u ∈ before, u.refuses context x.toRequest)
    (hv : ¬ v.refuses context x.toRequest) (htruth : v.Truthful context env x)
    (last : Option Error) :
    callFirst refusal context (before ++ v :: rest) last env x =
      ((v.call context env x).1.map .inl, (v.call context env x).2) := by
  rw [callFirst_append_of_refused hbefore, callFirst_cons, if_neg hv]
  rcases hcall : v.call context env x with ⟨e | response, y⟩
  · have he : ¬ e.isMismatch := by
      intro hmismatch
      exact hv (decide_eq_true (htruth e (congrArg Prod.fst hcall) hmismatch))
    simp only [if_neg he]
    rfl
  · rfl

end CallFirst

end View

/-! ## The slots of a registry -/

namespace Registry

variable {c : Registry} {context : Resource} {env : Environment} {x : Exchange}

/-- The keys of the slots for each of some requests with each of some contexts: the requests come in
their order, and for each of them the contexts in theirs. -/
def grid (classifier : Interface) (requests contexts : List Interface) (name : String) :
    List ViewKey :=
  (requests ×ˢ contexts).map fun p => ⟨classifier, p.1, p.2, name⟩

@[simp] theorem mem_grid {classifier : Interface} {requests contexts : List Interface}
    {name : String} {key : ViewKey} :
    key ∈ grid classifier requests contexts name ↔ key.classifier = classifier ∧
      key.request ∈ requests ∧ key.context ∈ contexts ∧ key.name = name := by
  simp only [grid, List.mem_map, Prod.exists, List.mem_product]
  constructor
  · rintro ⟨request, context, ⟨hrequest, hcontext⟩, rfl⟩
    exact ⟨rfl, hrequest, hcontext, rfl⟩
  · rintro ⟨rfl, hrequest, hcontext, rfl⟩
    exact ⟨key.request, key.context, ⟨hrequest, hcontext⟩, rfl⟩

/-- Slots are looked at along the grid. -/
@[simp] theorem keys_eq_grid (classifier : Interface) (requests contexts : List Interface)
    (name : String) :
    keys classifier requests contexts name = grid classifier requests contexts name := by
  induction requests with
  | nil => rfl
  | cons request requests ih =>
    simp only [grid, List.product_cons, List.map_append, List.map_map] at ih ⊢
    rw [← ih]
    rfl

def slotKeys (context : Resource) (r : Request) : List ViewKey :=
  grid .viewClassifier r.type.order context.provided r.viewName

/-- Nothing is registered in any slot for a request and a context. -/
def Vacant (c : Registry) (context : Resource) (r : Request) : Prop :=
  ∀ key ∈ slotKeys context r, c.views.get? key = none

def AllViews (c : Registry) (context : Resource) (r : Request) (p : View → Prop) : Prop :=
  ∀ key ∈ slotKeys context r, ∀ s, c.views.get? key = some s → p s.toView

/-- A view is that of the first slot, in order, that is occupied and does not refuse the
request. -/
def FirstAccepting (c : Registry) (context : Resource) (r : Request) (v : View) : Prop :=
  ∃ before key after s, slotKeys context r = before ++ key :: after ∧
    c.views.get? key = some s ∧ s.toView = v ∧ v.predicatesHold context r ≠ some false ∧
    ∀ k ∈ before, ∀ t, c.views.get? k = some t → t.toView.predicatesHold context r = some false

theorem viewsFor_eq (c : Registry) (context : Resource) (r : Request) :
    c.viewsFor context r = ((slotKeys context r).filterMap c.views.get?).map Slot.toView := by
  rw [viewsFor, findViews, keys_eq_grid]
  rfl

theorem mem_map_toView_iff {ks : List ViewKey} {v : View} :
    v ∈ (ks.filterMap c.views.get?).map Slot.toView ↔
      ∃ key ∈ ks, ∃ s, c.views.get? key = some s ∧ s.toView = v := by
  rw [List.mem_map]
  constructor
  · rintro ⟨s, hs, hv⟩
    obtain ⟨key, hkey, hget⟩ := List.mem_filterMap.mp hs
    exact ⟨key, hkey, s, hget, hv⟩
  · rintro ⟨key, hkey, s, hget, hv⟩
    exact ⟨s, List.mem_filterMap.mpr ⟨key, hkey, hget⟩, hv⟩

theorem allViews_iff {r : Request} {p : View → Prop} :
    c.AllViews context r p ↔ ∀ v ∈ c.viewsFor context r, p v := by
  rw [viewsFor_eq]
  constructor
  · intro h v hv
    obtain ⟨key, hkey, s, hget, rfl⟩ := mem_map_toView_iff.mp hv
    exact h key hkey s hget
  · intro h key hkey s hget
    exact h s.toView (mem_map_toView_iff.mpr ⟨key, hkey, s, hget, rfl⟩)

theorem vacant_iff {r : Request} : c.Vacant context r ↔ c.viewsFor context r = [] := by
  rw [viewsFor_eq, List.map_eq_nil_iff, List.filterMap_eq_nil_iff]
  rfl

/-- The view of the first slot that accepts the request is called first. -/
theorem viewsFor_of_firstAccepting {r : Request} {v : View} (h : c.FirstAccepting context r v) :
    ∃ before rest, c.viewsFor context r = before ++ v :: rest ∧
      (∀ u ∈ before, u.refuses context r) ∧ ¬ v.refuses context r := by
  obtain ⟨before, key, after, s, hkeys, hget, rfl, haccepts, hbefore⟩ := h
  refine ⟨(before.filterMap c.views.get?).map Slot.toView,
    (after.filterMap c.views.get?).map Slot.toView, ?_, ?_, ?_⟩
  · rw [viewsFor_eq, hkeys, List.filterMap_append, List.filterMap_cons_some hget, List.map_append,
      List.map_cons]
  · intro u hu
    obtain ⟨k, hk, t, hgett, rfl⟩ := mem_map_toView_iff.mp hu
    exact decide_eq_true (hbefore k hk t hgett)
  · simpa [View.refuses] using haccepts

/-- What some member of a list satisfies, a first one does. -/
theorem exists_first {α : Type} {p : α → Prop} {l : List α} (h : ∃ a ∈ l, p a) :
    ∃ before a after, l = before ++ a :: after ∧ p a ∧ ∀ b ∈ before, ¬ p b := by
  classical
  have hsome : (l.find? fun a => decide (p a)).isSome := by simpa using h
  obtain ⟨a, hfind⟩ := Option.isSome_iff_exists.mp hsome
  obtain ⟨ha, before, after, hl, hbefore⟩ := List.find?_eq_some_iff_append.mp hfind
  exact ⟨before, a, after, hl, of_decide_eq_true ha, fun b hb => by simpa using hbefore b hb⟩

/-- Unless all views refuse the request, there is a first one that does not. -/
theorem exists_firstAccepting {r : Request}
    (h : ¬ c.AllViews context r fun v => v.predicatesHold context r = some false) :
    ∃ v, c.FirstAccepting context r v := by
  have hsome : ∃ key ∈ slotKeys context r,
      ∃ s, c.views.get? key = some s ∧ s.toView.predicatesHold context r ≠ some false := by
    by_contra hnone
    refine h fun key hkey s hget => ?_
    by_contra haccepts
    exact hnone ⟨key, hkey, s, hget, haccepts⟩
  obtain ⟨before, key, after, hkeys, ⟨s, hget, haccepts⟩, hbefore⟩ := exists_first hsome
  -- before the first slot whose view accepts, the views that there are refuse
  refine ⟨s.toView, before, key, after, s, hkeys, hget, rfl, haccepts, ?_⟩
  intro k hk t hgett
  by_contra hnot
  exact hbefore k hk ⟨t, hgett, hnot⟩

theorem callView_eq (c : Registry) (context : Resource) (env : Environment) (x : Exchange) :
    c.callView context env x =
      match View.callFirst (fun v => .predicateMismatch v.description) context
          (c.viewsFor context x.toRequest) none env x with
      | (.ok (.inl response), y) => (.ok response, y)
      | (.ok (.inr (some e)), y) => (.error e, y)
      | (.ok (.inr none), y) => (c.noView context >>= throw) env y
      | (.error e, y) => (.error e, y) := by
  rcases h : View.callFirst (fun v => .predicateMismatch v.description) context
    (c.viewsFor context x.toRequest) none env x with ⟨e | response | e | e, y⟩
  all_goals simp [callView, h]

/-- The failure of a request without a view. -/
theorem noView_apply (c : Registry) (context : Resource) (env : Environment) (x : Exchange) :
    (c.noView context >>= throw : Handling Response) env x =
      if c.settings.debugNotFound then
        (.error (.notFound (notFoundText x.toRequest context)),
          x.report .debug routerArea (notFoundText x.toRequest context))
      else (.error (.notFound x.toRequest.pathInfo), x) := by
  by_cases h : c.settings.debugNotFound <;> simp [noView, h]

/-! ## The answer -/

theorem callView_of_firstAccepting
    (h : c.AllViews context x.toRequest (View.Truthful context env x)) {v : View}
    (hv : c.FirstAccepting context x.toRequest v) :
    c.callView context env x = v.call context env x := by
  obtain ⟨before, rest, hviews, hbefore, haccepts⟩ := viewsFor_of_firstAccepting hv
  have hmem : v ∈ c.viewsFor context x.toRequest := by
    rw [hviews]
    exact List.mem_append_right _ List.mem_cons_self
  rw [callView_eq, hviews,
    View.callFirst_of_accepted hbefore haccepts (allViews_iff.mp h v hmem)]
  rcases v.call context env x with ⟨e | response, y⟩ <;> rfl

theorem callView_of_refused (env : Environment) (hoccupied : ¬ c.Vacant context x.toRequest)
    (h : c.AllViews context x.toRequest
      fun v => v.predicatesHold context x.toRequest = some false) :
    ∃ v ∈ c.viewsFor context x.toRequest,
      c.callView context env x = (.error (.predicateMismatch v.description), x) := by
  rw [vacant_iff] at hoccupied
  have hall : ∀ v ∈ c.viewsFor context x.toRequest, v.refuses context x.toRequest :=
    fun v hv => decide_eq_true (allViews_iff.mp h v hv)
  refine ⟨(c.viewsFor context x.toRequest).getLast hoccupied, List.getLast_mem hoccupied, ?_⟩
  rw [callView_eq, View.callFirst_of_refused hall, List.getLast?_eq_some_getLast hoccupied]
  rfl

theorem callView_of_vacant (h : c.Vacant context x.toRequest) :
    c.callView context env x =
      if c.settings.debugNotFound then
        (.error (.notFound (notFoundText x.toRequest context)),
          x.report .debug routerArea (notFoundText x.toRequest context))
      else (.error (.notFound x.toRequest.pathInfo), x) := by
  rw [← noView_apply c context env x, callView_eq, vacant_iff.mp h]
  rfl

/-- Where no view fails like that itself, a request is not found exactly when there is no view. -/
theorem callView_notFound_iff
    (h : c.AllViews context x.toRequest (View.Truthful context env x))
    (hviews : c.AllViews context x.toRequest
      fun v => ∀ text, (v.call context env x).1 ≠ .error (.notFound text)) :
    (∃ text, (c.callView context env x).1 = .error (.notFound text)) ↔
      c.Vacant context x.toRequest := by
  constructor
  · rintro ⟨text, hnotFound⟩
    by_contra hoccupied
    -- with a view in some slot, either all refuse, which is a mismatch, or a first one answers
    by_cases hrefused : c.AllViews context x.toRequest
        fun v => v.predicatesHold context x.toRequest = some false
    · obtain ⟨v, -, hcall⟩ := callView_of_refused env hoccupied hrefused
      rw [hcall] at hnotFound
      cases hnotFound
    · obtain ⟨v, hv⟩ := exists_firstAccepting hrefused
      rw [callView_of_firstAccepting h hv] at hnotFound
      obtain ⟨before, key, after, s, hkeys, hget, rfl, -⟩ := hv
      have hkey : key ∈ slotKeys context x.toRequest := by
        rw [hkeys]
        exact List.mem_append_right _ List.mem_cons_self
      exact hviews key hkey s hget text hnotFound
  · intro hvacant
    rw [callView_of_vacant hvacant]
    split
    · exact ⟨_, rfl⟩
    · exact ⟨_, rfl⟩

/-- For a route without global views, what is registered for requests at large is not looked
at. -/
theorem request_ne_of_mem_slotKeys {r : Request} {route : Route} (htype : r.type = route.type)
    (hlocal : route.useGlobalViews = false) {key : ViewKey} (hkey : key ∈ slotKeys context r) :
    key.request ≠ Interface.request := by
  obtain ⟨-, hrequest, -⟩ := mem_grid.mp hkey
  have horder : r.type.order = [.ofRoute route.name, .any] := by
    simp [htype, Route.type, hlocal, RequestType.order, RequestType.ofRoute]
  rw [horder] at hrequest
  rcases List.mem_pair.mp hrequest with hroute | hany
  · rw [hroute]
    exact Interface.noConfusion
  · rw [hany]
    decide

theorem callView_congr {views : OrderedMap ViewKey Slot}
    (h : ∀ key ∈ slotKeys context x.toRequest, views.get? key = c.views.get? key) :
    ({ c with views := views } : Registry).callView context env x =
      c.callView context env x := by
  have hviews : ({ c with views := views } : Registry).viewsFor context x.toRequest =
      c.viewsFor context x.toRequest := by
    rw [viewsFor_eq, viewsFor_eq]
    exact congrArg (List.map Slot.toView) (List.filterMap_congr h)
  rw [callView_eq, callView_eq, hviews]
  rfl

/-- **The first view that accepts a request answers it.** Let views fail because of predicates
only where their own predicates refuse the request. Then the answer is, with all its effects, that
of the view of the first occupied slot that does not refuse the request. Where all views refuse it,
the answer is a mismatch; where there are none, the request is not found, and only then does this
failure come from elsewhere than a view. For the requests of a route without global views, what is
registered for requests at large makes no difference. -/
theorem callView_runs_first_accepting (c : Registry) (context : Resource) (env : Environment)
    (x : Exchange) (h : c.AllViews context x.toRequest (View.Truthful context env x)) :
    (∀ v, c.FirstAccepting context x.toRequest v →
      c.callView context env x = v.call context env x) ∧
    (¬ c.Vacant context x.toRequest →
      c.AllViews context x.toRequest
        (fun v => v.predicatesHold context x.toRequest = some false) →
      ∃ v ∈ c.viewsFor context x.toRequest,
        c.callView context env x = (.error (.predicateMismatch v.description), x)) ∧
    (c.Vacant context x.toRequest →
      c.callView context env x =
        if c.settings.debugNotFound then
          (.error (.notFound (notFoundText x.toRequest context)),
            x.report .debug routerArea (notFoundText x.toRequest context))
        else (.error (.notFound x.toRequest.pathInfo), x)) ∧
    (c.AllViews context x.toRequest
        (fun v => ∀ text, (v.call context env x).1 ≠ .error (.notFound text)) →
      ((∃ text, (c.callView context env x).1 = .error (.notFound text)) ↔
        c.Vacant context x.toRequest)) ∧
    ∀ (route : Route) views, x.toRequest.type = route.type → route.useGlobalViews = false →
      (∀ key : ViewKey, key.request ≠ Interface.request → views.get? key = c.views.get? key) →
      ({ c with views := views } : Registry).callView context env x =
        c.callView context env x := by
  refine ⟨fun v hv => callView_of_firstAccepting h hv, callView_of_refused env, callView_of_vacant,
    callView_notFound_iff h, ?_⟩
  intro route views htype hlocal hsame
  exact callView_congr fun key hkey => hsame key (request_ne_of_mem_slotKeys htype hlocal hkey)

def refusing : View where
  description := "refusing"
  call := fun _ => throw (.predicateMismatch "refusing")
  predicatesHold := fun _ _ => some false

def denying : View where
  description := "denying"
  call := fun _ => throw (.forbidden "denied")

/-- Two views for a route, and one for requests at large. -/
def gated : Registry where
  name := "gated"
  views := ⟨[
    (⟨.viewClassifier, .ofRoute "item", .defaultRoot, ""⟩, .single refusing),
    (⟨.viewClassifier, .ofRoute "item", .any, ""⟩, .single denying),
    (⟨.viewClassifier, .request, .any, ""⟩, .single
      { description := "general", call := fun _ => pure {} })]⟩

def claimed : Exchange := { type := .ofRoute "item" false }

theorem gated_denies :
    gated.AllViews (.defaultRoot none) claimed.toRequest
        (View.Truthful (.defaultRoot none) {} claimed) ∧
      gated.FirstAccepting (.defaultRoot none) claimed.toRequest denying ∧
      gated.callView (.defaultRoot none) {} claimed = (.error (.forbidden "denied"), claimed) := by
  have hviews :
      gated.viewsFor (.defaultRoot none) claimed.toRequest = [refusing, denying] := rfl
  have htruth : gated.AllViews (.defaultRoot none) claimed.toRequest
      (View.Truthful (.defaultRoot none) {} claimed) := by
    rw [allViews_iff, hviews]
    intro v hv e hcall hmismatch
    rcases List.mem_pair.mp hv with rfl | rfl
    · rfl
    · cases hcall
      cases hmismatch
  have hfirst : gated.FirstAccepting (.defaultRoot none) claimed.toRequest denying := by
    refine ⟨[⟨.viewClassifier, .ofRoute "item", .defaultRoot, ""⟩], _, _, _, rfl, rfl, rfl,
      by decide, ?_⟩
    intro k hk t hget
    rw [List.mem_singleton.mp hk] at hget
    cases hget
    rfl
  exact ⟨htruth, hfirst,
    (callView_runs_first_accepting gated _ {} claimed htruth).1 denying hfirst⟩

end Registry

end WebDispatch
