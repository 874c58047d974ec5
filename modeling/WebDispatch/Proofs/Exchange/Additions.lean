import WebDispatch.ExceptionView
import WebDispatch.Keeping
import WebDispatch.Proofs.View.Selection

/-!
# Work is only added while a request is handled

Views, subscribers and tweens may add work for the response and for the end, and take none away.
Where all those of a registry do so, the handling of a request does: whatever is called on the way,
also by name and for errors, and whether a response comes of it or not.

* `Exchange.Grows` — work has only been added; `Handling.OnlyAdds` — a computation only adds work;
* `Registry.OnlyAdds` — the same of all that a registry holds;
* `environmentWithin_onlyAdds`, `dispatch_onlyAdds`, `Tweens.wrap_onlyAdds` — how it is kept;
* `Router.handle_grows` — so it is for the router of a registry.
-/

namespace WebDispatch

open WebDispatch.Http (Response)

/-! ## Computations that only add work -/

/-- What there was to do is still to be done, in its places; there may be more behind it. -/
structure Exchange.Grows (x y : Exchange) : Prop where
  response : x.responseCallbacks <+: y.responseCallbacks
  finished : x.finishedCallbacks <+: y.finishedCallbacks

namespace Exchange

variable {x y : Exchange}

instance : Std.Refl Grows where
  refl _ := ⟨List.prefix_refl _, List.prefix_refl _⟩

instance : Trans Grows Grows Grows where
  trans h k := ⟨h.response.trans k.response, h.finished.trans k.finished⟩

/-- The same of an exchange beside a response. -/
def GrowsBeside (p q : Response × Exchange) : Prop := p.2.Grows q.2

instance : Std.Refl GrowsBeside where
  refl p := Std.Refl.refl p.2

instance : Trans GrowsBeside GrowsBeside GrowsBeside where
  trans h k := Trans.trans (r := Grows) h k

/-- The two lists of work are those that there were. -/
theorem Grows.of_eq (hr : y.responseCallbacks = x.responseCallbacks)
    (hf : y.finishedCallbacks = x.finishedCallbacks) : x.Grows y :=
  ⟨hr ▸ List.prefix_refl _, hf ▸ List.prefix_refl _⟩

theorem grows_onResponse (x : Exchange) (c : ResponseCallback) : x.Grows (x.onResponse c) :=
  ⟨List.prefix_append _ _, List.prefix_refl _⟩

theorem grows_onFinished (x : Exchange) (c : FinishedCallback) : x.Grows (x.onFinished c) :=
  ⟨List.prefix_refl _, List.prefix_append _ _⟩

end Exchange

/-- The ways back into the views only add work. -/
structure Environment.OnlyAdds (env : Environment) : Prop where
  renderNamed : ∀ context name secure, (env.renderNamed context name secure).Keeps Exchange.Grows
  handleError : ∀ e, (env.handleError e).Keeps Exchange.Grows

/-- A computation only adds work where what it may call does. -/
def Handling.OnlyAdds {α : Type} (act : Handling α) : Prop :=
  ∀ env : Environment, env.OnlyAdds → (act env).Keeps Exchange.Grows

namespace Handling.OnlyAdds

variable {α β : Type}

theorem pure (a : α) : OnlyAdds (pure a) := fun _ _ => Effect.Keeps.pure a

theorem throw (e : Error) : OnlyAdds (throw e : Handling α) := fun _ _ => Effect.Keeps.throw e

theorem ofExcept (r : Except Error α) : OnlyAdds (Handling.ofExcept r) :=
  fun _ _ => Effect.Keeps.ofExcept r

theorem bind {act : Handling α} {f : α → Handling β} (hact : act.OnlyAdds)
    (hf : ∀ a, (f a).OnlyAdds) : (act >>= f).OnlyAdds :=
  fun env henv => (hact env henv).bind fun a => hf a env henv

theorem outcome {act : Handling α} (h : act.OnlyAdds) : act.outcome.OnlyAdds := h

theorem modify {f : Exchange → Exchange} (h : ∀ x : Exchange, x.Grows (f x)) :
    OnlyAdds (modify f : Handling PUnit) := fun _ _ => Effect.Keeps.modify h

/-- The environment that is read may be taken to add work only. -/
theorem bind_read {f : Environment → Handling β}
    (h : ∀ env : Environment, env.OnlyAdds → (f env env).Keeps Exchange.Grows) :
    OnlyAdds (read >>= f) := h

theorem request : OnlyAdds Handling.request := fun _ _ x => Std.Refl.refl x

theorem modifyRequest (f : Request → Request) : OnlyAdds (Handling.modifyRequest f) :=
  OnlyAdds.modify fun _ => .of_eq rfl rfl

theorem report (level : Level) (area message : String) :
    OnlyAdds (Handling.report level area message) :=
  OnlyAdds.modify fun _ => .of_eq rfl rfl

end Handling.OnlyAdds

/-! ## What a registry holds -/

structure View.OnlyAdds (v : View) : Prop where
  call : ∀ context, (v.call context).OnlyAdds
  callPermissive : ∀ context, (v.callPermissive context).OnlyAdds

def Slot.OnlyAdds : Slot → Prop
  | .single v => v.OnlyAdds
  | .multi m => ∀ r, ∀ v ∈ m.views r, v.OnlyAdds

structure Subscriber.OnlyAdds (s : Subscriber) : Prop where
  newRequest : s.newRequest.Keeps Exchange.Grows
  contextFound : s.contextFound.Keeps Exchange.Grows
  newResponse : s.newResponse.Keeps Exchange.GrowsBeside

def TweenFactory.OnlyAdds (factory : TweenFactory) : Prop :=
  ∀ (registry : String) (next : Handler), next.OnlyAdds →
    ∀ j, Handling.OnlyAdds (factory registry next j).1

structure Registry.OnlyAdds (c : Registry) : Prop where
  views : ∀ key slot, c.views.get? key = some slot → slot.OnlyAdds
  subscribers : ∀ e ∈ c.subscriptions, e.2.OnlyAdds
  explicitTweens : ∀ e ∈ c.tweens.explicit, TweenFactory.OnlyAdds e.2
  tweens : ∀ name factory, c.tweens.factories.get? name = some factory →
    TweenFactory.OnlyAdds factory

/-! ## Calling views -/

theorem View.callFirst_onlyAdds {refusal : View → Error} {context : Resource} {views : List View}
    (h : ∀ v ∈ views, v.OnlyAdds) (last : Option Error) :
    (View.callFirst refusal context views last).OnlyAdds := by
  induction views generalizing last with
  | nil => exact .pure _
  | cons v rest ih =>
      have hrest := ih fun u hu => h u (List.mem_cons_of_mem v hu)
      refine .bind .request fun r => ?_
      split
      · exact hrest _
      · refine .bind ((h v List.mem_cons_self).call context).outcome fun result => ?_
        split
        · exact .pure _
        · split
          · exact hrest _
          · exact .throw _

theorem MultiView.toView_onlyAdds {m : MultiView} (h : ∀ r, ∀ v ∈ m.views r, v.OnlyAdds) :
    m.toView.OnlyAdds where
  call context := by
    refine .bind .request fun r => .bind (View.callFirst_onlyAdds (h r) none) fun result => ?_
    split
    · exact .pure _
    · exact .throw _
  callPermissive context := by
    refine .bind .request fun r => ?_
    split
    · next v hv => exact (h r v (List.mem_of_find?_eq_some hv)).callPermissive context
    · exact .throw _

theorem Slot.toView_onlyAdds : ∀ {s : Slot}, s.OnlyAdds → s.toView.OnlyAdds
  | .single _, h => h
  | .multi _, h => MultiView.toView_onlyAdds h

namespace Registry

variable {c : Registry}

theorem OnlyAdds.of_mem_findViews (h : c.OnlyAdds) {classifier : Interface}
    {requests contexts : List Interface} {name : String} {v : View}
    (hv : v ∈ c.findViews classifier requests contexts name) : v.OnlyAdds := by
  obtain ⟨s, hs, rfl⟩ := List.mem_map.1 hv
  obtain ⟨key, -, hget⟩ := List.mem_filterMap.1 hs
  exact Slot.toView_onlyAdds (h.views key s hget)

theorem OnlyAdds.of_lookupView? (h : c.OnlyAdds) {classifier : Interface}
    {requests contexts : List Interface} {name : String} {v : View}
    (hv : c.lookupView? classifier requests contexts name = some v) : v.OnlyAdds :=
  h.of_mem_findViews (List.mem_of_mem_head? hv)

theorem renderNamed_onlyAdds (h : c.OnlyAdds) (context : Resource) (name : String)
    (secure : Bool) : (c.renderNamed context name secure).OnlyAdds := by
  refine .bind .request fun r => ?_
  split
  · exact .pure _
  · next v hv =>
    have hview := h.of_lookupView? hv
    split
    · exact (hview.call context).bind fun _ => .pure _
    · exact (hview.callPermissive context).bind fun _ => .pure _

theorem handleException_onlyAdds (h : c.OnlyAdds) (e : Error) :
    (c.handleException e).OnlyAdds := by
  refine .bind .request fun r => ?_
  split
  · exact .bind (.report _ _ _) fun _ => .pure _
  · next v hv =>
    refine .bind (.report _ _ _) fun _ => ?_
    refine .bind ((h.of_lookupView? hv).call _).outcome fun result => ?_
    split
    · exact .pure _
    · split
      · exact .pure _
      · exact .throw _

/-- Views that call views by name only add work, so many levels deep. -/
theorem environmentWithin_onlyAdds (h : c.OnlyAdds) (now : Nat) :
    ∀ depth, (c.environmentWithin now depth).OnlyAdds
  | 0 => ⟨fun _ _ _ => .throw _, fun _ => .throw _⟩
  | depth + 1 =>
    have ih := environmentWithin_onlyAdds h now depth
    ⟨fun context name secure => renderNamed_onlyAdds h context name secure _ ih,
      fun e => handleException_onlyAdds h e _ ih⟩

/-! ## Handling a request -/

theorem announce_onlyAdds {kind : EventKind} {call : Subscriber → Effect Exchange Unit}
    (h : ∀ e ∈ c.subscriptions, (call e.2).Keeps Exchange.Grows) :
    (c.announce kind call).OnlyAdds := by
  refine fun _ _ => .forM fun s hs => ?_
  obtain ⟨e, he, rfl⟩ := List.mem_map.1 hs
  exact h e (List.mem_of_mem_filter he)

theorem announceResponse_onlyAdds (h : c.OnlyAdds) (response : Response) :
    (c.announceResponse response).OnlyAdds := by
  have hnotify : (c.subscriptions.notify .newResponse fun s => s.newResponse).Keeps
      Exchange.GrowsBeside := by
    refine .forM fun s hs => ?_
    obtain ⟨e, he, rfl⟩ := List.mem_map.1 hs
    exact (h.subscribers e (List.mem_of_mem_filter he)).newResponse
  exact fun _ _ x => hnotify (response, x)

theorem findRoute_onlyAdds (c : Registry) : c.findRoute.OnlyAdds := by
  unfold findRoute
  split
  · exact .pure _
  · refine .bind .request fun r => ?_
    split
    · split
      · exact .bind (.report _ _ _) fun _ => .pure _
      · exact .pure _
    · split
      · refine .bind (.report _ _ _) fun _ => ?_
        exact .bind (.modifyRequest _) fun _ => .pure _
      · exact .bind (.modifyRequest _) fun _ => .pure _

theorem noView_onlyAdds (c : Registry) (context : Resource) : (c.noView context).OnlyAdds := by
  refine .bind .request fun r => ?_
  split
  · exact .bind (.report _ _ _) fun _ => .pure _
  · exact .pure _

theorem callView_onlyAdds (h : c.OnlyAdds) (context : Resource) :
    (c.callView context).OnlyAdds := by
  refine .bind .request fun r => ?_
  refine .bind (View.callFirst_onlyAdds (fun v => h.of_mem_findViews) none) fun result => ?_
  split
  · exact .pure _
  · exact .throw _
  · exact .bind (c.noView_onlyAdds context) fun _ => .throw _

theorem dispatch_onlyAdds (h : c.OnlyAdds) : Handling.OnlyAdds c.dispatch := by
  refine .bind (announce_onlyAdds fun e he => (h.subscribers e he).newRequest) fun _ => ?_
  refine .bind c.findRoute_onlyAdds fun factory => .bind .request fun r => ?_
  refine .bind (.ofExcept _) fun root => .bind .request fun r => ?_
  refine .bind (.modifyRequest _) fun _ => ?_
  refine .bind (announce_onlyAdds fun e he => (h.subscribers e he).contextFound) fun _ => ?_
  exact .bind (callView_onlyAdds h _) fun response => announceResponse_onlyAdds h response

end Registry

/-! ## Tweens -/

namespace ExceptionView

theorem answer_onlyAdds (e : Error) : (answer e).OnlyAdds := by
  refine .bind_read fun env henv => ?_
  split
  · exact Handling.OnlyAdds.throw e env henv
  · have hview : Handling.OnlyAdds fun _ => env.handleError e := fun _ _ => henv.handleError e
    refine Handling.OnlyAdds.bind (.modifyRequest _) (fun _ => hview.bind fun found => ?_) env henv
    split
    · exact .pure _
    · exact .throw e

theorem tween_onlyAdds : TweenFactory.OnlyAdds tween := by
  intro registry next hnext j
  change (around next).OnlyAdds
  refine .bind hnext.outcome fun result => ?_
  split
  · exact .pure _
  · next e => exact answer_onlyAdds e

end ExceptionView

namespace Tweens

theorem wrapAll_onlyAdds {registry : String} {core : Handler} (hcore : core.OnlyAdds)
    {order : List (String × TweenFactory)} (h : ∀ e ∈ order, TweenFactory.OnlyAdds e.2)
    (j : Journal) : Handling.OnlyAdds (wrapAll registry core order j).1 := by
  induction order generalizing j with
  | nil => exact hcore
  | cons e rest ih =>
      exact h e List.mem_cons_self registry _
        (ih (fun f hf => h f (List.mem_cons_of_mem e hf)) j) _

theorem resolved_onlyAdds {c : Registry} (h : c.OnlyAdds) {order : List (String × TweenFactory)}
    (hres : c.tweens.resolved = .ok order) : ∀ e ∈ order, TweenFactory.OnlyAdds e.2 := by
  intro e he
  rw [resolved] at hres
  split at hres
  · obtain ⟨names, -, rfl⟩ := Result.map_ok hres
    obtain ⟨name, -, hname⟩ := List.mem_filterMap.1 he
    obtain ⟨factory, hget, rfl⟩ := Option.map_eq_some_iff.1 hname
    exact h.tweens name factory hget
  · cases hres
    exact h.explicitTweens e he

theorem wrap_onlyAdds {c : Registry} (h : c.OnlyAdds) {core handler : Handler} {j j' : Journal}
    (hcore : core.OnlyAdds) (hwrap : c.tweens.wrap c.name core j = (.ok handler, j')) :
    handler.OnlyAdds := by
  obtain ⟨order, t, hres, hall⟩ := Effect.bind_ok_iff.1 hwrap
  obtain ⟨hres, -⟩ := Effect.ofExcept_ok_iff.1 hres
  have hhandler : (wrapAll c.name core order t).1 = handler :=
    Except.ok.inj (congrArg Prod.fst hall)
  exact hhandler ▸ wrapAll_onlyAdds hcore (resolved_onlyAdds h hres) t

end Tweens

namespace Router

variable {c : Registry} {router : Router} {j j' : Journal}

/-- A router is that of its registry, with the tweens around it. -/
theorem make_ok (h : make c j = (.ok router, j')) :
    router.registry = c ∧ c.tweens.wrap c.name c.dispatch j = (.ok router.handler, j') := by
  obtain ⟨handler, t, hwrap, hpure⟩ := Effect.bind_ok_iff.1 h
  obtain ⟨rfl, rfl⟩ := Effect.pure_ok_iff.1 hpure
  exact ⟨rfl, hwrap⟩

/-- While a request is handled, work is only added, whatever comes of it. -/
theorem handle_grows (hmake : make c j = (.ok router, j')) (h : c.OnlyAdds) (now : Nat)
    (x : Exchange) : x.Grows (router.handle now x).2 := by
  obtain ⟨rfl, hwrap⟩ := make_ok hmake
  exact Tweens.wrap_onlyAdds h (Registry.dispatch_onlyAdds h) hwrap _
    (Registry.environmentWithin_onlyAdds h now _) x

end Router

end WebDispatch
