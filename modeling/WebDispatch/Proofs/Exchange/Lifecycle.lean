import WebDispatch.Proofs.View.Selection

/-!
# The events of a request

A request is answered in steps that are known beforehand, all but what they find: subscribers are
told that it came in, it gets its route, its root and its context, subscribers are told of that, a
view is called, and subscribers are told of its response. The steps are taken in this order up to
the first that fails. What has been done can be told as a log of moments, each of which begins with
what the one before it left.

* `Registry.schedule` — the steps for a request; `Registry.Does` — what a step does;
* `Registry.Runs` — steps one after another, up to the first that fails;
* `Registry.Recounts` — a log is that of a request;
* `Registry.lifecycle_recounted` — every request that a registry answers has such a log.
-/

namespace WebDispatch

open WebDispatch.Http (Response)

namespace Lifecycle

/-- What is done for a request, a step at a time. -/
inductive Step where
  /-- A subscriber is told of an event. -/
  | told (kind : EventKind) (subscriber : Subscriber)
  /-- The routes are asked for the request. -/
  | routed
  /-- The root of the resources is made. -/
  | rooted
  /-- The context is looked for, and recorded. -/
  | traversed
  /-- The view is called. -/
  | viewed

/-- How far the answering of a request has come, with what is known of it besides the request. -/
inductive Stage where
  | received
  | routed (factory : RootFactory)
  | rooted (root : Resource)
  | located (found : Traversal.Found)
  | answered (response : Response)

/-- A request on the way to its answer. -/
structure Progress where
  stage : Stage
  exchange : Exchange

/-- A step that has been taken, with what it found, how it ended and what it left. -/
structure Moment where
  step : Step
  before : Progress
  result : Except Error Unit
  after : Progress

/-- Steps that may fail: a subscriber, the root factory and the view. -/
def Step.fallible : Step → Prop
  | .told _ _ => True
  | .rooted => True
  | .viewed => True
  | .routed => False
  | .traversed => False

/-- What traversal found is recorded with a request, which is otherwise what it was. -/
structure Recorded (found : Traversal.Found) (before after : Request) : Prop where
  root : after.root = some found.root
  context : after.context = some found.context
  viewName : after.viewName = found.viewName
  subpath : after.subpath = found.subpath
  traversed : after.traversed = found.traversed
  virtualRoot : after.virtualRoot = some found.virtualRoot
  virtualRootPath : after.virtualRootPath = found.virtualRootPath
  others : before = { after with
    root := before.root, context := before.context, viewName := before.viewName
    subpath := before.subpath, traversed := before.traversed
    virtualRoot := before.virtualRoot, virtualRootPath := before.virtualRootPath }

theorem recordFound_recorded (found : Traversal.Found) (r : Request) :
    Recorded found r (Registry.recordFound found r) := by
  constructor <;> rfl

/-- Each moment begins with what the one before it left. -/
def Linked : Progress → List Moment → Progress → Prop
  | p, [], q => p = q
  | p, m :: log, q => m.before = p ∧ Linked m.after log q

end Lifecycle

open Lifecycle

namespace Registry

/-! ## Steps -/

def approach (c : Registry) : List Step :=
  (c.subscriptions.ofKind .newRequest).map (.told .newRequest)
    ++ [.routed, .rooted, .traversed]
    ++ (c.subscriptions.ofKind .contextFound).map (.told .contextFound)

/-- The steps for a request, in the order in which they are taken. -/
def schedule (c : Registry) : List Step :=
  c.approach ++ .viewed :: (c.subscriptions.ofKind .newResponse).map (.told .newResponse)

def withRoute (c : Registry) (r : Request) : Request :=
  match c.routes.bind fun table => table.match? r with
  | none => r
  | some (route, d) => { r with matchdict := some d, type := route.type, route := some route.name }

/-- The root factory for a request: that of its route, or the usual one. -/
def factoryFor (c : Registry) (r : Request) : RootFactory :=
  ((c.routes.bind fun table => table.match? r).bind fun claim => claim.1.factory).getD
    (c.rootFactory.getD RootFactory.standard)

/-- What a step does, and how it ends. -/
inductive Does (c : Registry) (env : Environment) :
    Step → Progress → Except Error Unit → Progress → Prop where
  | newRequest (s : Subscriber) (x : Exchange) :
    c.Does env (.told .newRequest s) ⟨.received, x⟩ (s.newRequest x).1
      ⟨.received, (s.newRequest x).2⟩
  | routed {factory : RootFactory} {x y : Exchange} (h : c.findRoute env x = (.ok factory, y)) :
    c.Does env .routed ⟨.received, x⟩ (.ok ()) ⟨.routed factory, y⟩
  | rooted {factory : RootFactory} {root : Resource} {x : Exchange}
    (h : factory x.toRequest = .ok root) :
    c.Does env .rooted ⟨.routed factory, x⟩ (.ok ()) ⟨.rooted root, x⟩
  | unrooted {factory : RootFactory} {e : Error} {x : Exchange}
    (h : factory x.toRequest = .error e) :
    c.Does env .rooted ⟨.routed factory, x⟩ (.error e) ⟨.routed factory, x⟩
  /-- The request keeps what traversal finds. -/
  | traversed {root : Resource} {found : Traversal.Found} {x : Exchange} {r : Request}
    (hfound : Traversal.traverse root x.toRequest = found) (h : Recorded found x.toRequest r) :
    c.Does env .traversed ⟨.rooted root, x⟩ (.ok ())
      ⟨.located found, { x with toRequest := r }⟩
  | contextFound (found : Traversal.Found) (s : Subscriber) (x : Exchange) :
    c.Does env (.told .contextFound s) ⟨.located found, x⟩ (s.contextFound x).1
      ⟨.located found, (s.contextFound x).2⟩
  | viewed {found : Traversal.Found} {response : Response} {x y : Exchange}
    (h : c.callView found.context env x = (.ok response, y)) :
    c.Does env .viewed ⟨.located found, x⟩ (.ok ()) ⟨.answered response, y⟩
  | unviewed {found : Traversal.Found} {e : Error} {x y : Exchange}
    (h : c.callView found.context env x = (.error e, y)) :
    c.Does env .viewed ⟨.located found, x⟩ (.error e) ⟨.located found, y⟩
  | newResponse (s : Subscriber) (p : Response × Exchange) :
    c.Does env (.told .newResponse s) ⟨.answered p.1, p.2⟩ (s.newResponse p).1
      ⟨.answered (s.newResponse p).2.1, (s.newResponse p).2.2⟩

/-- Steps one after another, up to the first that fails, with the log of them. -/
inductive Runs (c : Registry) (env : Environment) :
    Progress → List Step → List Moment → Except Error Unit → Progress → Prop where
  | done (p : Progress) : c.Runs env p [] [] (.ok ()) p
  | failed {step : Step} {rest : List Step} {p q : Progress} {e : Error}
    (h : c.Does env step p (.error e) q) :
    c.Runs env p (step :: rest) [⟨step, p, .error e, q⟩] (.error e) q
  | passed {step : Step} {rest : List Step} {p q z : Progress} {log : List Moment}
    {r : Except Error Unit} (h : c.Does env step p (.ok ()) q)
    (hrest : c.Runs env q rest log r z) :
    c.Runs env p (step :: rest) (⟨step, p, .ok (), q⟩ :: log) r z

variable {c : Registry} {env : Environment} {p q z : Progress} {step : Step}
  {steps rest : List Step} {log later : List Moment} {r : Except Error Unit} {e : Error}
  {x y : Exchange}

theorem Does.fallible (h : c.Does env step p (.error e) q) : step.fallible := by
  generalize hr : (Except.error e : Except Error Unit) = r at h
  cases h with
  | newRequest => trivial
  | routed => cases hr
  | rooted => trivial
  | unrooted => trivial
  | traversed => cases hr
  | contextFound => trivial
  | viewed => trivial
  | unviewed => trivial
  | newResponse => trivial

namespace Runs

/-! ## Steps in two parts -/

theorem append (h : c.Runs env p steps log (.ok ()) q) (hrest : c.Runs env q rest later r z) :
    c.Runs env p (steps ++ rest) (log ++ later) r z := by
  generalize hr : (Except.ok () : Except Error Unit) = r' at h
  induction h with
  | done p => exact hrest
  | failed => cases hr
  | passed h _ ih => exact .passed h (ih hrest hr)

theorem append_of_error (h : c.Runs env p steps log (.error e) q) (rest : List Step) :
    c.Runs env p (steps ++ rest) log (.error e) q := by
  generalize hr : (Except.error e : Except Error Unit) = r at h
  induction h with
  | done p => cases hr
  | failed h => exact .failed h
  | passed h _ ih => exact .passed h (ih hr)

/-- Steps in two parts end in the first part, or go through it. -/
theorem append_cases (h : c.Runs env p (steps ++ rest) log r z) :
    c.Runs env p steps log r z ∧ (∃ e, r = .error e) ∨
      ∃ earlier q later, log = earlier ++ later ∧ c.Runs env p steps earlier (.ok ()) q ∧
        c.Runs env q rest later r z := by
  induction steps generalizing p log with
  | nil => exact Or.inr ⟨[], p, log, rfl, .done p, h⟩
  | cons step steps ih =>
    cases h with
    | failed h => exact Or.inl ⟨.failed h, _, rfl⟩
    | passed h hrest =>
      rcases ih hrest with ⟨hruns, hr⟩ | ⟨earlier, q, later, rfl, hruns, hlater⟩
      · exact Or.inl ⟨.passed h hruns, hr⟩
      · exact Or.inr ⟨_, q, later, rfl, .passed h hruns, hlater⟩

/-! ## What a log tells -/

theorem scheduled (h : c.Runs env p steps log r z) : log.map Moment.step <+: steps := by
  induction h with
  | done p => exact List.prefix_refl []
  | failed h => exact List.prefix_cons_inj _ |>.2 List.nil_prefix
  | passed h _ ih => exact List.prefix_cons_inj _ |>.2 ih

theorem step_mem (h : c.Runs env p steps log r z) {m : Moment} (hm : m ∈ log) :
    m.step ∈ steps :=
  h.scheduled.subset (List.mem_map_of_mem hm)

theorem complete (h : c.Runs env p steps log (.ok ()) z) : log.map Moment.step = steps := by
  generalize hr : (Except.ok () : Except Error Unit) = r at h
  induction h with
  | done p => rfl
  | failed h => cases hr
  | passed h _ ih => exact congrArg _ (ih hr)

theorem linked (h : c.Runs env p steps log r z) : Linked p log z := by
  induction h with
  | done p => rfl
  | failed h => exact ⟨rfl, rfl⟩
  | passed h _ ih => exact ⟨rfl, ih⟩

theorem happened_of_mem (h : c.Runs env p steps log r z) {m : Moment} (hm : m ∈ log) :
    c.Does env m.step m.before m.result m.after := by
  induction h with
  | done p => cases hm
  | failed h =>
    obtain rfl := List.mem_singleton.1 hm
    exact h
  | passed h _ ih =>
    rcases List.mem_cons.1 hm with rfl | hm
    · exact h
    · exact ih hm

theorem result_of_mem (h : c.Runs env p steps log (.ok ()) z) :
    ∀ m ∈ log, m.result = .ok () := by
  generalize hr : (Except.ok () : Except Error Unit) = r at h
  induction h with
  | done p => exact fun _ hm => (List.not_mem_nil hm).elim
  | failed h => cases hr
  | passed h _ ih => exact List.forall_mem_cons.2 ⟨hr, ih hr⟩

/-- A log that ends in a failure has that as its last moment, and no other. -/
theorem last_of_error (h : c.Runs env p steps log (.error e) z) :
    ∃ earlier m, log = earlier ++ [m] ∧ (∀ n ∈ earlier, n.result = .ok ()) ∧
      m.result = .error e ∧ m.step.fallible := by
  generalize hr : (Except.error e : Except Error Unit) = r at h
  induction h with
  | done p => cases hr
  | failed h =>
    obtain rfl := Except.error.inj hr
    exact ⟨[], _, rfl, fun n hn => (List.not_mem_nil hn).elim, rfl, h.fallible⟩
  | passed h _ ih =>
    obtain ⟨earlier, m, rfl, hearlier, hm⟩ := ih hr
    exact ⟨_ :: earlier, m, rfl, List.forall_mem_cons.2 ⟨rfl, hearlier⟩, hm⟩

end Runs

/-! ## The steps for a request -/

/-- A computation goes through steps, from a stage to one that its result tells. -/
def Takes {α : Type} (c : Registry) (env : Environment) (act : Handling α) (stage : Stage)
    (steps : List Step) (next : α → Stage) : Prop :=
  ∀ x, ∃ log q, c.Runs env ⟨stage, x⟩ steps log ((act env x).1.map fun _ => ()) q ∧
    q.exchange = (act env x).2 ∧ ∀ a, (act env x).1 = .ok a → q.stage = next a

theorem Takes.bind {α β : Type} {act : Handling α} {f : α → Handling β} {stage : Stage}
    {next : α → Stage} {last : β → Stage} (h : c.Takes env act stage steps next)
    (hf : ∀ a, c.Takes env (f a) (next a) rest last) :
    c.Takes env (act >>= f) stage (steps ++ rest) last := by
  intro x
  obtain ⟨log, ⟨s, y⟩, hruns, hy, hs⟩ := h x
  rw [Handling.bind_apply]
  rcases hact : act env x with ⟨e | a, y'⟩
  · rw [hact] at hruns hy
    exact ⟨log, _, hruns.append_of_error rest, hy, nofun⟩
  · rw [hact] at hruns hy hs
    obtain rfl : y = y' := hy
    obtain rfl : s = next a := hs a rfl
    obtain ⟨later, z, hlater, hz⟩ := hf a y
    exact ⟨log ++ later, z, hruns.append hlater, hz⟩

/-- Subscribers are told one after another, up to the first that fails. -/
theorem forM_runs {σ : Type} {kind : EventKind} {call : Subscriber → Effect σ Unit}
    (place : σ → Progress)
    (h : ∀ s t, c.Does env (.told kind s) (place t) (call s t).1 (place (call s t).2))
    (subscribers : List Subscriber) (t : σ) :
    ∃ log, c.Runs env (place t) (subscribers.map (.told kind)) log
      (subscribers.forM call t).1 (place (subscribers.forM call t).2) := by
  induction subscribers generalizing t with
  | nil => exact ⟨[], .done _⟩
  | cons s rest ih =>
    have hs := h s t
    rw [Effect.forM_cons_apply, List.map_cons]
    rcases hcall : call s t with ⟨e | ⟨⟩, u⟩
    · rw [hcall] at hs
      exact ⟨_, .failed hs⟩
    · rw [hcall] at hs
      obtain ⟨log, hlog⟩ := ih u
      exact ⟨_, .passed hs hlog⟩

theorem announce_takes {kind : EventKind} {call : Subscriber → Effect Exchange Unit}
    {stage : Stage}
    (h : ∀ s x, c.Does env (.told kind s) ⟨stage, x⟩ (call s x).1 ⟨stage, (call s x).2⟩) :
    c.Takes env (c.announce kind call) stage ((c.subscriptions.ofKind kind).map (.told kind))
      fun _ => stage := by
  intro x
  obtain ⟨log, hlog⟩ := forM_runs (fun x => ⟨stage, x⟩) h (c.subscriptions.ofKind kind) x
  rw [announce, Subscriptions.notify]
  rcases hn : (c.subscriptions.ofKind kind).forM call x with ⟨e | ⟨⟩, y⟩
  · rw [hn] at hlog
    exact ⟨log, _, hlog, rfl, nofun⟩
  · rw [hn] at hlog
    exact ⟨log, _, hlog, rfl, fun _ _ => rfl⟩

theorem announceResponse_takes (response : Response) :
    c.Takes env (c.announceResponse response) (.answered response)
      ((c.subscriptions.ofKind .newResponse).map (.told .newResponse)) .answered := by
  intro x
  have htold (s : Subscriber) (p : Response × Exchange) :
      c.Does env (.told .newResponse s) ⟨.answered p.1, p.2⟩ (s.newResponse p).1
        ⟨.answered (s.newResponse p).2.1, (s.newResponse p).2.2⟩ := .newResponse s p
  obtain ⟨log, hlog⟩ := forM_runs (fun p => ⟨.answered p.1, p.2⟩) htold
    (c.subscriptions.ofKind .newResponse) (response, x)
  rw [announceResponse, Subscriptions.notify]
  rcases hn : (c.subscriptions.ofKind .newResponse).forM (fun s => s.newResponse) (response, x)
    with ⟨e | ⟨⟩, s, y⟩
  · rw [hn] at hlog
    exact ⟨log, _, hlog, rfl, nofun⟩
  · rw [hn] at hlog
    exact ⟨log, _, hlog, rfl, fun t ht => congrArg _ (Except.ok.inj ht)⟩

/-- Finding a route succeeds, and leaves with the request what the routes tell of it. -/
theorem findRoute_apply (c : Registry) (env : Environment) (x : Exchange) :
    ∃ j, x.journal <+: j ∧ c.findRoute env x = (.ok (c.factoryFor x.toRequest),
      { x with toRequest := { c.withRoute x.toRequest with journal := j } }) := by
  unfold findRoute withRoute factoryFor
  rcases c.routes with _ | table
  · exact ⟨x.journal, List.prefix_rfl, rfl⟩
  · simp only [Option.bind_some, Handling.bind_apply, Handling.request_apply]
    rcases table.match? x.toRequest with _ | ⟨route, d⟩
    · cases c.settings.debugRouteMatch
      · exact ⟨x.journal, List.prefix_rfl, rfl⟩
      · exact ⟨_, List.prefix_append _ _, rfl⟩
    · cases c.settings.debugRouteMatch
      · exact ⟨x.journal, List.prefix_rfl, rfl⟩
      · exact ⟨_, List.prefix_append _ _, rfl⟩

theorem findRoute_takes : c.Takes env c.findRoute .received [.routed] .routed := by
  intro x
  obtain ⟨j, -, h⟩ := c.findRoute_apply env x
  rw [h]
  exact ⟨_, _, .passed (.routed h) (.done _), rfl, fun _ hf => congrArg _ (Except.ok.inj hf)⟩

def makeRoot (factory : RootFactory) : Handling Resource := do
  Handling.ofExcept (factory (← Handling.request))

theorem makeRoot_takes (factory : RootFactory) :
    c.Takes env (makeRoot factory) (.routed factory) [.rooted] .rooted := by
  intro x
  change ∃ log q, c.Runs env _ _ log ((factory x.toRequest).map _) q ∧ q.exchange = x ∧
    ∀ root, factory x.toRequest = .ok root → _
  cases h : factory x.toRequest with
  | error e => exact ⟨_, _, .failed (.unrooted h), rfl, nofun⟩
  | ok root =>
    exact ⟨_, _, .passed (.rooted h) (.done _), rfl, fun _ hr => congrArg _ (Except.ok.inj hr)⟩

/-- Finds the context from a root, and records what was found. -/
def locate (root : Resource) : Handling Traversal.Found := do
  let found := Traversal.traverse root (← Handling.request)
  Handling.modifyRequest (recordFound found)
  return found

theorem locate_takes (root : Resource) :
    c.Takes env (locate root) (.rooted root) [.traversed] .located :=
  fun x => ⟨_, _, .passed (.traversed rfl (recordFound_recorded _ x.toRequest)) (.done _), rfl,
    fun _ hf => congrArg _ (Except.ok.inj hf)⟩

theorem callView_takes (found : Traversal.Found) :
    c.Takes env (c.callView found.context) (.located found) [.viewed] .answered := by
  intro x
  rcases h : c.callView found.context env x with ⟨e | response, y⟩
  · exact ⟨_, _, .failed (.unviewed h), rfl, nofun⟩
  · exact ⟨_, _, .passed (.viewed h) (.done _), rfl, fun _ hr => congrArg _ (Except.ok.inj hr)⟩

theorem dispatch_eq (c : Registry) : c.dispatch =
    (c.announce .newRequest fun s => s.newRequest) >>= fun _ => c.findRoute >>= fun factory =>
      makeRoot factory >>= fun root => locate root >>= fun found =>
        (c.announce .contextFound fun s => s.contextFound) >>= fun _ =>
          c.callView found.context >>= c.announceResponse := rfl

/-- Answering a request is taking the steps for it. -/
theorem dispatch_takes (c : Registry) (env : Environment) :
    c.Takes env c.dispatch .received c.schedule .answered := by
  rw [dispatch_eq]
  have h : c.Takes env _ _ _ _ :=
    (announce_takes .newRequest).bind fun _ => findRoute_takes.bind fun factory =>
      (makeRoot_takes factory).bind fun root => (locate_takes root).bind fun found =>
        (announce_takes (.contextFound found)).bind fun _ => (callView_takes found).bind
          announceResponse_takes
  simpa [schedule, approach] using h

/-! ## What can be told of a request -/

/-- The moments in which a request gets its route, its root and its context: what the routes tell of
it and then what traversal finds is recorded with it. -/
inductive Locates (c : Registry) : List Moment → Prop where
  | intro {x y z : Exchange} {factory : RootFactory} {root : Resource} {found : Traversal.Found}
    {j : Journal} (hfactory : factory = c.factoryFor x.toRequest) (hreports : x.journal <+: j)
    (hrouted : y = { x with toRequest := { c.withRoute x.toRequest with journal := j } })
    (hrooted : factory y.toRequest = .ok root)
    (hfound : Traversal.traverse root y.toRequest = found)
    (hrecorded : Recorded found y.toRequest z.toRequest)
    (hleft : z = { y with toRequest := z.toRequest }) :
    c.Locates
      [⟨.routed, ⟨.received, x⟩, .ok (), ⟨.routed factory, y⟩⟩,
        ⟨.rooted, ⟨.routed factory, y⟩, .ok (), ⟨.rooted root, y⟩⟩,
        ⟨.traversed, ⟨.rooted root, y⟩, .ok (), ⟨.located found, z⟩⟩]

/-- A log is that of a request. -/
structure Recounts (c : Registry) (env : Environment) (x : Exchange) (log : List Moment) :
    Prop where
  /-- The steps are taken in their order, each once, and none is passed over. -/
  scheduled : log.map Moment.step <+: c.schedule
  happened : ∀ m ∈ log, c.Does env m.step m.before m.result m.after
  /-- Nothing happens but in these steps, from the request as it came in to what it comes to. -/
  linked : ∃ stage, Linked ⟨.received, x⟩ log ⟨stage, (c.dispatch env x).2⟩ ∧
    ∀ response, (c.dispatch env x).1 = .ok response → stage = .answered response
  /-- With a response, all steps have been taken, and none has failed. -/
  completed : ∀ response, (c.dispatch env x).1 = .ok response →
    log.map Moment.step = c.schedule ∧ ∀ m ∈ log, m.result = .ok ()
  /-- With an error, the last step has failed with it, and no other has. -/
  failed : ∀ e, (c.dispatch env x).1 = .error e →
    ∃ earlier m, log = earlier ++ [m] ∧ (∀ n ∈ earlier, n.result = .ok ()) ∧
      m.result = .error e ∧ m.step.fallible
  /-- Who is told of the context is told when the request has got its route and its context. -/
  recorded : ∀ m ∈ log, ∀ s, m.step = .told .contextFound s →
    ∃ earlier located later, log = earlier ++ (located ++ later) ∧ c.Locates located ∧
      m ∈ later ∧ ∀ n ∈ earlier, ∃ t, n.step = .told .newRequest t
  /-- Subscribers are told of a response, if there are any, exactly when the view returned one. -/
  responded : (∃ m ∈ log, ∃ s, m.step = .told .newResponse s) ↔
    c.subscriptions.ofKind .newResponse ≠ [] ∧ ∃ m ∈ log, m.step = .viewed ∧ m.result = .ok ()

namespace Runs

/-- The steps from a request that came in to its context fail at the root factory, or give the
request its route, its root and its context. -/
theorem locates (h : c.Runs env ⟨.received, x⟩ [.routed, .rooted, .traversed] log (.ok ()) q) :
    c.Locates log := by
  cases h with
  | passed h h' =>
  cases h with
  | @routed factory _ y h =>
  cases h' with
  | passed h' h'' =>
  cases h' with
  | rooted hroot =>
  cases h'' with
  | passed h'' hdone =>
  cases h'' with
  | traversed hfound hrecorded =>
  cases hdone with
  | done =>
  obtain ⟨j, hreports, hroute⟩ := c.findRoute_apply env x
  rw [hroute] at h
  obtain ⟨hfactory, hy⟩ := Prod.mk.inj h
  exact .intro (Except.ok.inj hfactory).symm hreports hy.symm hroot hfound hrecorded rfl

/-- Those who are told that a request came in leave its answering where it was. -/
theorem received {subscribers : List Subscriber} (hp : p.stage = .received)
    (h : c.Runs env p (subscribers.map (.told .newRequest)) log (.ok ()) q) :
    q.stage = .received := by
  induction subscribers generalizing p log with
  | nil =>
    cases h
    exact hp
  | cons s rest ih =>
    cases h with
    | passed h hrest =>
    refine ih ?_ hrest
    generalize hr : (Except.ok () : Except Error Unit) = r at h
    cases h
    rfl

theorem recorded (h : c.Runs env ⟨.received, x⟩ c.schedule log r z) {m : Moment} (hm : m ∈ log)
    {s : Subscriber} (hs : m.step = .told .contextFound s) :
    ∃ earlier located later, log = earlier ++ (located ++ later) ∧ c.Locates located ∧
      m ∈ later ∧ ∀ n ∈ earlier, ∃ t, n.step = .told .newRequest t := by
  -- neither who is told that the request came in nor the steps to the context are what is told here
  have hnews : m.step ∉ (c.subscriptions.ofKind .newRequest).map (.told .newRequest) := by
    simp [hs]
  have hlocating : m.step ∉ [Step.routed, .rooted, .traversed] := by simp [hs]
  simp only [schedule, approach, List.append_assoc] at h
  rcases h.append_cases with ⟨hfailed, -⟩ | ⟨earlier, ⟨stage, y⟩, rest, rfl, hearlier, hrest⟩
  · exact absurd (hfailed.step_mem hm) hnews
  obtain rfl : stage = .received := hearlier.received rfl
  rcases hrest.append_cases with ⟨hfailed, -⟩ | ⟨located, q, later, rfl, hlocated, -⟩
  · rcases List.mem_append.1 hm with hm | hm
    · exact absurd (hearlier.step_mem hm) hnews
    · exact absurd (hfailed.step_mem hm) hlocating
  refine ⟨earlier, located, later, rfl, hlocated.locates, ?_, fun n hn => ?_⟩
  · rcases List.mem_append.1 hm with hm | hm
    · exact absurd (hearlier.step_mem hm) hnews
    · exact (List.mem_append.1 hm).resolve_left fun hm => hlocating (hlocated.step_mem hm)
  · obtain ⟨t, -, ht⟩ := List.mem_map.1 (hearlier.step_mem hn)
    exact ⟨t, ht.symm⟩

/-- On the way to the view no view is called, and nobody is told of a response. -/
theorem early (h : c.Runs env p c.approach log r z) {m : Moment} (hm : m ∈ log) :
    m.step ≠ .viewed ∧ ∀ s, m.step ≠ .told .newResponse s := by
  have hstep := h.step_mem hm
  exact ⟨fun hs => by simp [approach, hs] at hstep, fun s hs => by simp [approach, hs] at hstep⟩

/-- Steps that are taken begin with the first. -/
theorem exists_first (h : c.Runs env p (step :: rest) log r z) : ∃ m ∈ log, m.step = step := by
  cases h with
  | failed h => exact ⟨_, List.mem_cons_self, rfl⟩
  | passed h hrest => exact ⟨_, List.mem_cons_self, rfl⟩

theorem responded (h : c.Runs env p c.schedule log r z) :
    (∃ m ∈ log, ∃ s, m.step = .told .newResponse s) ↔
      c.subscriptions.ofKind .newResponse ≠ [] ∧
        ∃ m ∈ log, m.step = .viewed ∧ m.result = .ok () := by
  rcases h.append_cases with ⟨hfailed, -⟩ | ⟨earlier, q, rest, rfl, hearlier, hrest⟩
  · constructor
    · rintro ⟨m, hm, s, hs⟩
      exact absurd hs ((hfailed.early hm).2 s)
    · rintro ⟨-, m, hm, hs, -⟩
      exact absurd hs (hfailed.early hm).1
  cases hrest with
  | failed hview =>
    constructor
    · rintro ⟨m, hm, s, hs⟩
      rcases List.mem_append.1 hm with hm | hm
      · exact absurd hs ((hearlier.early hm).2 s)
      · cases List.mem_singleton.1 hm
        cases hs
    · rintro ⟨-, m, hm, hs, hr⟩
      rcases List.mem_append.1 hm with hm | hm
      · exact absurd hs (hearlier.early hm).1
      · cases List.mem_singleton.1 hm
        cases hr
  | passed hview hrest =>
    constructor
    · rintro ⟨m, hm, s, hs⟩
      refine ⟨fun hnone => ?_, _, List.mem_append_right _ List.mem_cons_self, rfl, rfl⟩
      rw [hnone] at hrest
      cases hrest
      rcases List.mem_append.1 hm with hm | hm
      · exact absurd hs ((hearlier.early hm).2 s)
      · cases List.mem_singleton.1 hm
        cases hs
    · rintro ⟨hsome, -⟩
      obtain ⟨s, others, hothers⟩ := List.exists_cons_of_ne_nil hsome
      rw [hothers] at hrest
      obtain ⟨m, hm, hs⟩ := hrest.exists_first
      exact ⟨m, List.mem_append_right _ (List.mem_cons_of_mem _ hm), s, hs⟩

end Runs

/-- **Every request has its log**: subscribers are told of its coming in, of its context and of its
response, each of them once, in the order in which they subscribed, up to the first step that fails;
with the error of that the answering ends. They are told of the context when the route and the
context have been recorded with the request, and of a response exactly when the view returned it. -/
theorem lifecycle_recounted (c : Registry) (env : Environment) (x : Exchange) :
    ∃ log, c.Recounts env x log := by
  obtain ⟨log, ⟨stage, y⟩, hruns, hy, hstage⟩ := c.dispatch_takes env x
  refine ⟨log, ?_⟩
  constructor
  case scheduled => exact hruns.scheduled
  case happened => exact fun m hm => hruns.happened_of_mem hm
  case linked =>
    obtain rfl : y = _ := hy
    exact ⟨stage, hruns.linked, hstage⟩
  case completed =>
    intro response hresponse
    rw [hresponse] at hruns
    exact ⟨hruns.complete, hruns.result_of_mem⟩
  case failed =>
    intro e he
    rw [he] at hruns
    exact hruns.last_of_error
  case recorded => exact fun m hm s hs => hruns.recorded hm hs
  case responded => exact hruns.responded

/-! ## A library -/

def whereabouts (r : Request) : String :=
  match r.context with
  | none => "nowhere yet"
  | some context => context.path ++ " " ++ r.viewName ++ " " ++ Text.joinWith " " r.subpath

def clerk : Subscriber where
  newRequest := modify fun x => x.note (whereabouts x.toRequest)
  contextFound := modify fun x => x.note (whereabouts x.toRequest)
  newResponse := modify fun (s, x) => (s, x.note "answered")

def library : Registry :=
  { empty "library" with
    rootFactory := some fun _ => .ok (.ofTree
      (.mk (.type "Library") "" none [] [.mk (.type "Shelf") "shelf" (some "shelf") [] []]))
    subscriptions := [(.contextFound, clerk), (.newRequest, clerk), (.newResponse, clerk)]
    views := ({} : OrderedMap ViewKey Slot).insert ⟨.viewClassifier, .request, .any, "lend"⟩
      (.single { description := "lending", call := fun _ => return {} }) }

/-- Who is told of the context finds it with the request, the name of the view and the rest of the
path, and who is told that the request came in does not. -/
theorem lifecycle_recounted_library :
    ∃ log, library.Recounts {} { toRequest := .blank "/shelf/lend/7" } log ∧
      log.map Moment.step = [.told .newRequest clerk, .routed, .rooted, .traversed,
        .told .contextFound clerk, .viewed, .told .newResponse clerk] ∧
      (library.dispatch {} { toRequest := .blank "/shelf/lend/7" }).2.journal =
        [.note "nowhere yet", .note "/shelf lend 7", .note "answered"] := by
  obtain ⟨log, hlog⟩ := lifecycle_recounted library {} { toRequest := .blank "/shelf/lend/7" }
  exact ⟨log, hlog, (hlog.completed {} (by rfl)).1, by rfl⟩

end Registry

end WebDispatch
