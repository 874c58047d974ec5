import WebDispatch.Proofs.Exchange.Additions
import WebDispatch.Proofs.Exchange.Serving

/-!
# What is left to do is done

What an exchange leaves to do for its response and for its end is done in the order in which it was
added. The work for the response, also what is added while it is done, is done if there is a
response; then the work for the end is done in any case, and none of it is left.

* `Responses`, `Finishes` — work that has been done, with what it found;
* `CallbackLog.Records` — what was done while a request was answered is all that was to be done,
  each piece of work once, as it was added;
* `Router.callbacks_served` — so it is for every request that a router answers.
-/

namespace WebDispatch

open WebDispatch.Http (Response)

/-- Work done for a response, with what it found. -/
abbrev Responses : Type := List (ResponseCallback × Response × Exchange)

/-- Work done for the end of an exchange, with what it found. -/
abbrev Finishes : Type := List (FinishedCallback × Exchange)

namespace Responses

/-- What work for a response added of its own kind, in order. -/
def adds (log : Responses) : List ResponseCallback :=
  log.flatMap fun e => e.1.adds e.2.2.toRequest e.2.1

/-- What it added for the end, in order. -/
def finish (log : Responses) : List FinishedCallback :=
  log.flatMap fun e => e.1.finish e.2.2.toRequest e.2.1

end Responses

namespace Finishes

def adds (log : Finishes) : List FinishedCallback := log.flatMap fun e => e.1.adds e.2.toRequest

def respond (log : Finishes) : List ResponseCallback :=
  log.flatMap fun e => e.1.respond e.2.toRequest

end Finishes

/-! ## The two kinds of work -/

/-- What a piece of work for the response makes of the response and of an exchange in which no work
of its kind is left. -/
structure ResponseCallback.Acts (c : ResponseCallback) (p q : Response × Exchange) : Prop where
  request : q.2.toRequest = (c.run p.2.toRequest p.1).1
  response : q.1 = (c.run p.2.toRequest p.1).2
  responses : q.2.responseCallbacks = p.2.responseCallbacks
  finishes : q.2.finishedCallbacks = p.2.finishedCallbacks ++ c.finish p.2.toRequest p.1

/-- What a piece of work for the end makes of such an exchange. -/
structure FinishedCallback.Acts (c : FinishedCallback) (x y : Exchange) : Prop where
  request : y.toRequest = c.run x.toRequest
  responses : y.responseCallbacks = x.responseCallbacks ++ c.respond x.toRequest
  finishes : y.finishedCallbacks = x.finishedCallbacks

/-- The work of a log is done: each piece of it makes what it does of the response and the exchange
that the one before it left. -/
def Responses.Done (log : Responses) (p q : Response × Exchange) : Prop :=
  Queue.Runs ResponseCallback.Acts p log q

def Finishes.Done (log : Finishes) (x y : Exchange) : Prop := Queue.Runs FinishedCallback.Acts x log y

namespace Exchange

variable {x y : Exchange} {s t : Response}

def withoutResponses (x : Exchange) : Exchange := { x with responseCallbacks := [] }

def withoutFinishes (x : Exchange) : Exchange := { x with finishedCallbacks := [] }

theorem runResponse_log (x : Exchange) (s : Response) :
    ∃ log : Responses, log.Done (s, x.withoutResponses) (x.runResponse s) ∧
      log.map Prod.fst = x.responseCallbacks ++ log.adds :=
  responding.serve_runs (fun _ _ => ⟨rfl, rfl, rfl, rfl⟩) x.responseCallbacks
    (s, x.withoutResponses)

theorem runFinished_log (x : Exchange) :
    ∃ log : Finishes, log.Done x.withoutFinishes x.runFinished ∧
      log.map Prod.fst = x.finishedCallbacks ++ log.adds :=
  finishing.serve_runs (fun _ _ => ⟨rfl, rfl, rfl⟩) x.finishedCallbacks x.withoutFinishes

/-- Work for the response leaves none of its kind, and adds work for the end. -/
theorem queues_of_responses {log : Responses} (h : log.Done (s, x.withoutResponses) (t, y)) :
    y.responseCallbacks = [] ∧ y.finishedCallbacks = x.finishedCallbacks ++ log.finish :=
  ⟨h.keeps (f := fun p => p.2.responseCallbacks) fun _ _ _ hact => hact.responses,
    h.collects (f := fun p => p.2.finishedCallbacks) fun _ _ _ hact => hact.finishes⟩

/-- Work for the end leaves none of its kind, and may add work for a response. -/
theorem queues_of_finishes {log : Finishes} (h : log.Done x.withoutFinishes y) :
    y.finishedCallbacks = [] ∧ y.responseCallbacks = x.responseCallbacks ++ log.respond :=
  ⟨h.keeps (f := fun x => x.finishedCallbacks) fun _ _ _ hact => hact.finishes,
    h.collects (f := fun x => x.responseCallbacks) (g := fun c x => c.respond x.toRequest)
      fun _ _ _ hact => hact.responses⟩

end Exchange

/-! ## Answering a request -/

/-- The work that was done while a request was answered. -/
structure CallbackLog where
  responses : Responses
  finishes : Finishes

/-- A log is that of the answering of a request by a router. -/
structure CallbackLog.Records (l : CallbackLog) (router : Router) (now : Nat) (x : Exchange) :
    Prop where
  /-- With a response, all work for it is done as it was added, and after that the work for the
  end, by which the response does not change. -/
  succeeded : ∀ s y, router.handle now x = (.ok s, y) → ∃ t z,
    l.responses.map Prod.fst = y.responseCallbacks ++ l.responses.adds ∧
    l.responses.Done (s, y.withoutResponses) (t, z) ∧
    l.finishes.Done z.withoutFinishes (router.invoke now x).2 ∧
    (router.invoke now x).1 = .ok t ∧
    (router.invoke now x).2.responseCallbacks = l.finishes.respond
  /-- Without one, no work is done for a response: all of it is left. -/
  failed : ∀ e y, router.handle now x = (.error e, y) →
    l.responses = [] ∧
    l.finishes.Done y.withoutFinishes (router.invoke now x).2 ∧
    (router.invoke now x).1 = .error e ∧
    (router.invoke now x).2.responseCallbacks = y.responseCallbacks ++ l.finishes.respond
  /-- In either case, all work for the end is done as it was added: before and while the request
  was handled, by work for the response, and by work for the end itself. -/
  finished : l.finishes.map Prod.fst =
    (router.handle now x).2.finishedCallbacks ++ l.responses.finish ++ l.finishes.adds
  settled : (router.invoke now x).2.finishedCallbacks = []

namespace Router

variable {c : Registry} {router : Router} {j j' : Journal} {now : Nat} {x y : Exchange}

theorem invoke_of_ok {s : Response} (h : router.handle now x = (.ok s, y)) :
    router.invoke now x = (.ok (y.runResponse s).1, (y.runResponse s).2.runFinished) := by
  simp [invoke, h, finishResponse]

theorem invoke_of_error {e : Error} (h : router.handle now x = (.error e, y)) :
    router.invoke now x = (.error e, y.runFinished) := by
  simp [invoke, h]

theorem records_of_error {e : Error} {finishes : Finishes}
    (h : router.handle now x = (.error e, y))
    (hdone : finishes.Done y.withoutFinishes y.runFinished)
    (hlog : finishes.map Prod.fst = y.finishedCallbacks ++ finishes.adds) :
    CallbackLog.Records ⟨[], finishes⟩ router now x := by
  obtain ⟨hnone, hleft⟩ := Exchange.queues_of_finishes hdone
  have hinvoke := invoke_of_error h
  constructor
  case succeeded =>
    intro s z hok
    rw [h] at hok
    cases hok
  case failed =>
    intro f z herror
    obtain ⟨rfl, rfl⟩ : e = f ∧ y = z := by
      rw [h] at herror
      cases herror
      exact ⟨rfl, rfl⟩
    rw [hinvoke]
    exact ⟨rfl, hdone, rfl, hleft⟩
  case finished =>
    change _ = (router.handle now x).2.finishedCallbacks ++ [] ++ finishes.adds
    rwa [List.append_nil, h]
  case settled => rwa [hinvoke]

theorem records_of_ok {s t : Response} {z : Exchange} {responses : Responses}
    {finishes : Finishes} (h : router.handle now x = (.ok s, y)) (hrun : y.runResponse s = (t, z))
    (hresponding : responses.Done (s, y.withoutResponses) (t, z))
    (hresponses : responses.map Prod.fst = y.responseCallbacks ++ responses.adds)
    (hfinishing : finishes.Done z.withoutFinishes z.runFinished)
    (hfinishes : finishes.map Prod.fst = z.finishedCallbacks ++ finishes.adds) :
    CallbackLog.Records ⟨responses, finishes⟩ router now x := by
  obtain ⟨hempty, hadded⟩ := Exchange.queues_of_responses hresponding
  obtain ⟨hnone, hleft⟩ := Exchange.queues_of_finishes hfinishing
  have hinvoke : router.invoke now x = (.ok t, z.runFinished) := by rw [invoke_of_ok h, hrun]
  constructor
  case succeeded =>
    intro s' y' hok
    obtain ⟨rfl, rfl⟩ : s = s' ∧ y = y' := by
      rw [h] at hok
      cases hok
      exact ⟨rfl, rfl⟩
    -- the end begins with nothing left for the response: what there is later comes from the end
    rw [hempty] at hleft
    rw [hinvoke]
    exact ⟨t, z, hresponses, hresponding, hfinishing, rfl, hleft⟩
  case failed =>
    intro e z' herror
    rw [h] at herror
    cases herror
  case finished => rwa [h, ← hadded]
  case settled => rwa [hinvoke]

theorem exists_records (router : Router) (now : Nat) (x : Exchange) :
    ∃ l : CallbackLog, l.Records router now x := by
  rcases hhandle : router.handle now x with ⟨e | s, y⟩
  · obtain ⟨finishes, hdone, hlog⟩ := y.runFinished_log
    exact ⟨_, records_of_error hhandle hdone hlog⟩
  · obtain ⟨responses, hresponding, hresponses⟩ := y.runResponse_log s
    obtain ⟨finishes, hfinishing, hfinishes⟩ := (y.runResponse s).2.runFinished_log
    exact ⟨_, records_of_ok hhandle rfl hresponding hresponses hfinishing hfinishes⟩

/-- All that is added until a request has been answered is done, each piece of work once and in the
order in which it was added; but what is for the response is only done where there is one. Nothing
that was added is lost while the request is handled, where all who have a part in that only add. -/
theorem callbacks_served (hmake : make c j = (.ok router, j')) (now : Nat) (x : Exchange) :
    (c.OnlyAdds → x.Grows (router.handle now x).2) ∧
      ∃ l : CallbackLog, l.Records router now x :=
  ⟨fun hadds => handle_grows hmake hadds now x, router.exists_records now x⟩

end Router

/-! ## A view that greets -/

namespace Greeting

def closing : FinishedCallback :=
  .mk (fun r => { r with journal := r.journal ++ [.note "closed"] }) (fun _ => []) fun _ => []

/-- Takes leave in the response, and has the note made. -/
def parting : ResponseCallback :=
  .mk (fun r s => (r, s.setText "goodbye")) (fun _ _ => []) fun _ _ => [closing]

def greeting : ResponseCallback :=
  .mk (fun r s => (r, s.setText "hello")) (fun _ _ => [parting]) fun _ _ => []

/-- Answers at once, and leaves the greeting and a note to make. -/
def view : View where
  description := "greeting"
  call _ := do
    modify fun x => x.onFinished closing
    modify fun x => x.onResponse greeting
    return {}

def registry : Registry :=
  { Registry.empty "greetings" with
    views := ({} : OrderedMap ViewKey Slot).insert ⟨.viewClassifier, .request, .any, ""⟩
      (.single view)
    tweens := { explicit := [(ExceptionView.tweenName, ExceptionView.tween)] } }

def router : Router := ⟨registry, ExceptionView.around registry.dispatch⟩

/-- The leave that is taken replaces the greeting. -/
theorem runResponse_greeting (r : Request) (s : Response) :
    (⟨r, [greeting], [closing]⟩ : Exchange).runResponse s =
      (s.setText "goodbye", ⟨r, [], [closing, closing]⟩) := by
  have htext : (s.setText "hello").setText "goodbye" = s.setText "goodbye" := rfl
  simp [Exchange.runResponse, Exchange.responding, greeting, parting, ResponseCallback.run,
    ResponseCallback.adds, ResponseCallback.finish, htext]

theorem runFinished_closing (r : Request) :
    (⟨r, [], [closing, closing]⟩ : Exchange).runFinished =
      ⟨{ r with journal := r.journal ++ [.note "closed", .note "closed"] }, [], []⟩ := by
  simp [Exchange.runFinished, Exchange.finishing, closing, FinishedCallback.run,
    FinishedCallback.adds, FinishedCallback.respond]

theorem view_onlyAdds : view.OnlyAdds :=
  have hcall (context : Resource) : (view.call context).OnlyAdds :=
    .bind (.modify fun x => x.grows_onFinished closing) fun _ =>
      .bind (.modify fun x => x.grows_onResponse greeting) fun _ => .pure _
  ⟨hcall, hcall⟩

theorem registry_onlyAdds : registry.OnlyAdds where
  views key slot h := by
    change OrderedMap.get? (OrderedMap.insert {} _ (Slot.single view)) key = some slot at h
    rw [OrderedMap.get?_insert] at h
    split at h
    · cases h
      exact view_onlyAdds
    · cases h
  subscribers e he := absurd he List.not_mem_nil
  explicitTweens e he := by
    obtain rfl := List.mem_singleton.1 he
    exact ExceptionView.tween_onlyAdds
  tweens name factory h := by cases h

end Greeting

/-- Both notes are made, the one that was added first and the one that came with the leave, which
replaces the greeting. -/
theorem Router.callbacks_served_greeting :
    Router.make Greeting.registry [] =
        (.ok Greeting.router, [.diagnostic .debug "cornice::tweens" "wrapping handler"]) ∧
      Greeting.registry.OnlyAdds ∧
      (Greeting.router.handle 0 {}).2.responseCallbacks = [Greeting.greeting] ∧
      (Greeting.registry.OnlyAdds → Exchange.Grows {} (Greeting.router.handle 0 {}).2) ∧
      (∃ l : CallbackLog, l.Records Greeting.router 0 {}) ∧
      (Greeting.router.invoke 0 {}).1 = .ok (({} : Response).setText "goodbye") ∧
      (Greeting.router.invoke 0 {}).2.journal = [.note "closed", .note "closed"] := by
  have hmake : Router.make Greeting.registry [] =
      (.ok Greeting.router, [.diagnostic .debug "cornice::tweens" "wrapping handler"]) := rfl
  obtain ⟨r, hhandle, hjournal⟩ : ∃ r : Request,
      Greeting.router.handle 0 {} = (.ok {}, ⟨r, [Greeting.greeting], [Greeting.closing]⟩) ∧
        r.journal = [] := ⟨_, rfl, rfl⟩
  have hinvoke := Router.invoke_of_ok hhandle
  rw [Greeting.runResponse_greeting, Greeting.runFinished_closing, hjournal] at hinvoke
  obtain ⟨hgrows, hrecords⟩ := Router.callbacks_served hmake 0 {}
  rw [hinvoke]
  exact ⟨hmake, Greeting.registry_onlyAdds, rfl, hgrows, hrecords, rfl, rfl⟩

end WebDispatch
