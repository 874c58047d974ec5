import WebDispatch.Queue
import WebDispatch.Request

/-!
# Exchanges

A request while it is handled, with what is left to do once its response is known and once it has
been handled. What is left to do may add more, depending on the request as it finds it; additions
come last.

* `FinishedCallback`, `ResponseCallback` — such work, for the end and for the response;
* `runResponse`, `runFinished` — do what is left, in order.
-/

namespace WebDispatch

open WebDispatch.Http (Response)

mutual

/-- Work for the end of an exchange, whatever its outcome. -/
inductive FinishedCallback where
  /-- Changes the request and adds callbacks of its own kind and for the response. -/
  | mk (run : Request → Request) (adds : Request → List FinishedCallback)
    (respond : Request → List ResponseCallback)

/-- Work for the response of an exchange, once it is known. -/
inductive ResponseCallback where
  /-- Changes the request and the response and adds callbacks of its own kind and for the end. -/
  | mk (run : Request → Response → Request × Response)
    (adds : Request → Response → List ResponseCallback)
    (finish : Request → Response → List FinishedCallback)

end

instance : Inhabited FinishedCallback := ⟨.mk id (fun _ => []) fun _ => []⟩

instance : Inhabited ResponseCallback := ⟨.mk Prod.mk (fun _ _ => []) fun _ _ => []⟩

namespace FinishedCallback

def run : FinishedCallback → Request → Request
  | mk run _ _ => run

/-- The callbacks of its own kind that it adds. -/
def adds : FinishedCallback → Request → List FinishedCallback
  | mk _ adds _ => adds

/-- The callbacks for the response that it adds. -/
def respond : FinishedCallback → Request → List ResponseCallback
  | mk _ _ respond => respond

mutual

/-- A callback begins no endless chain of additions. -/
theorem acc_adds : ∀ c : FinishedCallback, Acc (fun a c => ∃ r, a ∈ adds c r) c
  | mk _ adds _ => Acc.intro _ fun a ⟨r, ha⟩ => acc_adds_of_mem (adds r) a ha

theorem acc_adds_of_mem :
    ∀ cs : List FinishedCallback, ∀ c ∈ cs, Acc (fun a c => ∃ r, a ∈ adds c r) c
  | [], _, h => absurd h List.not_mem_nil
  | c :: rest, a, h => (List.mem_cons.1 h).elim (fun heq => heq ▸ acc_adds c)
      (acc_adds_of_mem rest a)

end

end FinishedCallback

namespace ResponseCallback

def run : ResponseCallback → Request → Response → Request × Response
  | mk run _ _ => run

def adds : ResponseCallback → Request → Response → List ResponseCallback
  | mk _ adds _ => adds

/-- The callbacks for the end of the exchange that it adds. -/
def finish : ResponseCallback → Request → Response → List FinishedCallback
  | mk _ _ finish => finish

mutual

/-- A callback begins no endless chain of additions. -/
theorem acc_adds : ∀ c : ResponseCallback, Acc (fun a c => ∃ r s, a ∈ adds c r s) c
  | mk _ adds _ => Acc.intro _ fun a ⟨r, s, ha⟩ => acc_adds_of_mem (adds r s) a ha

theorem acc_adds_of_mem :
    ∀ cs : List ResponseCallback, ∀ c ∈ cs, Acc (fun a c => ∃ r s, a ∈ adds c r s) c
  | [], _, h => absurd h List.not_mem_nil
  | c :: rest, a, h => (List.mem_cons.1 h).elim (fun heq => heq ▸ acc_adds c)
      (acc_adds_of_mem rest a)

end

end ResponseCallback

/-- A request that is being handled. -/
structure Exchange extends Request where
  responseCallbacks : List ResponseCallback := []
  finishedCallbacks : List FinishedCallback := []
deriving Inhabited

namespace Exchange

def note (x : Exchange) (text : String) : Exchange :=
  { x with journal := x.journal ++ [.note text] }

def report (x : Exchange) (level : Level) (area message : String) : Exchange :=
  { x with journal := x.journal ++ [.diagnostic level area message] }

def onFinished (x : Exchange) (c : FinishedCallback) : Exchange :=
  { x with finishedCallbacks := x.finishedCallbacks ++ [c] }

def onResponse (x : Exchange) (c : ResponseCallback) : Exchange :=
  { x with responseCallbacks := x.responseCallbacks ++ [c] }

def prepare (x : Exchange) (f : Response → Response) : Exchange :=
  { x with prepared := some (f (x.prepared.getD {})) }

def finishing : Worker FinishedCallback Exchange where
  act c x :=
    { x with
      toRequest := c.run x.toRequest
      responseCallbacks := x.responseCallbacks ++ c.respond x.toRequest }
  adds c x := c.adds x.toRequest
  wellFounded := Subrelation.wf (fun ⟨x, ha⟩ => ⟨x.toRequest, ha⟩)
    (WellFounded.intro FinishedCallback.acc_adds)

def runFinished (x : Exchange) : Exchange :=
  finishing.serve x.finishedCallbacks { x with finishedCallbacks := [] }

def responding : Worker ResponseCallback (Response × Exchange) where
  act c p :=
    let (r, s) := c.run p.2.toRequest p.1
    (s, { p.2 with
      toRequest := r
      finishedCallbacks := p.2.finishedCallbacks ++ c.finish p.2.toRequest p.1 })
  adds c p := c.adds p.2.toRequest p.1
  wellFounded := Subrelation.wf (fun ⟨p, ha⟩ => ⟨p.2.toRequest, p.1, ha⟩)
    (WellFounded.intro ResponseCallback.acc_adds)

def runResponse (x : Exchange) (s : Response) : Response × Exchange :=
  responding.serve x.responseCallbacks (s, { x with responseCallbacks := [] })

end Exchange

end WebDispatch
