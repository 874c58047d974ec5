import WebDispatch.Queue

/-!
# The log of a queue

Serving a queue is a run in which items act one after another. The log of a run has each item with
the state that it found. It has every item that was in the queue and every item that was added on
the way, each once, in the order in which they came in, and no other.

What an item makes of a state is told here by a relation, and what it adds by a function; a worker
is held against them in `Worker.serve_runs`.
-/

namespace WebDispatch

namespace Queue

variable {ι σ γ : Type} {acts : ι → σ → σ → Prop} {adds : ι → σ → List ι} {s t : σ}
  {log : List (ι × σ)}

/-- Items act one after another, each on the state that the one before it left. -/
inductive Runs (acts : ι → σ → σ → Prop) : σ → List (ι × σ) → σ → Prop where
  | nil (s : σ) : Runs acts s [] s
  | cons {item : ι} {s t u : σ} {log : List (ι × σ)} (hact : acts item s t)
    (h : Runs acts t log u) : Runs acts s ((item, s) :: log) u

/-- A log is that of a queue: it has the items of the queue and those that were added, in the
order in which they came in. -/
def LogOf (adds : ι → σ → List ι) (queue : List ι) (log : List (ι × σ)) : Prop :=
  log.map Prod.fst = queue ++ log.flatMap fun e => adds e.1 e.2

/-- What is added while an item is served waits behind the rest of the queue. -/
theorem LogOf.cons {item : ι} {rest : List ι} (h : LogOf adds (rest ++ adds item s) log) :
    LogOf adds (item :: rest) ((item, s) :: log) := by
  unfold LogOf at h ⊢
  simp only [List.map_cons, List.flatMap_cons, h, List.cons_append, List.append_assoc]

/-- What no item changes stays as it was. -/
theorem Runs.keeps {f : σ → γ} (hacts : ∀ item s t, acts item s t → f t = f s)
    (h : Runs acts s log t) : f t = f s := by
  induction h with
  | nil s => rfl
  | cons hact _ ih => rw [ih, hacts _ _ _ hact]

/-- What each item gives to a list in the state is, after a run, behind what was there. -/
theorem Runs.collects {f : σ → List γ} {g : ι → σ → List γ}
    (hacts : ∀ item s t, acts item s t → f t = f s ++ g item s) (h : Runs acts s log t) :
    f t = f s ++ log.flatMap fun e => g e.1 e.2 := by
  induction h with
  | nil s => simp
  | cons hact _ ih => simp [ih, hacts _ _ _ hact]

end Queue

namespace Worker

variable {ι σ : Type} {w : Worker ι σ}

@[simp] theorem serve_nil (s : σ) : w.serve [] s = s := by rw [serve]

@[simp] theorem serve_cons (item : ι) (rest : List ι) (s : σ) :
    w.serve (item :: rest) s = w.serve (rest ++ w.adds item s) (w.act item s) := by rw [serve]

/-- Serving a queue is the run of a log of that queue. -/
theorem serve_runs {acts : ι → σ → σ → Prop} (hacts : ∀ item s, acts item s (w.act item s))
    (queue : List ι) (s : σ) :
    ∃ log, Queue.Runs acts s log (w.serve queue s) ∧ Queue.LogOf w.adds queue log := by
  induction queue, s using serve.induct w with
  | case1 s =>
      rw [serve_nil]
      exact ⟨[], .nil s, rfl⟩
  | case2 s item rest ih =>
      obtain ⟨log, hruns, hlog⟩ := ih
      rw [serve_cons]
      exact ⟨(item, s) :: log, .cons (hacts item s) hruns, hlog.cons⟩

end Worker

end WebDispatch
