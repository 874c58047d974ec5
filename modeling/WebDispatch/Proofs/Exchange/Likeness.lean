import WebDispatch.Proofs.View.Selection

/-!
# Runs that are alike

What a request is told of a decision on access is a text: the reason that it carries, the lines
that report it, and the words of a denial. Two exchanges are alike if they differ in nothing else,
and two runs are alike if they come to the same result, the words of a denial aside, and lead from
exchanges that are alike to such exchanges.

Alikeness is no equality: a computation that looks at the reason is not alike to itself. What is
alike to itself does not look, and whatever is put together of such parts does not either.

* `Error.Alike`, `Resource.Alike`, `Journal.Alike`, `Request.Alike`, `Exchange.Alike` — what differs
  in the words alone;
* `Effect.Alike`, `Handling.Alike` — computations whose runs are alike, the latter within two
  applications;
* `Environment.Alike` — two applications whose ways back into their views are alike.
-/

namespace WebDispatch

open WebDispatch.Http (Response)

/-! ## Data -/

/-- The same error, or two denials of access. -/
def Error.Alike (e f : Error) : Prop := e = f ∨ ∃ s t, e = .forbidden s ∧ f = .forbidden t

namespace Error.Alike

variable {e f : Error}

theorem refl (e : Error) : e.Alike e := Or.inl rfl

theorem isMismatch_eq (h : e.Alike f) : e.isMismatch = f.isMismatch := by
  rcases h with rfl | ⟨s, t, rfl, rfl⟩
  · rfl
  · rfl

theorem provided_eq (h : e.Alike f) : e.provided = f.provided := by
  rcases h with rfl | ⟨s, t, rfl, rfl⟩
  · rfl
  · rfl

end Error.Alike

def Resource.Alike (a b : Resource) : Prop :=
  a = b ∨ ∃ e f, e.Alike f ∧ a = .failure e ∧ b = .failure f

namespace Resource.Alike

variable {a b : Resource}

theorem refl (a : Resource) : a.Alike a := Or.inl rfl

theorem failure {e f : Error} (h : e.Alike f) : (Resource.failure e).Alike (.failure f) :=
  Or.inr ⟨e, f, h, rfl, rfl⟩

theorem provided_eq (h : a.Alike b) : a.provided = b.provided := by
  rcases h with rfl | ⟨e, f, h, rfl, rfl⟩
  · rfl
  · exact h.provided_eq

theorem isSome_findInterface?_eq (h : a.Alike b) (i : Interface) :
    (a.findInterface? i).isSome = (b.findInterface? i).isSome := by
  rcases h with rfl | ⟨e, f, h, rfl, rfl⟩
  · rfl
  · have hprovides : (Resource.failure e).provides i = (Resource.failure f).provides i :=
      congrArg (fun l : List Interface => l.contains i) h.provided_eq
    simp only [findInterface?, lineage, List.find?_cons, hprovides, List.find?_nil]
    split <;> rfl

end Resource.Alike

def Entry.explains : Entry → Bool
  | .diagnostic .debug area _ => area = "cornice::views"
  | _ => false

namespace Journal

/-- The lines that report no decision on access. -/
def plain (j : Journal) : Journal := j.filter fun e => !e.explains

/-- The same but for the decisions on access that are reported. -/
def Alike (j k : Journal) : Prop := j.plain = k.plain

theorem Alike.append {j k : Journal} (h : j.Alike k) (lines : Journal) :
    Alike (j ++ lines) (k ++ lines) := by
  rw [Alike, plain, plain, List.filter_append, List.filter_append]
  exact congrArg (· ++ _) h

end Journal

namespace Request

def plain (r : Request) : Request :=
  { r with accessReason := none, journal := r.journal.plain }

def Alike (r s : Request) : Prop := r.plain = s.plain

namespace Alike

variable {r s : Request} {α : Type}

/-- What is read off a request without these is the same. -/
theorem eq_of_plain (h : r.Alike s) (f : Request → α) (hf : ∀ q : Request, f q.plain = f q) :
    f r = f s :=
  (hf r).symm.trans ((congrArg f h).trans (hf s))

theorem target_eq (h : r.Alike s) : r.target = s.target :=
  h.eq_of_plain Request.target fun _ => rfl

theorem accept_eq (h : r.Alike s) : r.accept = s.accept := h.eq_of_plain Request.accept fun _ => rfl

theorem type_eq (h : r.Alike s) : r.type = s.type := h.eq_of_plain Request.type fun _ => rfl

theorem renderer_eq (h : r.Alike s) : r.renderer = s.renderer :=
  h.eq_of_plain Request.renderer fun _ => rfl

theorem prepared_eq (h : r.Alike s) : r.prepared = s.prepared :=
  h.eq_of_plain Request.prepared fun _ => rfl

theorem journal (h : r.Alike s) : r.journal.Alike s.journal :=
  congrArg (fun q : Request => q.journal) (show r.plain = s.plain from h)

/-- What is changed of anything else leaves them alike. -/
theorem modify (h : r.Alike s) (f : Request → Request)
    (hf : ∀ q : Request, (f q).plain = f q.plain) : (f r).Alike (f s) :=
  (hf r).trans ((congrArg f h).trans (hf s).symm)

theorem setJournal (h : r.Alike s) {j k : Journal} (hj : j.Alike k) :
    Request.Alike { r with journal := j } { s with journal := k } := by
  have hsame : ({ r.plain with journal := j.plain } : Request) =
      { s.plain with journal := k.plain } := by
    rw [show r.plain = s.plain from h, show j.plain = k.plain from hj]
  exact hsame

end Alike

end Request

/-- Exchanges that differ in the reason for the last decision on access alone, and in the reports of
such decisions. -/
structure Exchange.Alike (x y : Exchange) : Prop where
  request : x.toRequest.Alike y.toRequest
  responseCallbacks : x.responseCallbacks = y.responseCallbacks
  finishedCallbacks : x.finishedCallbacks = y.finishedCallbacks

/-- What subscribers are told of a value, the reports of decisions on access aside. -/
structure Rendering.Alike (a b : Rendering) : Prop where
  value : a.value = b.value
  values : a.values = b.values
  journal : a.journal.Alike b.journal

/-! ## Computations -/

/-- Two results, the words of a denial aside. -/
inductive Result.Alike {α : Type} (V : α → α → Prop) : Except Error α → Except Error α → Prop
  | ok {a b : α} (h : V a b) : Alike V (.ok a) (.ok b)
  | error {e f : Error} (h : e.Alike f) : Alike V (.error e) (.error f)

namespace Effect

variable {σ τ α β : Type} {S : σ → σ → Prop} {T : τ → τ → Prop} {V : α → α → Prop}
  {W : β → β → Prop}

/-- From states that are alike, two computations come to results and states that are alike. -/
def Alike (S : σ → σ → Prop) (V : α → α → Prop) (act act' : Effect σ α) : Prop :=
  ∀ s s', S s s' → Result.Alike V (act s).1 (act' s').1 ∧ S (act s).2 (act' s').2

namespace Alike

theorem pure {a b : α} (h : V a b) : Alike S V (pure a) (pure b) := fun _ _ hs => ⟨.ok h, hs⟩

theorem throw {e f : Error} (h : e.Alike f) : Alike S V (throw e) (throw f) :=
  fun _ _ hs => ⟨.error h, hs⟩

theorem get : Alike S S (get : Effect σ σ) (get : Effect σ σ) := fun _ _ hs => ⟨.ok hs, hs⟩

theorem modify {f g : σ → σ} (h : ∀ s s', S s s' → S (f s) (g s')) :
    Alike S Eq (modify f : Effect σ PUnit) (modify g : Effect σ PUnit) :=
  fun s s' hs => ⟨.ok rfl, h s s' hs⟩

theorem ofExcept {r r' : Except Error α} (h : Result.Alike V r r') :
    Alike S V (ofExcept r) (ofExcept r') := fun _ _ hs => ⟨h, hs⟩

theorem outcome {act act' : Effect σ α} (h : Alike S V act act') :
    Alike S (Result.Alike V) act.outcome act'.outcome :=
  fun s s' hs => ⟨.ok (h s s' hs).1, (h s s' hs).2⟩

theorem within {get get' : σ → τ} {put put' : σ → τ → σ} {act act' : Effect τ α}
    (h : Alike T V act act') (hget : ∀ s s', S s s' → T (get s) (get' s'))
    (hput : ∀ s s' t t', S s s' → T t t' → S (put s t) (put' s' t')) :
    Alike S V (within get put act) (within get' put' act') := by
  intro s s' hs
  have hrun := h (get s) (get' s') (hget s s' hs)
  exact ⟨hrun.1, hput s s' _ _ hs hrun.2⟩

theorem bind {act act' : Effect σ α} {f f' : α → Effect σ β} (hact : Alike S V act act')
    (hf : ∀ a a', V a a' → Alike S W (f a) (f' a')) : Alike S W (act >>= f) (act' >>= f') := by
  intro s s' hs
  have hrun := hact s s' hs
  rw [bind_apply, bind_apply]
  generalize act s = run, act' s' = run' at hrun ⊢
  obtain ⟨result, t⟩ := run
  obtain ⟨result', t'⟩ := run'
  obtain ⟨hresult, ht⟩ := hrun
  cases hresult with
  | ok ha => exact hf _ _ ha t t' ht
  | error he => exact ⟨.error he, ht⟩

/-- Computations one after another, up to the first that fails. -/
theorem forM {f f' : α → Effect σ PUnit} {as : List α}
    (h : ∀ a ∈ as, Alike S Eq (f a) (f' a)) : Alike S Eq (as.forM f) (as.forM f') := by
  induction as with
  | nil => exact Alike.pure rfl
  | cons a as ih =>
      change Alike S Eq (f a >>= fun _ => as.forM f) (f' a >>= fun _ => as.forM f')
      have hrest := ih fun b hb => h b (List.mem_cons_of_mem a hb)
      exact (h a List.mem_cons_self).bind fun _ _ _ => hrest

end Alike

end Effect

/-! ## Within two applications -/

/-- Two applications with given components, whose ways back into their views are alike. -/
structure Environment.Alike (c c' : Components) (env env' : Environment) : Prop where
  left : env.components = some c
  right : env'.components = some c'
  now : env.now = env'.now
  renderNamed : ∀ a b name secure, a.Alike b → Effect.Alike Exchange.Alike Eq
    (env.renderNamed a name secure) (env'.renderNamed b name secure)
  handleError : ∀ e f, e.Alike f →
    Effect.Alike Exchange.Alike Eq (env.handleError e) (env'.handleError f)

def Handling.Alike {α : Type} (c c' : Components) (V : α → α → Prop) (act act' : Handling α) :
    Prop :=
  ∀ env env', Environment.Alike c c' env env' → Effect.Alike Exchange.Alike V (act env) (act' env')

namespace Handling.Alike

variable {α β : Type} {c c' : Components} {V : α → α → Prop} {W : β → β → Prop}

theorem pure {a b : α} (h : V a b) : Alike c c' V (pure a) (pure b) :=
  fun _ _ _ => Effect.Alike.pure h

theorem throw {e f : Error} (h : e.Alike f) : Alike c c' V (throw e) (throw f) :=
  fun _ _ _ => Effect.Alike.throw h

theorem bind {act act' : Handling α} {f f' : α → Handling β} (hact : Alike c c' V act act')
    (hf : ∀ a a', V a a' → Alike c c' W (f a) (f' a')) :
    Alike c c' W (act >>= f) (act' >>= f') :=
  fun env env' henv => (hact env env' henv).bind fun a a' ha => hf a a' ha env env' henv

/-- What catches errors goes on alike, whether there is one or not. -/
theorem outcome_bind {act act' : Handling α} {f f' : Except Error α → Handling β}
    (hact : Alike c c' V act act') (hok : ∀ a a', V a a' → Alike c c' W (f (.ok a)) (f' (.ok a')))
    (herror : ∀ e e', e.Alike e' → Alike c c' W (f (.error e)) (f' (.error e'))) :
    Alike c c' W (act.outcome >>= f) (act'.outcome >>= f') := by
  have houtcome : Alike c c' (Result.Alike V) act.outcome act'.outcome :=
    fun env env' henv => (hact env env' henv).outcome
  refine houtcome.bind fun result result' hresult => ?_
  cases hresult with
  | ok ha => exact hok _ _ ha
  | error he => exact herror _ _ he

theorem bind_read {f f' : Environment → Handling β}
    (h : ∀ env env', Environment.Alike c c' env env' →
      Effect.Alike Exchange.Alike W (f env env) (f' env' env')) :
    Alike c c' W (read >>= f) (read >>= f') := h

theorem request : Alike c c' Request.Alike Handling.request Handling.request :=
  fun _ _ _ _ _ hx => ⟨.ok hx.request, hx⟩

theorem modify {f f' : Exchange → Exchange}
    (h : ∀ x y : Exchange, x.Alike y → (f x).Alike (f' y)) :
    Alike c c' Eq (modify f : Handling PUnit) (modify f' : Handling PUnit) :=
  fun _ _ _ => Effect.Alike.modify h

theorem modifyRequest (f : Request → Request)
    (hf : ∀ q : Request, (f q).plain = f q.plain) :
    Alike c c' Eq (Handling.modifyRequest f) (Handling.modifyRequest f) :=
  modify fun _ _ hx => ⟨hx.request.modify f hf, hx.responseCallbacks, hx.finishedCallbacks⟩

theorem report (level : Level) (area message : String) :
    Alike c c' Eq (Handling.report level area message) (Handling.report level area message) :=
  modify fun _ _ hx => ⟨hx.request.setJournal (hx.request.journal.append _),
    hx.responseCallbacks, hx.finishedCallbacks⟩

/-- What only reports reads and writes the journal. -/
theorem reporting {act act' : Effect Journal α} (h : Effect.Alike Journal.Alike V act act') :
    Alike c c' V (Handling.reporting act) (Handling.reporting act') :=
  fun _ _ _ => h.within (fun _ _ hx => hx.request.journal) fun _ _ _ _ hx hj =>
    ⟨hx.request.setJournal hj, hx.responseCallbacks, hx.finishedCallbacks⟩

theorem components : Alike c c' (fun a b => a = c ∧ b = c') Handling.components
    Handling.components := by
  refine bind_read fun env env' henv => ?_
  rw [henv.left, henv.right]
  exact Effect.Alike.pure ⟨rfl, rfl⟩

end Handling.Alike

end WebDispatch
