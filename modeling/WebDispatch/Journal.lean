import WebDispatch.Error

/-!
# The journal

What an application reports while it is configured and while it answers requests, in the order in
which it happens: notes of its own, and diagnostics of the library with a level and the part of
the library that reports.

* `Effect` — a computation that may fail, over a state that outlives the failure;
* `Effect.within` — runs a computation on a part of the state.

A run is told by what its parts do (`bind_apply` and the other equations for `simp`), and two runs
end alike when their results and their states are the same (`mk_eq_mk`).
-/

namespace WebDispatch

inductive Level where
  | trace
  | debug
  | warning
deriving DecidableEq, Repr, Inhabited

def Level.text : Level → String
  | .trace => "TRACE"
  | .debug => "DEBUG"
  | .warning => "WARN"

inductive Entry where
  | note (text : String)
  | diagnostic (level : Level) (area message : String)
deriving DecidableEq, Repr, Inhabited

namespace Entry

def text : Entry → String
  | note text => text
  | diagnostic level area message => level.text ++ " " ++ area ++ " " ++ message

def isNote : Entry → Bool
  | note _ => true
  | diagnostic .. => false

end Entry

/-- What was reported, the earliest first. -/
abbrev Journal := List Entry

/-- A computation that may fail; the state reached stays when it does. -/
abbrev Effect (σ α : Type) : Type := ExceptT Error (StateM σ) α

namespace Effect

variable {σ τ α : Type}

/-- Runs a computation on a part of the state, read by `get` and written back by `put`. -/
def within (get : σ → τ) (put : σ → τ → σ) (act : Effect τ α) : Effect σ α :=
  fun s =>
    let (result, t) := act (get s)
    (result, put s t)

def report (e : Entry) : Effect Journal Unit := modify (· ++ [e])

def outcome (act : Effect σ α) : Effect σ (Except Error α) :=
  fun s =>
    let (result, t) := act s
    (.ok result, t)

def ofExcept (r : Except Error α) : Effect σ α :=
  fun s => (r, s)

/-! ## Runs -/

section Runs

variable {β : Type} {s s' : σ}

/-- A sequence goes on from where its first part succeeds, and ends where that fails. -/
@[simp] theorem bind_apply (x : Effect σ α) (f : α → Effect σ β) (s : σ) :
    (x >>= f) s = match x s with
      | (.ok a, t) => f a t
      | (.error e, t) => (.error e, t) := by
  change ExceptT.bindCont f (x s).1 (x s).2 = _
  rcases x s with ⟨_ | _, t⟩ <;> rfl

/-- Computations one after another go on behind the first if that succeeds. -/
theorem forM_cons_apply (f : α → Effect σ PUnit) (a : α) (as : List α) (s : σ) :
    (a :: as).forM f s = match f a s with
      | (.ok _, t) => as.forM f t
      | (.error e, t) => (.error e, t) := by
  change (f a >>= fun _ => as.forM f) s = _
  rw [bind_apply]
  rcases f a s with ⟨_ | _, t⟩ <;> rfl

@[simp] theorem pure_apply (a : α) (s : σ) : (pure a : Effect σ α) s = (.ok a, s) := rfl

@[simp] theorem throw_apply (e : Error) (s : σ) : (throw e : Effect σ α) s = (.error e, s) := rfl

@[simp] theorem get_apply (s : σ) : (get : Effect σ σ) s = (.ok s, s) := rfl

@[simp] theorem set_apply (s t : σ) : (set t : Effect σ PUnit) s = (.ok ⟨⟩, t) := rfl

@[simp] theorem modify_apply (f : σ → σ) (s : σ) :
    (modify f : Effect σ PUnit) s = (.ok ⟨⟩, f s) := rfl

@[simp] theorem ofExcept_apply (r : Except Error α) (s : σ) : ofExcept r s = (r, s) := rfl

@[simp] theorem outcome_apply (act : Effect σ α) (s : σ) :
    act.outcome s = (.ok (act s).1, (act s).2) := rfl

@[simp] theorem within_apply (get : σ → τ) (put : σ → τ → σ) (act : Effect τ α) (s : σ) :
    within get put act s = ((act (get s)).1, put s (act (get s)).2) := rfl

-- a run ends in `Id`, behind which `simp` does not see the pair
@[simp] theorem mk_eq_mk {r r' : Except Error α} :
    @Eq (Id (Except Error α × σ)) (r, s) (r', s') ↔ r = r' ∧ s = s' :=
  Prod.mk.injEq r s r' s' ▸ Iff.rfl

end Runs

end Effect

end WebDispatch
