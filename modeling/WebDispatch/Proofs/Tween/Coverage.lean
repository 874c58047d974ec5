import WebDispatch.Proofs.Exchange.Callbacks
import WebDispatch.Proofs.Tween.Passing
import WebDispatch.Proofs.View.Recovery

/-!
# Which errors exception views cover

Where all tweens but those for errors pass errors on, the order alone tells what becomes of an
error: the nearest tween for errors further out has it answered by exception views, and if there is
none the error is what the caller gets.

* `told` — a run of tweens around a core, with what happens to errors on the way;
* `Routed` — errors go to the nearest exception views further out, or end the run;
* `Tweens.order_governs` — what the order of the tweens of a registry makes of its handler.
-/

namespace WebDispatch

open WebDispatch.Http (Response)

/-! ## What happens to errors -/

/-- What happens to an error. A position is the number of tweens further out, so that the core has
the number of all tweens. -/
inductive Mishap where
  /-- What stands at a position fails, and not because of what is inside it. -/
  | raised (position : Nat) (e : Error)
  /-- The tween at a position consults exception views. -/
  | offered (position : Nat) (e : Error)
deriving DecidableEq

def Mishap.inward : Mishap → Mishap
  | raised p e => raised (p + 1) e
  | offered p e => offered (p + 1) e

/-- A run, with what happened to errors. -/
structure Told where
  outcome : Except Error Response × Exchange
  mishaps : List Mishap

def Told.inward (t : Told) : Told := { t with mishaps := t.mishaps.map Mishap.inward }

/-- What a result tells of what stands outermost. -/
def raisedHere : Except Error Response → List Mishap
  | .ok _ => []
  | .error e => [.raised 0 e]

namespace ExceptionView

variable {env : Environment} {e : Error} {y : Exchange}

/-- What exception views make of an error; it stands where they have no answer. -/
def consulted (env : Environment) (e : Error) (y : Exchange) :
    Except Error Response × Exchange :=
  match env.handleError e (afterError e y) with
  | (.ok (some response), z) => (.ok response, z)
  | (.ok none, z) => (.error e, z)
  | (.error f, z) => (.error f, z)

/-- Within an application the tween consults them about every error. -/
theorem answer_eq_consulted (h : env.components.isSome) : answer e env y = consulted env e y := by
  have hsome : env.components ≠ none := Option.isSome_iff_ne_none.mp h
  rcases hrun : env.handleError e (afterError e y) with ⟨f | response | response, z⟩
  all_goals
    rw [afterError] at hrun
    simp [answer, consulted, afterError, hsome, hrun]

end ExceptionView

def Passage.told (next : Exchange → Told) : Passage → Told
  | finish result x => ⟨(result, x), raisedHere result⟩
  | call x failed answered =>
    match (next x).outcome with
    | (.ok response, y) =>
      let rest := (answered response y).told next
      ⟨rest.outcome, (next x).mishaps ++ rest.mishaps⟩
    | (.error e, y) => ⟨(.error e, failed e y), (next x).mishaps⟩

/-- The run of tweens around a core. -/
def told (core : Handler) (env : Environment) : List Layer → Exchange → Told
  | [], x => ⟨core env x, raisedHere (core env x).1⟩
  | .passing begins :: rest, x => (begins env x).told fun y => (told core env rest y).inward
  | .exceptionViews :: rest, x =>
    let inner := (told core env rest x).inward
    match inner.outcome with
    | (.ok response, y) => ⟨(.ok response, y), inner.mishaps⟩
    | (.error e, y) =>
      let answer := ExceptionView.consulted env e y
      ⟨answer, inner.mishaps ++ .offered 0 e :: raisedHere answer.1⟩

section Told

variable {core : Handler} {env : Environment} {rest : List Layer} {x y : Exchange}

theorem told_of_answered {response : Response}
    (h : (told core env rest x).outcome = (.ok response, y)) :
    told core env (.exceptionViews :: rest) x =
      ⟨(.ok response, y), (told core env rest x).mishaps.map Mishap.inward⟩ := by
  simp only [told, Told.inward, h]

theorem told_of_failed {e : Error} (h : (told core env rest x).outcome = (.error e, y)) :
    told core env (.exceptionViews :: rest) x =
      ⟨ExceptionView.consulted env e y, (told core env rest x).mishaps.map Mishap.inward ++
        .offered 0 e :: raisedHere (ExceptionView.consulted env e y).1⟩ := by
  simp only [told, Told.inward, h]

@[simp] theorem Passage.told_outcome (next : Exchange → Told) (passage : Passage) :
    (passage.told next).outcome = passage.run fun y => (next y).outcome := by
  induction passage with
  | finish result x => rfl
  | call x failed answered ih =>
      rw [Passage.told, run]
      rcases (next x).outcome with ⟨e | response, y⟩
      · rfl
      · exact ih response y

/-- What is told is the run of the handlers around one another. -/
theorem told_outcome (h : env.components.isSome) (layers : List Layer) (x : Exchange) :
    (told core env layers x).outcome = Tweens.nested (layers.map Layer.around) core env x := by
  induction layers generalizing x with
  | nil => rfl
  | cons layer rest ih =>
      cases layer with
      | passing begins =>
          have hnext : (fun y => (told core env rest y).outcome) =
              Tweens.nested (rest.map Layer.around) core env := funext ih
          rw [told, Passage.told_outcome]
          change (begins env x).run (fun y => (told core env rest y).outcome) = _
          rw [hnext]
          rfl
      | exceptionViews =>
          change _ = ExceptionView.around (Tweens.nested (rest.map Layer.around) core) env x
          rcases hrun : Tweens.nested (rest.map Layer.around) core env x with ⟨e | response, y⟩
          · rw [told_of_failed ((ih x).trans hrun), ExceptionView.around_of_error hrun,
              ExceptionView.answer_eq_consulted h]
          · rw [told_of_answered ((ih x).trans hrun), ExceptionView.around_of_ok hrun]

end Told

/-! ## Where errors go -/

/-- The tween at one position is the nearest for errors around another. -/
def Nearest (layers : List Layer) (j p : Nat) : Prop :=
  ∃ between, layers.take p = layers.take j ++ .exceptionViews :: between ∧
    Layer.exceptionViews ∉ between

/-- What happens to errors in a run with some result. Each error is offered at once to the nearest
exception views further out. There is one without any at most, and it ends the run. -/
inductive Routed (layers : List Layer) : List Mishap → Except Error Response → Prop where
  | answered (response : Response) : Routed layers [] (.ok response)
  | uncovered {p : Nat} {e : Error} (position : p ≤ layers.length)
      (none : Layer.exceptionViews ∉ layers.take p) : Routed layers [.raised p e] (.error e)
  | covered {p j : Nat} {e : Error} {mishaps : List Mishap} {result : Except Error Response}
      (position : p ≤ layers.length) (near : Nearest layers j p)
      (rest : Routed layers mishaps result) :
      Routed layers (.raised p e :: .offered j e :: mishaps) result

namespace Routed

variable {layers rest : List Layer} {mishaps more : List Mishap}
  {result : Except Error Response} {response : Response} {e : Error}

theorem own (layers : List Layer) (result : Except Error Response) :
    Routed layers (raisedHere result) result := by
  cases result with
  | ok response => exact .answered response
  | error e => exact .uncovered (Nat.zero_le _) List.not_mem_nil

/-- What comes after an answer may have errors of its own. -/
theorem append (h : Routed layers mishaps (.ok response)) (hmore : Routed layers more result) :
    Routed layers (mishaps ++ more) result := by
  generalize hr : Except.ok response = answer at h
  induction h with
  | answered => exact hmore
  | uncovered => cases hr
  | covered position near _ ih => exact .covered position near (ih hr)

theorem nearest_cons {j p : Nat} (layer : Layer) (h : Nearest layers j p) :
    Nearest (layer :: layers) (j + 1) (p + 1) := by
  obtain ⟨between, htake, hbetween⟩ := h
  refine ⟨between, ?_, hbetween⟩
  rw [List.take_succ_cons, List.take_succ_cons, htake, List.cons_append]

/-- A tween that passes errors on changes nothing but positions. -/
theorem inward (begins : Environment → Exchange → Passage) (h : Routed rest mishaps result) :
    Routed (.passing begins :: rest) (mishaps.map Mishap.inward) result := by
  induction h with
  | answered response => exact .answered response
  | uncovered position none =>
      refine .uncovered (Nat.succ_le_succ position) ?_
      rw [List.take_succ_cons, List.mem_cons]
      rintro (h | h)
      · cases h
      · exact none h
  | covered position near _ ih =>
      exact .covered (Nat.succ_le_succ position) (nearest_cons _ near) ih

/-- An answer within the tween for errors owes nothing to it. -/
theorem inward_answered (h : Routed rest mishaps (.ok response)) :
    Routed (.exceptionViews :: rest) (mishaps.map Mishap.inward) (.ok response) := by
  generalize hr : Except.ok response = answer at h ⊢
  induction h with
  | answered response => exact .answered response
  | uncovered => cases hr
  | covered position near _ ih =>
      exact .covered (Nat.succ_le_succ position) (nearest_cons _ near) (ih hr)

/-- The tween for errors is the nearest to an error that gets through to it. -/
theorem inward_offered (h : Routed rest mishaps (.error e))
    (hmore : Routed (.exceptionViews :: rest) more result) :
    Routed (.exceptionViews :: rest) (mishaps.map Mishap.inward ++ .offered 0 e :: more)
      result := by
  generalize hr : Except.error e = failure at h
  induction h with
  | answered => cases hr
  | uncovered position none =>
      cases hr
      exact .covered (Nat.succ_le_succ position) ⟨_, List.take_succ_cons, none⟩ hmore
  | covered position near _ ih =>
      exact .covered (Nat.succ_le_succ position) (nearest_cons _ near) (ih hr)

end Routed

theorem Passage.told_routed {layers : List Layer} {next : Exchange → Told}
    (hnext : ∀ y, Routed layers (next y).mishaps (next y).outcome.1) (passage : Passage) :
    Routed layers (passage.told next).mishaps (passage.told next).outcome.1 := by
  induction passage with
  | finish result x => exact .own layers result
  | call x failed answered ih =>
      have hx := hnext x
      rw [Passage.told]
      rcases hrun : (next x).outcome with ⟨e | response, y⟩
      · rwa [hrun] at hx
      · -- the call was answered, so that all its errors were covered
        rw [hrun] at hx
        exact hx.append (ih response y)

/-- One tween after another, from the core outwards. -/
theorem told_routed (core : Handler) (env : Environment) (layers : List Layer) (x : Exchange) :
    Routed layers (told core env layers x).mishaps (told core env layers x).outcome.1 := by
  induction layers generalizing x with
  | nil => exact .own [] _
  | cons layer rest ih =>
      cases layer with
      | passing begins => exact Passage.told_routed (fun y => (ih y).inward begins) _
      | exceptionViews =>
          have hx := ih x
          rcases hrun : (told core env rest x).outcome with ⟨e | response, y⟩
          · -- what was uncovered within ends the history, and is what is offered here
            rw [hrun] at hx
            rw [told_of_failed hrun]
            exact hx.inward_offered (.own _ _)
          · rw [hrun] at hx
            rw [told_of_answered hrun]
            exact hx.inward_answered

/-! ## What the order tells of errors -/

namespace Routed

variable {layers : List Layer} {mishaps before after : List Mishap}
  {result : Except Error Response} {p j : Nat} {e : Error}

theorem position_le (h : Routed layers mishaps result) (hmem : .raised p e ∈ mishaps) :
    p ≤ layers.length := by
  induction h with
  | answered => cases hmem
  | uncovered position => grind
  | covered position _ _ ih => grind

/-- What comes after an error. -/
theorem after_raised (h : Routed layers mishaps result)
    (hsplit : mishaps = before ++ .raised p e :: after) :
    (∃ j rest, after = .offered j e :: rest ∧ Nearest layers j p) ∨
      after = [] ∧ result = .error e ∧ Layer.exceptionViews ∉ layers.take p := by
  induction h generalizing before with
  | answered => simp at hsplit
  | uncovered position none =>
      obtain ⟨rfl, h⟩ | ⟨rest, -, h⟩ := List.cons_eq_append_iff.mp hsplit
      · cases h
        exact Or.inr ⟨rfl, rfl, none⟩
      · simp at h
  | covered position near _ ih =>
      -- the error is the one that is offered first, or it is in what follows
      obtain ⟨rfl, h⟩ | ⟨rest, -, h⟩ := List.cons_eq_append_iff.mp hsplit
      · cases h
        exact Or.inl ⟨_, _, rfl, near⟩
      · obtain ⟨rfl, h⟩ | ⟨rest, -, h⟩ := List.cons_eq_append_iff.mp h
        · cases h
        · exact ih h

/-- What comes before an offer. -/
theorem before_offered (h : Routed layers mishaps result)
    (hsplit : mishaps = before ++ .offered j e :: after) :
    ∃ earlier p, before = earlier ++ [.raised p e] ∧ Nearest layers j p := by
  induction h generalizing before with
  | answered => simp at hsplit
  | uncovered position none =>
      obtain ⟨rfl, h⟩ | ⟨rest, -, h⟩ := List.cons_eq_append_iff.mp hsplit
      · cases h
      · simp at h
  | covered position near _ ih =>
      obtain ⟨rfl, h⟩ | ⟨rest, rfl, hrest⟩ := List.cons_eq_append_iff.mp hsplit
      · cases h
      · obtain ⟨rfl, h⟩ | ⟨rest, rfl, hmore⟩ := List.cons_eq_append_iff.mp hrest
        · cases h
          exact ⟨[], _, rfl, near⟩
        · obtain ⟨earlier, p, rfl, hnear⟩ := ih hmore
          exact ⟨_ :: _ :: earlier, p, rfl, hnear⟩

/-- A run fails with an error that was offered nowhere. -/
theorem of_error (h : Routed layers mishaps (.error e)) :
    ∃ before p, mishaps = before ++ [.raised p e] ∧ Layer.exceptionViews ∉ layers.take p := by
  generalize hr : Except.error e = failure at h
  induction h with
  | answered => cases hr
  | uncovered position none =>
      cases hr
      exact ⟨[], _, rfl, none⟩
  | covered _ _ _ ih =>
      obtain ⟨before, p, rfl, hnone⟩ := ih hr
      exact ⟨_ :: _ :: before, p, rfl, hnone⟩

end Routed

theorem Nearest.mem {layers : List Layer} {j p : Nat} (h : Nearest layers j p) :
    Layer.exceptionViews ∈ layers.take p := by
  obtain ⟨between, htake, -⟩ := h
  rw [htake]
  exact List.mem_append_right _ List.mem_cons_self

/-- What the order tells of the errors in a run. -/
structure Conducted (layers : List Layer) (t : Told) : Prop where
  /-- Tweens and the core have positions. -/
  position : ∀ p e, .raised p e ∈ t.mishaps → p ≤ layers.length
  /-- An error is offered to exception views just where they are further out. -/
  offered_iff : ∀ before p e after, t.mishaps = before ++ .raised p e :: after →
    ((∃ j rest, after = .offered j e :: rest) ↔ Layer.exceptionViews ∈ layers.take p)
  /-- An error of the core is, where they are in the order at all. -/
  core_offered_iff : ∀ before e after, t.mishaps = before ++ .raised layers.length e :: after →
    ((∃ j rest, after = .offered j e :: rest) ↔ Layer.exceptionViews ∈ layers)
  /-- Otherwise the run ends with the error. -/
  uncovered : ∀ before p e after, t.mishaps = before ++ .raised p e :: after →
    Layer.exceptionViews ∉ layers.take p → after = [] ∧ t.outcome.1 = .error e
  /-- Only what has just been raised is offered, to the nearest exception views further out. -/
  nearest : ∀ before j e after, t.mishaps = before ++ .offered j e :: after →
    ∃ earlier p, before = earlier ++ [.raised p e] ∧ Nearest layers j p
  /-- A run fails with nothing else than what exception views are not further out of. -/
  failed : ∀ e, t.outcome.1 = .error e →
    ∃ before p, t.mishaps = before ++ [.raised p e] ∧ Layer.exceptionViews ∉ layers.take p

theorem Routed.conducted {layers : List Layer} {t : Told}
    (h : Routed layers t.mishaps t.outcome.1) : Conducted layers t := by
  have hoffered : ∀ before p e after, t.mishaps = before ++ .raised p e :: after →
      ((∃ j rest, after = .offered j e :: rest) ↔ Layer.exceptionViews ∈ layers.take p) := by
    intro before p e after hsplit
    obtain ⟨j, rest, rfl, hnear⟩ | ⟨rfl, -, hnone⟩ := h.after_raised hsplit
    · exact iff_of_true ⟨j, rest, rfl⟩ hnear.mem
    · refine iff_of_false ?_ hnone
      rintro ⟨j, rest, h⟩
      cases h
  refine ⟨fun p e => h.position_le, hoffered, ?_, ?_, fun _ _ _ _ => h.before_offered, ?_⟩
  · intro before e after hsplit
    have hcore := hoffered before layers.length e after hsplit
    rwa [List.take_length] at hcore
  · intro before p e after hsplit hnone
    obtain ⟨j, rest, -, hnear⟩ | ⟨rfl, hresult, -⟩ := h.after_raised hsplit
    · exact absurd hnear.mem hnone
    · exact ⟨rfl, hresult⟩
  · intro e he
    rw [he] at h
    exact h.of_error

theorem told_conducted (core : Handler) (env : Environment) (layers : List Layer) (x : Exchange) :
    Conducted layers (told core env layers x) :=
  (told_routed core env layers x).conducted

/-! ## The tweens of a registry -/

namespace Tweens

variable {c : Registry} {order : List (String × TweenFactory)}

/-- **The order of tweens governs the handler.** Around any core the tweens of the order in effect
are one around the other. If they only record, they are entered in order and left in reverse. If
all but those for errors pass errors on, an error is offered to exception views just where these
are further out than what raises it, and is otherwise what the caller of the router gets. -/
theorem order_governs (h : c.tweens.resolved = .ok order) :
    (∀ registry core j, ∃ wrappers j',
      c.tweens.wrap registry core j = (.ok (nested wrappers core), j') ∧
        List.Forall₂ (Wraps registry) order wrappers) ∧
    (∀ marks, List.Forall₂ (Forms Mark.around) order marks → ∀ registry core j, ∃ j',
      c.tweens.wrap registry core j = (.ok (Mark.recorded marks core), j')) ∧
    ∀ layers, List.Forall₂ (Forms Layer.around) order layers →
      (∀ registry core j, ∃ handler j', c.tweens.wrap registry core j = (.ok handler, j') ∧
        ∀ env x, env.components.isSome →
          handler env x = (told core env layers x).outcome ∧
            Conducted layers (told core env layers x)) ∧
      ∀ j, ∃ router j', Router.make c j = (.ok router, j') ∧
        ∀ now x, router.handle now x = (told c.dispatch (c.environment now) layers x).outcome ∧
          Conducted layers (told c.dispatch (c.environment now) layers x) ∧
          ∀ before p e after, (told c.dispatch (c.environment now) layers x).mishaps =
              before ++ .raised p e :: after → Layer.exceptionViews ∉ layers.take p →
            (router.handle now x).1 = .error e ∧ (router.invoke now x).1 = .error e := by
  refine ⟨wrap_nested h, fun marks hmarks registry core j => ?_, fun layers hlayers => ⟨?_, ?_⟩⟩
  · rw [← Mark.nested_marks]
    exact wrap_forms h hmarks registry core j
  · intro registry core j
    obtain ⟨j', hwrap⟩ := wrap_forms h hlayers registry core j
    exact ⟨_, j', hwrap, fun env x henv =>
      ⟨(told_outcome henv layers x).symm, told_conducted core env layers x⟩⟩
  · intro j
    obtain ⟨j', hwrap⟩ := wrap_forms h hlayers c.name c.dispatch j
    let router : Router := ⟨c, nested (layers.map Layer.around) c.dispatch⟩
    refine ⟨router, j', Effect.bind_ok_iff.mpr ⟨_, j', hwrap, rfl⟩, fun now x => ?_⟩
    have hhandle : router.handle now x = (told c.dispatch (c.environment now) layers x).outcome :=
      (told_outcome rfl layers x).symm
    have hconducted := told_conducted c.dispatch (c.environment now) layers x
    refine ⟨hhandle, hconducted, fun before p e after hsplit hnone => ?_⟩
    obtain ⟨-, hresult⟩ := hconducted.uncovered before p e after hsplit hnone
    rw [← hhandle] at hresult
    refine ⟨hresult, ?_⟩
    rw [Router.invoke_of_error (Prod.ext hresult rfl)]

/-- An application with a tween that records around exception views. -/
def watched : Registry :=
  { Registry.empty "app" with
    tweens.explicit :=
      [("watch", Scripted.TweenScript.factory {} "watch"),
        (ExceptionView.tweenName, ExceptionView.tween)] }

def watchedLayers : List Layer :=
  [.passing fun _ => Scripted.TweenScript.passage {} "watch", .exceptionViews]

def noted : Registry :=
  { Registry.empty "app" with
    tweens.explicit :=
      [("outer", Scripted.TweenScript.factory {} "outer"),
        ("inner", Scripted.TweenScript.factory {} "inner")] }

/-- Errors of the core are offered to exception views in the one, and the other only records. -/
theorem order_governs_watched :
    watched.tweens.resolved = .ok watched.tweens.explicit ∧
    List.Forall₂ (Forms Layer.around) watched.tweens.explicit watchedLayers ∧
    (∃ router j', Router.make watched [] = (.ok router, j') ∧
      router.handle 0 default =
        (told watched.dispatch (watched.environment 0) watchedLayers default).outcome ∧
      Conducted watchedLayers
        (told watched.dispatch (watched.environment 0) watchedLayers default)) ∧
    noted.tweens.resolved = .ok noted.tweens.explicit ∧
    ∃ j', noted.tweens.wrap "app" noted.dispatch [] =
      (.ok (Mark.recorded [Scripted.TweenScript.mark "outer", Scripted.TweenScript.mark "inner"]
        noted.dispatch), j') := by
  have hlayers : List.Forall₂ (Forms Layer.around) watched.tweens.explicit watchedLayers :=
    .cons (Scripted.TweenScript.factory_forms rfl rfl "watch")
      (.cons (ExceptionView.tween_forms _) .nil)
  have hmarks : List.Forall₂ (Forms Mark.around) noted.tweens.explicit
      [Scripted.TweenScript.mark "outer", Scripted.TweenScript.mark "inner"] :=
    .cons (Scripted.TweenScript.factory_forms_mark "outer")
      (.cons (Scripted.TweenScript.factory_forms_mark "inner") .nil)
  obtain ⟨-, -, herrors⟩ := order_governs (c := watched) rfl
  obtain ⟨-, hrouter⟩ := herrors watchedLayers hlayers
  obtain ⟨router, j', hmake, hhandle⟩ := hrouter []
  obtain ⟨-, hrecorded, -⟩ := order_governs (c := noted) rfl
  exact ⟨rfl, hlayers, ⟨router, j', hmake, (hhandle 0 default).1, (hhandle 0 default).2.1⟩, rfl,
    hrecorded _ hmarks "app" noted.dispatch []⟩

end Tweens

end WebDispatch
