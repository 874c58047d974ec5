import WebDispatch.Proofs.View.Rendering

/-!
# Views that are called without their permission check

A view may be called without asking whether the sender may call it, by its name from within another
one. That is not the call of the same view which anyone may call: a derived view that is called so
asks no predicates. A slot of several views asks them, to find the view that it calls. So a view
that refuses a request runs for it when it stands alone in its slot, and does not when it shares it.

* `ViewOptions.unrestricted` — the same view, open to anyone;
* `derive_regated` — what is behind the gates of a view does not depend on them;
* `callPermissive_apply`, `renderNamed_apply` — such calls of slots, and by name;
* `Bypass`, `bypass_of_derive` — both calls of a derived view next to each other.
-/

namespace WebDispatch

/-- What is declared with the same view if anyone may call it. -/
def ViewOptions.unrestricted (o : ViewOptions) : ViewOptions :=
  { o with permission := some noPermissionRequired }

namespace MultiView

variable {m : MultiView} {context : Resource} {env : Environment} {x : Exchange}

theorem callPermissive_apply :
    m.callPermissive context env x =
      match m.match? context x.toRequest with
      | none => (.error m.mismatch, x)
      | some v => v.callPermissive context env x := by
  cases h : m.match? context x.toRequest <;> simp [callPermissive, h]

theorem not_refuses_of_match? {v : View} (h : m.match? context x.toRequest = some v) :
    ¬ v.refuses context x.toRequest := by
  rw [MultiView.match?] at h
  simpa using List.find?_some h

end MultiView

namespace DerivedView

variable {c : Components} {callable : Callable} {o : ViewOptions} {j j' : Journal}
  {d d' : DerivedView} {context : Resource} {env : Environment} {x : Exchange}

@[simp] theorem check?_unrestricted : check? c o.unrestricted = none := by
  have hpermission : permission c o.unrestricted = some noPermissionRequired := rfl
  unfold check?
  rw [hpermission]
  rcases c.authentication with _ | who
  · rfl
  · rcases c.authorization with _ | may
    · rfl
    · exact if_pos rfl

theorem not_denied_unrestricted {r : Request} : ¬ Denied c o.unrestricted context r := by
  rintro ⟨who, may, p, -, -, ⟨hp, hasked⟩, -⟩
  rcases hp with hp | ⟨hp, -⟩
  · exact hasked (Option.some.inj hp).symm
  · cases hp

/-- Behind its gates a view is the same, whatever permission and predicates it has. -/
theorem derive_regated (h : derive c callable o j = (.ok d, j')) (permission : Option String)
    (predicates : List Predicate) :
    ∃ d', derive c callable { o with permission := permission, predicates := predicates } j =
        (.ok d', j') ∧ d'.permissive = d.permissive := by
  obtain ⟨mapped, renderer, hmapped, hrenderer, rfl⟩ := derive_ok_iff.mp h
  exact ⟨_, derive_ok_iff.mpr ⟨mapped, renderer, hmapped, hrenderer, rfl⟩, rfl⟩

/-! ## Both calls next to each other -/

/-- A view that is called without its permission check, next to the same view that anyone may
call. -/
structure Bypass (c : Components) (callable : Callable) (o : ViewOptions) (j j' : Journal)
    (d free : DerivedView) : Prop where
  /-- Where the predicates hold, both run the same view, one of them after it has put the decision
  on access into words. -/
  accepted : ∀ context env x, ¬ Refused o context x.toRequest →
    free.call context env x = d.permissive context env (noted c o.unrestricted context x)
  /-- Where some predicate does not hold, the call of the one fails because of it. -/
  refused : ∀ context env x, Refused o context x.toRequest →
    ∃ text, free.call context env x = (.error (.predicateMismatch text), x)
  /-- The call of the other would be the same with any predicates. -/
  skipped : ∀ permission predicates, ∃ d',
    derive c callable { o with permission := permission, predicates := predicates } j =
      (.ok d', j') ∧ d'.permissive = d.permissive
  /-- So they agree exactly where the predicates hold, if the view does not happen to fail like
  they do. -/
  agree_iff : c.settings.debugAuthorization = false → ∀ context env x,
    (∀ text, d.permissive context env x ≠ (.error (.predicateMismatch text), x)) →
      (d.permissive context env x = free.call context env x ↔ ¬ Refused o context x.toRequest)
  /-- Alone in its slot, the view runs whatever its predicates say. -/
  alone : ∀ (r : Registry) context name env x,
    r.lookupView? .viewClassifier x.type.order context.provided name = some d.toView →
      r.renderNamed context name false env x =
        ((d.permissive context env x).1.map some, (d.permissive context env x).2)
  /-- In a slot with others, it runs only where they hold. -/
  among : ∀ (m : MultiView) context env x, m.match? context x.toRequest = some d.toView →
    ¬ Refused o context x.toRequest ∧ m.callPermissive context env x = d.permissive context env x

section Unrestricted

variable {free : DerivedView}

theorem call_unrestricted_of_accepted (hfree : derive c callable o.unrestricted j = (.ok free, j'))
    (hholds : ¬ Refused o context x.toRequest) :
    free.call context env x = free.permissive context env (noted c o.unrestricted context x) :=
  call_of_passed hfree hholds not_denied_unrestricted

theorem call_unrestricted_of_refused (hfree : derive c callable o.unrestricted j = (.ok free, j'))
    (hrefused : Refused o context x.toRequest) :
    ∃ text, free.call context env x = (.error (.predicateMismatch text), x) := by
  obtain ⟨p, -, -, hcall⟩ := call_of_refused hfree hrefused
  exact ⟨_, hcall⟩

theorem permissive_eq_call_iff (hfree : derive c callable o.unrestricted j = (.ok free, j'))
    (hsame : free.permissive = d.permissive) (hquiet : c.settings.debugAuthorization = false)
    (hruns : ∀ text, d.permissive context env x ≠ (.error (.predicateMismatch text), x)) :
    d.permissive context env x = free.call context env x ↔ ¬ Refused o context x.toRequest := by
  constructor
  · intro heq hrefused
    have hfails : ∃ text, free.call context env x = (.error (.predicateMismatch text), x) :=
      call_unrestricted_of_refused hfree hrefused
    obtain ⟨text, hcall⟩ := hfails
    exact hruns text (heq.trans hcall)
  · intro hholds
    have hnoted : noted c o.unrestricted context x = x := by
      rw [noted, hquiet]
      rfl
    rw [call_unrestricted_of_accepted hfree hholds, hnoted, hsame]

end Unrestricted

theorem renderNamed_of_alone {r : Registry} {name : String}
    (h : r.lookupView? .viewClassifier x.type.order context.provided name = some d.toView) :
    r.renderNamed context name false env x =
      ((d.permissive context env x).1.map some, (d.permissive context env x).2) := by
  rw [Registry.renderNamed_apply, h]
  rfl

theorem callPermissive_of_among (h : derive c callable o j = (.ok d, j')) {m : MultiView}
    (hmatch : m.match? context x.toRequest = some d.toView) :
    ¬ Refused o context x.toRequest ∧
      m.callPermissive context env x = d.permissive context env x := by
  refine ⟨fun hrefused => ?_, ?_⟩
  · exact MultiView.not_refuses_of_match? hmatch ((refuses_iff h).mpr hrefused)
  · rw [MultiView.callPermissive_apply, hmatch]
    rfl

/-- **More than the permission check is skipped.** Called without its permission check, a view whose
predicates hold does what it does where anyone may call it, except that no decision on access is put
into words. Where a predicate refuses the request, a view that anyone may call fails because of it
and leaves the exchange as it was; called without its check, the view runs, as it would with any
predicates. In a slot with others it runs only where its predicates hold, and where those of no view
in the slot do, the call fails because of predicates. -/
theorem permissive_skips_predicates (h : derive c callable o j = (.ok d, j')) :
    (∃ free, derive c callable o.unrestricted j = (.ok free, j') ∧ free.isSecured = false ∧
      Bypass c callable o j j' d free) ∧
    ∀ (m : MultiView) context env x, m.match? context x.toRequest = none →
      m.callPermissive context env x = (.error (.predicateMismatch m.name), x) := by
  obtain ⟨free, hfree, hsame⟩ := derive_regated h (some noPermissionRequired) o.predicates
  refine ⟨⟨free, hfree, ?_, ?_⟩, ?_⟩
  · obtain ⟨-, -, -, -, -, -, hpermitted⟩ := derive_ok hfree
    rw [isSecured, hpermitted]
    exact congrArg Option.isSome (check?_unrestricted (c := c) (o := o))
  · exact
      { accepted := fun context env x hholds =>
          (call_unrestricted_of_accepted hfree hholds).trans (by rw [hsame])
        refused := fun context env x => call_unrestricted_of_refused hfree
        skipped := derive_regated h
        agree_iff := fun hquiet context env x => permissive_eq_call_iff hfree hsame hquiet
        alone := fun r context name env x => renderNamed_of_alone
        among := fun m context env x => callPermissive_of_among h }
  · intro m context env x hnone
    rw [MultiView.callPermissive_apply, hnone]
    rfl

def scriptsOnly : ViewOptions := { predicates := [.xhr] }

def greeting : Callable := .requestFunction (return .response (.ofText "hello"))

/-- A request of no script is refused by the view that anyone may call. -/
theorem permissive_skips_predicates_scriptsOnly :
    ∃ d free, derive { name := "plain" } greeting scriptsOnly [] = (.ok d, []) ∧
      derive { name := "plain" } greeting scriptsOnly.unrestricted [] = (.ok free, []) ∧
      d.permissive (.defaultRoot none) {} {} ≠ free.call (.defaultRoot none) {} {} := by
  have hderive : derive { name := "plain" } greeting scriptsOnly [] = (.ok _, []) := rfl
  obtain ⟨⟨free, hfree, -, hbypass⟩, -⟩ := permissive_skips_predicates hderive
  refine ⟨_, free, hderive, hfree, fun heq => ?_⟩
  have hruns := (hbypass.agree_iff rfl (.defaultRoot none) {} {} (fun text => nofun)).mp heq
  exact hruns ⟨.xhr, List.mem_singleton_self _, by decide⟩

theorem not_permissive_eq_call_unrestricted :
    ¬ ∀ c callable o j j' d free, derive c callable o j = (.ok d, j') →
      derive c callable o.unrestricted j = (.ok free, j') →
        ∀ context env x, d.permissive context env x = free.call context env x := by
  intro hall
  have heq := hall { name := "plain" } greeting scriptsOnly [] [] _ _ rfl rfl
  cases congrArg Prod.fst (heq (.defaultRoot none) {} {})

end DerivedView

end WebDispatch
