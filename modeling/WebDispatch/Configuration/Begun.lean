import WebDispatch.Configuration.Ground
import WebDispatch.Configuration.Task

/-!
# What a directive does at once

All that comes of a directive before anything that it leads to: it adds actions to the ledger, has
the ledger carried out, gives a name to a configuration, begins an attempt, or begins an include,
which is one that has not been begun before.

* `Configurator.Begun` — the five cases; `start_begun` — there is no other.
-/

namespace WebDispatch

open Effect

/-- A directive has the ledger carried out. -/
def Directive.IsCommit : Directive → Prop
  | .declareAt _ d | .declare _ d => d = .commit
  | _ => False

theorem DottedName.eq_of_absolute_none {name absolute : String}
    (h : DottedName.absolute name none = .ok absolute) : absolute = name := by
  rw [DottedName.absolute] at h
  split at h <;> cases h
  rfl

/-- A name that is found for an include stands for a configuration. -/
theorem Catalog.lookup?_of_resolve {catalog : Catalog} {name : String} {body : IncludeBody}
    (h : catalog.resolve .inclusion name none = .ok body) :
    catalog.lookup? name = some (.inclusion body) := by
  rw [resolve] at h
  cases habsolute : DottedName.absolute name none with
  | error e =>
    rw [habsolute] at h
    cases h
  | ok absolute =>
    obtain rfl := DottedName.eq_of_absolute_none habsolute
    rw [habsolute] at h
    dsimp only [bind, Except.bind] at h
    split at h
    · cases h
    · next d hd =>
      rw [hd]
      cases d <;> cases h
      rfl

namespace Configurator

variable {c c' : Configurator} {d : Directive} {r : Except Error (List Task)}

/-! ## Steps of directives -/

theorem enter_of_included {name : String} {body : IncludeBody} {p : Option String}
    (h : c.included.contains name) :
    enter name body p c = (.ok [], (report .debug "already included" c).2) := by
  change (if c.included.contains name then _ else _ : Configuring (List Task)) c = _
  rw [if_pos h]
  rfl

theorem define_of_error {name : String} {x : Definition} {e : Error}
    (h : DottedName.absolute name c.package = .error e) :
    define name x c.counted = (.error e, c.counted) := by
  change (Effect.ofExcept (DottedName.absolute name c.package) >>= _ : Configuring Unit) _ = _
  rw [h]
  rfl

theorem define_of_ok {name absolute : String} {x : Definition}
    (h : DottedName.absolute name c.package = .ok absolute) :
    define name x c.counted =
      (.ok (), { c.counted with catalog := c.catalog.define absolute x }) := by
  change (Effect.ofExcept (DottedName.absolute name c.package) >>= _ : Configuring Unit) _ = _
  rw [h]
  rfl

/-- An include that is begun is put down as such, and what follows is in its scope. -/
def opened (name : String) (body : IncludeBody) (p : Option String) (c : Configurator) :
    Configurator :=
  let reported := (report .debug "including" { c with included := c.included ++ [name] }).2
  (reportOpening body { reported with toScope := c.toScope.inside name p }).2

theorem opened_eq (name : String) (body : IncludeBody) (p : Option String) (c : Configurator) :
    ∃ t, opened name body p c =
      { c with
        toSetup := t
        toScope := c.toScope.inside name p
        included := c.included ++ [name] } := ⟨_, rfl⟩

theorem enter_of_new {name : String} (body : IncludeBody) (p : Option String)
    (h : ¬ c.included.contains name) :
    enter name body p c =
      (.ok (body.directives.map .perform ++ [.leave name c.toScope]), opened name body p c) := by
  change (if c.included.contains name then _ else _ : Configuring (List Task)) c = _
  rw [if_neg h]
  rfl

/-- Finding what to include changes nothing. -/
theorem findInclude_cases (name : String) (c : Configurator) :
    (∃ e, findInclude name c = (.error e, c)) ∨
      ∃ full body, findInclude name c = (.ok (full, body), c) ∧
        c.catalog.lookup? full = some (.inclusion body) := by
  cases habsolute : DottedName.absolute name c.package with
  | error e =>
    refine Or.inl ⟨e, ?_⟩
    change (Effect.ofExcept (DottedName.absolute name c.package) >>= _ : Configuring _) c = _
    rw [habsolute]
    rfl
  | ok absolute =>
    let full :=
      if !c.catalog.contains absolute && c.catalog.contains (includeOfPackage absolute) then
        includeOfPackage absolute
      else absolute
    have hfind : findInclude name c =
        (Effect.ofExcept (c.catalog.resolve .inclusion full none) >>= fun body =>
          pure (full, body) : Configuring (String × IncludeBody)) c := by
      change (Effect.ofExcept (DottedName.absolute name c.package) >>= _ : Configuring _) c = _
      rw [habsolute]
      rfl
    rw [hfind]
    cases hbody : c.catalog.resolve .inclusion full none with
    | error e => exact Or.inl ⟨e, rfl⟩
    | ok body => exact Or.inr ⟨full, body, rfl, Catalog.lookup?_of_resolve hbody⟩

/-! ## Directives -/

/-- What a directive has led to; nothing where it has failed. -/
def tasksOf : Except Error (List Task) → List Task
  | .ok tasks => tasks
  | .error _ => []

/-- What a directive that is carried out does at once, and what it leads to. -/
inductive Begun (d : Directive) (c : Configurator) :
    Except Error (List Task) → Configurator → Prop where
  /-- It adds actions of the present scope, if anything, and leads to nothing. -/
  | added {r : Except Error (List Task)} {c' : Configurator} (h : Adds c c')
    (hr : tasksOf r = []) : Begun d c r c'
  /-- It has the ledger carried out, which leaves nothing in there. -/
  | committed {r : Except Error (List Task)} {c' : Configurator} (hd : d.IsCommit)
    (h : SameGround c c') (hactions : c'.actions = []) (hr : tasksOf r = []) :
    Begun d c r c'
  /-- It gives a name to a configuration. -/
  | named {name absolute : String} {body : IncludeBody} (hd : d = .define name (.inclusion body)) :
    Begun d c (.ok [])
      { c.counted with catalog := c.catalog.define absolute (.inclusion body) }
  /-- It begins an attempt. -/
  | attempted {body : List Directive} {c' : Configurator} (hd : d = .attempt body)
    (h : Adds c c') : Begun d c (.ok (body.map .perform ++ [.recover])) c'
  /-- It begins an include that has not been begun before, of a configuration that is given as it
  is or found by that name. -/
  | entered {name : String} {body : IncludeBody} {p : Option String} {t : Setup}
    (hnew : name ∉ c.included)
    (hbody : d = .inclusion name body p ∨
      (∃ n, d = .inclusionNamed n p) ∧ c.catalog.lookup? name = some (.inclusion body)) :
    Begun d c (.ok (body.directives.map .perform ++ [.leave name c.toScope]))
      { c.counted with
        toSetup := t
        toScope := c.toScope.inside name p
        included := c.included ++ [name] }

theorem alone_eq (act : Configuring Unit) (c : Configurator) :
    alone act c = ((act c).1.map fun _ => [], (act c).2) := by
  rcases h : act c with ⟨_ | _, t⟩ <;> simp [alone, h, Except.map]

@[simp] theorem tasksOf_alone (act : Configuring Unit) (c : Configurator) :
    tasksOf (alone act c).1 = [] := by
  rw [alone_eq]
  cases (act c).1 <;> rfl

theorem counted_adds (c : Configurator) : Adds c c.counted :=
  SameGround.adds ⟨rfl, rfl, .refl _⟩ rfl

theorem count_adds : count.Keeps Adds := counted_adds

theorem begun_of_adds {act : Configuring Unit} (h : act.Keeps Adds) :
    Begun d c (alone act c).1 (alone act c).2 :=
  .added (h.bind (fun _ => .pure []) c) (tasksOf_alone act c)

theorem begun_of_commit {act : Configuring Unit} {t : Setup} {performed : Nat}
    (hd : d.IsCommit)
    (h : (act c).2 = { c with actions := [], toSetup := t, performed := performed }) :
    Begun d c (alone act c).1 (alone act c).2 := by
  have hstate : (alone act c).2 = _ := (congrArg Prod.snd (alone_eq act c)).trans h
  rw [hstate]
  exact .committed hd ⟨rfl, rfl, .refl _⟩ rfl (tasksOf_alone act c)

theorem enter_begun {name : String} {body : IncludeBody} {p : Option String}
    (hbody : d = .inclusion name body p ∨
      (∃ n, d = .inclusionNamed n p) ∧ c.catalog.lookup? name = some (.inclusion body)) :
    Begun d c (enter name body p c.counted).1 (enter name body p c.counted).2 := by
  by_cases hnew : c.counted.included.contains name
  · rw [enter_of_included hnew]
    exact .added (SameGround.adds ⟨rfl, rfl, .refl _⟩ rfl) rfl
  · obtain ⟨t, ht⟩ := opened_eq name body p c.counted
    rw [enter_of_new body p hnew, ht]
    refine .entered (fun hmem => hnew ?_) hbody
    exact List.contains_iff_mem.2 hmem

theorem start_define (name : String) (x : Definition) (c : Configurator) :
    start (.define name x) c = alone (define name x) c.counted := rfl

theorem start_inclusionNamed (name : String) (p : Option String) (c : Configurator) :
    start (.inclusionNamed name p) c =
      (findInclude name >>= fun found => enter found.1 found.2 p) c.counted := rfl

/-- A directive does one of five things at once. -/
theorem start_begun (d : Directive) (c : Configurator) : Begun d c (start d c).1 (start d c).2 := by
  cases d with
  | declareAt site x =>
    by_cases hx : x = .commit
    · subst hx
      obtain ⟨t, ht⟩ := commit_eq c
      exact begun_of_commit rfl ht
    · exact begun_of_adds (declare_adds site x hx)
  | declare site x =>
    by_cases hx : x = .commit
    · subst hx
      obtain ⟨t, ht⟩ := commit_eq c.counted
      exact begun_of_commit rfl ht
    · exact begun_of_adds (count_adds.bind fun n => declare_adds (site n) x hx)
  | define name x =>
    -- only a configuration that is given a name may come to be included by it
    cases x with
    | inclusion body =>
      rw [start_define, alone_eq]
      cases habsolute : DottedName.absolute name c.package with
      | error e =>
        rw [define_of_error habsolute]
        exact .added (counted_adds c) rfl
      | ok absolute =>
        rw [define_of_ok habsolute]
        exact .named rfl
    | view | tween | rootFactory | renderer | subscriber =>
      exact begun_of_adds (count_adds.bind fun _ => define_adds name rfl)
  | inclusion name body p => exact enter_begun (Or.inl rfl)
  | inclusionNamed name p =>
    rw [start_inclusionNamed, bind_apply]
    rcases findInclude_cases name c.counted with ⟨e, he⟩ | ⟨full, body, hfound, hbody⟩
    · rw [he]
      exact .added (counted_adds c) rfl
    · rw [hfound]
      exact enter_begun (Or.inr ⟨⟨name, rfl⟩, hbody⟩)
  | attempt body => exact .attempted rfl (counted_adds c)

end Configurator

end WebDispatch
