import WebDispatch.Proofs.Configuration.Course

/-!
# The scopes of includes

While a configuration is carried out, the tasks that are left tell which includes are being carried
out: those that are still to be ended. The include path has their names, the outermost first, and
so has every action that is recorded. An include is begun at most once under a name. When it has
come to its end, successfully or not, the scope is what it was before, and the whole comes to an
end however the includes are nested.

* `Course.running`, `Course.begins`, `Course.recorded` — what a moment of a course tells;
* `Nested` — scopes inside one another; `nested_of_step` — every step keeps them so;
* `Account` — how a configuration has been carried out; `exists_account` — that it is so.
-/

namespace WebDispatch

open Configurator (tasksOf)

def Task.ends : Task → Option String
  | leave name _ => some name
  | perform _ | recover => none

namespace Course

variable {p q e : Course} {log inner : List Course} {base s : Scope} {rest : List Task}

/-! ## Moments of a course -/

/-- The includes that are being carried out, the outermost first: those still to be ended. -/
def running (p : Course) : List String := (p.tasks.filterMap Task.ends).reverse

def begins : Course → List String
  | ⟨.perform d :: _, .ok (), c⟩ => (tasksOf (Configurator.start d c).1).filterMap Task.ends
  | _ => []

def Commits (p : Course) : Prop :=
  ∃ d rest c, p = ⟨.perform d :: rest, .ok (), c⟩ ∧ d.IsCommit

def recorded (p : Course) : List Action :=
  match p.next with
  | some q => q.configurator.actions.drop p.configurator.actions.length
  | none => []

/-! ## Scopes -/

/-- A scope is that of the includes still to be ended, one inside the other, in a scope around them
all. -/
inductive Nested (base : Scope) : List Task → Scope → Prop where
  | nil : Nested base [] base
  | perform {d : Directive} {rest : List Task} {s : Scope} (h : Nested base rest s) :
    Nested base (.perform d :: rest) s
  | recover {rest : List Task} {s : Scope} (h : Nested base rest s) :
    Nested base (.recover :: rest) s
  | leave {name : String} {p : Option String} {rest : List Task} {around : Scope}
    (h : Nested base rest around) :
    Nested base (.leave name around :: rest) (around.inside name p)

theorem Nested.performs (ds : List Directive) (h : Nested base rest s) :
    Nested base (ds.map .perform ++ rest) s := by
  induction ds with
  | nil => exact h
  | cons d ds ih => exact .perform ih

/-- The include path has the includes that are still to be ended. -/
theorem Nested.includePath {tasks : List Task} (h : Nested base tasks s) :
    s.includePath = base.includePath ++ (tasks.filterMap Task.ends).reverse := by
  induction h with
  | nil => exact (List.append_nil _).symm
  | perform _ ih => exact ih
  | recover _ ih => exact ih
  | @leave name p rest around _ ih =>
    change around.includePath ++ [name] = _
    rw [ih, List.append_assoc]
    exact congrArg _ List.reverse_cons.symm

theorem Nested.of_leave {name : String} {around : Scope}
    (h : Nested base (.leave name around :: rest) s) : Nested base rest around := by
  cases h with
  | leave h => exact h

theorem Nested.eq_of_nil (h : Nested base [] s) : s = base := by
  cases h
  rfl

/-- Every step keeps scopes inside one another. -/
theorem nested_of_step (h : p.Step q) (hp : Nested base p.tasks p.configurator.toScope) :
    Nested base q.tasks q.configurator.toScope := by
  cases h with
  | @begun d rest c c' r hrun h =>
    cases hp with
    | perform hrest =>
      cases h with
      | added hadds hr =>
        change Nested base (tasksOf r ++ rest) c'.toScope
        rw [hr, hadds.scope]
        exact hrest
      | committed hd hsame hactions hr =>
        change Nested base (tasksOf r ++ rest) c'.toScope
        rw [hr, hsame.scope]
        exact hrest
      | named hd => exact hrest
      | @attempted body _ hd hadds =>
        change Nested base ((body.map .perform ++ [.recover]) ++ rest) c'.toScope
        rw [List.append_assoc, hadds.scope]
        exact .performs body (.recover hrest)
      | @entered name body p t hnew hbody =>
        change Nested base ((body.directives.map .perform ++ [.leave name c.toScope]) ++ rest) _
        -- the scope that the include will be left for is the one that it is begun in
        rw [List.append_assoc]
        exact .performs body.directives (.leave hrest)
  | skipped =>
    cases hp with
    | perform hrest => exact hrest
  | left => exact hp.of_leave
  | recovered =>
    cases hp with
    | recover hrest => exact hrest

theorem nested_of_runs (h : Runs p log e) (hp : Nested base p.tasks p.configurator.toScope) :
    (∀ q ∈ log, Nested base q.tasks q.configurator.toScope) ∧
      Nested base e.tasks e.configurator.toScope := by
  induction h with
  | nil p => exact ⟨fun _ hm => absurd hm List.not_mem_nil, hp⟩
  | @cons p q e log hnext _ ih =>
    obtain ⟨hlog, he⟩ := ih (nested_of_step (step_of_next hnext) hp)
    refine ⟨fun m hm => ?_, he⟩
    rcases List.mem_cons.1 hm with rfl | hm
    · exact hp
    · exact hlog m hm

/-! ## The ledger -/

/-- A step adds actions of the present scope to the ledger, or has it carried out. -/
theorem actions_of_step (h : p.Step q) :
    (∃ added, q.configurator.actions = p.configurator.actions ++ added ∧
      ∀ a ∈ added, a.includePath = p.configurator.includePath) ∨
      p.Commits ∧ q.configurator.actions = [] := by
  have hsame {c c' : Configurator} (h : c'.actions = c.actions) :
      ∃ added, c'.actions = c.actions ++ added ∧ ∀ a ∈ added, a.includePath = c.includePath :=
    ⟨[], by rw [h, List.append_nil], fun _ ha => absurd ha List.not_mem_nil⟩
  cases h with
  | @begun d rest c c' r hrun h =>
    cases h with
    | added hadds hr => exact Or.inl hadds.actions
    | committed hd hground hactions hr => exact Or.inr ⟨⟨d, rest, c, rfl, hd⟩, hactions⟩
    | named hd => exact Or.inl (hsame rfl)
    | attempted hd hadds => exact Or.inl hadds.actions
    | entered hnew hbody => exact Or.inl (hsame rfl)
  | skipped => exact Or.inl (hsame rfl)
  | left => exact Or.inl (hsame rfl)
  | recovered => exact Or.inl (hsame rfl)

/-- What a step records is what is new in the ledger, and carries the include path. -/
theorem recorded_of_next (h : p.next = some q) :
    (q.configurator.actions = p.configurator.actions ++ p.recorded ∨
      p.Commits ∧ q.configurator.actions = []) ∧
      ∀ a ∈ p.recorded, a.includePath = p.configurator.includePath := by
  have hrecorded : p.recorded = q.configurator.actions.drop p.configurator.actions.length := by
    rw [recorded, h]
  rw [hrecorded]
  rcases actions_of_step (step_of_next h) with ⟨added, hactions, hpath⟩ | ⟨hcommits, hactions⟩
  · rw [hactions, List.drop_left]
    exact ⟨Or.inl rfl, hpath⟩
  · rw [hactions, List.drop_nil]
    exact ⟨Or.inr ⟨hcommits, rfl⟩, fun _ ha => absurd ha List.not_mem_nil⟩

/-- What is in the ledger in the end was there at the beginning, or has been recorded. -/
theorem mem_actions_of_runs (h : Runs p log e) :
    ∀ a ∈ e.configurator.actions, a ∈ p.configurator.actions ∨ ∃ m ∈ log, a ∈ m.recorded := by
  induction h with
  | nil p => exact fun a ha => Or.inl ha
  | @cons p q e log hnext _ ih =>
    intro a ha
    rcases ih a ha with ha | ⟨m, hm, ha⟩
    · rcases (recorded_of_next hnext).1 with hactions | ⟨-, hactions⟩
      · rw [hactions] at ha
        rcases List.mem_append.1 ha with ha | ha
        · exact Or.inl ha
        · exact Or.inr ⟨p, List.mem_cons_self, ha⟩
      · rw [hactions] at ha
        cases ha
    · exact Or.inr ⟨m, List.mem_cons_of_mem p hm, ha⟩

/-! ## The includes that are begun -/

theorem filterMap_ends_performs (ds : List Directive) (last : Task) :
    (ds.map Task.perform ++ [last]).filterMap Task.ends = [last].filterMap Task.ends := by
  have hnone : (ds.map Task.perform).filterMap Task.ends = [] := by
    refine List.filterMap_eq_nil_iff.2 fun t ht => ?_
    obtain ⟨d, -, rfl⟩ := List.mem_map.1 ht
    rfl
  rw [List.filterMap_append, hnone, List.nil_append]

/-- A step begins at most one include, which has not been begun before, and puts it down. -/
theorem begins_of_step (h : p.Step q) :
    q.configurator.included = p.configurator.included ++ p.begins ∧
      (p.begins = [] ∨ ∃ name, name ∉ p.configurator.included ∧ p.begins = [name]) := by
  have hnone (h : p.begins = []) (hq : q.configurator.included = p.configurator.included) :
      q.configurator.included = p.configurator.included ++ p.begins ∧
        (p.begins = [] ∨ ∃ name, name ∉ p.configurator.included ∧ p.begins = [name]) :=
    ⟨by rw [hq, h, List.append_nil], Or.inl h⟩
  cases h with
  | @begun d rest c c' r hrun h =>
    have hbegins : begins ⟨.perform d :: rest, .ok (), c⟩ = (tasksOf r).filterMap Task.ends := by
      rw [begins, hrun]
    cases h with
    | added hadds hr => exact hnone (by rw [hbegins, hr]; rfl) hadds.included
    | committed hd hground hactions hr =>
      exact hnone (by rw [hbegins, hr]; rfl) hground.included
    | named hd => exact hnone hbegins rfl
    | attempted hd hadds =>
      exact hnone (hbegins.trans (filterMap_ends_performs _ _)) hadds.included
    | @entered name body p t hnew hbody =>
      have hname : begins ⟨.perform d :: rest, .ok (), c⟩ = [name] :=
        hbegins.trans (filterMap_ends_performs _ _)
      rw [hname]
      exact ⟨rfl, Or.inr ⟨name, hnew, rfl⟩⟩
  | skipped => exact hnone rfl rfl
  | left => exact hnone rfl rfl
  | recovered => exact hnone rfl rfl

/-- A run puts down the includes that it begins, each of them once. -/
theorem begins_of_runs (h : Runs p log e) :
    e.configurator.included = p.configurator.included ++ log.flatMap begins ∧
      (log.flatMap begins).Nodup ∧ ∀ name ∈ log.flatMap begins, name ∉ p.configurator.included := by
  induction h with
  | nil p =>
    exact ⟨(List.append_nil _).symm, List.nodup_nil, fun _ hn => absurd hn List.not_mem_nil⟩
  | @cons p q e log hnext _ ih =>
    obtain ⟨hincluded, hnodup, hnew⟩ := ih
    obtain ⟨hq, hbegins⟩ := begins_of_step (step_of_next hnext)
    rw [hq] at hincluded hnew
    rw [List.flatMap_cons]
    refine ⟨by rw [hincluded, List.append_assoc], ?_⟩
    -- a name is put down at once, so that nothing later can be begun under it
    rcases hbegins with hnone | ⟨name, hname, hone⟩
    · rw [hnone] at hnew ⊢
      exact ⟨hnodup, fun m hm hmem => hnew m hm (List.mem_append_left _ hmem)⟩
    · rw [hone] at hnew ⊢
      constructor
      · exact List.nodup_cons.2 ⟨fun hmem => hnew name hmem (by simp), hnodup⟩
      · intro m hm
        rcases List.mem_cons.1 hm with rfl | hm
        · exact hname
        · exact fun hmem => hnew m hm (List.mem_append_left _ hmem)

/-! ## The end of what is begun -/

/-- A run goes on from where a part of it ends. -/
theorem Runs.split (h : Runs p inner q) (hall : Runs p log e) (he : e.tasks = []) :
    ∃ later, log = inner ++ later ∧ Runs q later e := by
  induction h generalizing log with
  | nil p => exact ⟨log, rfl, hall⟩
  | @cons p m q inner hnext _ ih =>
    cases hall with
    | nil =>
      rw [next_eq_none_iff.2 he] at hnext
      cases hnext
    | @cons _ m' _ log hnext' hall =>
      obtain rfl : m = m' := Option.some.inj (hnext.symm.trans hnext')
      obtain ⟨later, rfl, hlater⟩ := ih hall
      exact ⟨later, rfl, hlater⟩

theorem Runs.exists_next (h : Runs p log e) : ∀ m ∈ log, ∃ n, m.next = some n := by
  induction h with
  | nil p => exact fun _ hm => absurd hm List.not_mem_nil
  | @cons p q e log hnext _ ih =>
    intro m hm
    rcases List.mem_cons.1 hm with rfl | hm
    · exact ⟨q, hnext⟩
    · exact ih m hm

theorem Runs.followedBy (h : Runs p log q) (rest : List Task) :
    Runs (p.followedBy rest) (log.map fun m => m.followedBy rest) (q.followedBy rest) := by
  induction h with
  | nil p => exact .nil _
  | cons hnext _ ih => exact .cons (next_followedBy hnext rest) ih

theorem Runs.drop {before after : List Course} (h : Runs p (before ++ q :: after) e) :
    Runs q (q :: after) e := by
  induction before generalizing p with
  | nil =>
    cases h with
    | cons hnext h => exact .cons hnext h
  | cons m before ih =>
    cases h with
    | cons hnext h => exact ih h

/-- What a directive leads to is done before the rest is, and then the scope is what it was. -/
theorem exists_return {d : Directive} {r : Except Error Unit} {c : Configurator}
    (h : Runs ⟨.perform d :: rest, r, c⟩ log e) (he : e.tasks = []) :
    ∃ inner later q, log = inner ++ later ∧ Runs ⟨.perform d :: rest, r, c⟩ inner q ∧
      q.tasks = rest ∧ q.configurator.toScope = c.toScope ∧ Runs q later e := by
  -- the directive by itself has a run, which is also the beginning of one with a rest behind
  obtain ⟨inner, hinner⟩ := finish_runs ⟨[.perform d], r, c⟩
  have hstart : Nested c.toScope [.perform d] c.toScope := .perform .nil
  have hscope := (nested_of_runs hinner hstart).2
  have hbehind := hinner.followedBy rest
  obtain ⟨later, hlog, hlater⟩ := hbehind.split h he
  exact ⟨_, later, _, hlog, hbehind, rfl, hscope.eq_of_nil, hlater⟩

/-! ## The account of a configuration -/

/-- How directives have been carried out: the courses that steps led from, and the last one. -/
structure Account (ds : List Directive) (c : Configurator) (log : List Course) (e : Course) :
    Prop where
  /-- It is the course of the directives, step by step until nothing is left to do. -/
  runs : Runs ⟨ds.map .perform, .ok (), c⟩ log e
  done : e.tasks = []
  outcome : ds.forM Configurator.perform c = (e.result, e.configurator)
  /-- At every moment the include path has the includes that are being carried out. -/
  path : ∀ p ∈ log, p.configurator.includePath = c.includePath ++ p.running
  /-- What is recorded then carries them. -/
  recorded : ∀ p ∈ log, ∀ a ∈ p.recorded, a.includePath = c.includePath ++ p.running
  /-- There is nothing in the ledger that has not been recorded. -/
  ledger : ∀ p ∈ log, ∀ q, p.next = some q →
    q.configurator.actions = p.configurator.actions ++ p.recorded ∨
      p.Commits ∧ q.configurator.actions = []
  origin : ∀ a ∈ e.configurator.actions, a ∈ c.actions ∨ ∃ p ∈ log, a ∈ p.recorded
  /-- An include is begun once under a name, and not at all if it has been begun before. -/
  once : (log.flatMap begins).Nodup ∧ ∀ name ∈ log.flatMap begins, name ∉ c.included
  included : e.configurator.included = c.included ++ log.flatMap begins
  /-- What a directive leads to comes to its end, and then the scope is what it was. -/
  returns : ∀ before p after, log = before ++ p :: after → ∀ d rest, p.tasks = .perform d :: rest →
    ∃ inner later q, p :: after = inner ++ later ∧ Runs p inner q ∧ q.tasks = rest ∧
      q.configurator.toScope = p.configurator.toScope ∧ Runs q later e

/-- **Includes are well scoped.** Directives are carried out in the way that an account tells,
whatever they are and wherever they begin. -/
theorem exists_account (ds : List Directive) (c : Configurator) :
    ∃ log e, Account ds c log e := by
  obtain ⟨log, hruns⟩ := finish_runs ⟨ds.map .perform, .ok (), c⟩
  rw [finish_perform] at hruns
  have hnested : ∀ p ∈ log, Nested c.toScope p.tasks p.configurator.toScope :=
    (nested_of_runs hruns (List.append_nil (ds.map Task.perform) ▸ .performs ds .nil)).1
  have hpath : ∀ p ∈ log, p.configurator.includePath = c.includePath ++ p.running :=
    fun p hp => (hnested p hp).includePath
  obtain ⟨hincluded, honce⟩ := begins_of_runs hruns
  refine ⟨log, ⟨[], (ds.forM Configurator.perform c).1, (ds.forM Configurator.perform c).2⟩, ?_⟩
  constructor
  case runs => exact hruns
  case done => rfl
  case outcome => rfl
  case path => exact hpath
  case recorded =>
    intro p hp a ha
    obtain ⟨q, hq⟩ := hruns.exists_next p hp
    exact ((recorded_of_next hq).2 a ha).trans (hpath p hp)
  case ledger => exact fun p _ q hq => (recorded_of_next hq).1
  case origin => exact mem_actions_of_runs hruns
  case once => exact honce
  case included => exact hincluded
  case returns =>
    rintro before ⟨tasks, r, c'⟩ after rfl d rest rfl
    exact exists_return hruns.drop rfl

end Course

end WebDispatch
