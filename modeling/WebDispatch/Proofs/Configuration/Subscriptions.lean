import WebDispatch.Proofs.Configuration.Course
import WebDispatch.Proofs.Configuration.Subscribers

/-!
# The keys of subscribers

A subscriber is described under the kind of its event and the number of actions that are in the
ledger when it is declared. The number starts again with each commit, and where actions are carried
out at once it is always the same. So the descriptions of two subscribers of one kind may have one
key, and then the later one replaces the earlier, while both subscribers stay.

* `Course.subscribes`, `Course.commits` — what a step has to do with subscribers;
* `Course.entered` — the subscribers that a run enters in the registry, by kind and number;
* `Course.balances_of_next`, `Course.balances_of_runs` — what a step, and a whole run, make of a
  registry and a ledger with subscribers in step;
* `Course.subscribers_described_iff` — when each subscriber has its description.
-/

namespace WebDispatch

open Effect

/-! ## Steps -/

def Directive.declaration? : Directive → Option Declaration
  | .declareAt _ d | .declare _ d => some d
  | _ => none

namespace Course

open Configurator

def declares : Course → Option Declaration
  | ⟨.perform d :: _, .ok (), _⟩ => d.declaration?
  | _ => none

def commits (p : Course) : Bool :=
  match p.declares with
  | some .commit => true
  | _ => false

/-- The subscriber that the next step declares, by the kind of its event and the number of actions
in the ledger. -/
def subscribes (p : Course) : List (EventKind × Nat) :=
  match p.declares with
  | some (.subscriber kind r) =>
    match p.configurator.catalog.resolveReference .subscriber p.configurator.package r with
    | .ok _ => [(kind, p.configurator.actions.length)]
    | .error _ => []
  | _ => []

/-- The subscribers that the steps of a log declare and enter in the registry: at once where that is
the mode, and otherwise by a commit later in the log. -/
def entered : List Course → List (EventKind × Nat)
  | [] => []
  | p :: log =>
    (if p.configurator.autocommit || log.any commits then p.subscribes else []) ++ entered log

variable {p q e : Course} {log : List Course} {d : Declaration} {waiting keys : List String}

theorem next_of_alone {directive : Directive} (act : Configuring Unit) {c c' : Configurator}
    (rest : List Task) (h : start directive c = alone act c') :
    next ⟨.perform directive :: rest, .ok (), c⟩ = some ⟨rest, (act c').1, (act c').2⟩ := by
  rw [next_perform, h, alone_eq]
  rcases act c' with ⟨e | ⟨⟩, t⟩ <;> rfl

@[simp] theorem start_declare (site : Nat → Site) (d : Declaration) (c : Configurator) :
    start (.declare site d) c = alone (declare (site c.performed) d) c.counted := by
  simp [start, alone_eq]

/-- A step that makes a declaration makes it as the configuration stands, but for the number of
directives. -/
theorem next_of_declares (h : p.next = some q) (hd : p.declares = some d) :
    ∃ site c, (c = p.configurator ∨ c = p.configurator.counted) ∧
      q.configurator = (declare site d c).2 ∧ q.result = (declare site d c).1 := by
  rcases p with ⟨_ | ⟨_ | _ | _, rest⟩, _ | _, c⟩
  case cons.perform.ok directive _ =>
    cases directive with
    | declareAt site _ =>
      cases hd
      rw [next_of_alone (declare site d) rest rfl] at h
      obtain rfl := Option.some.inj h
      exact ⟨site, c, Or.inl rfl, rfl, rfl⟩
    | declare site _ =>
      cases hd
      rw [next_of_alone _ rest (start_declare site d c)] at h
      obtain rfl := Option.some.inj h
      exact ⟨site c.performed, c.counted, Or.inr rfl, rfl, rfl⟩
    | define | inclusion | inclusionNamed | attempt => cases hd
  all_goals cases hd

/-- Anything but a declaration spares the subscribers at once. -/
theorem start_spares {directive : Directive} (h : directive.declaration? = none) :
    (start directive).Keeps Spares := by
  have hcount : count.Keeps Spares := fun c => .of_sameSubscribers (Std.Refl.refl _) rfl rfl
  have henter (name : String) (body : IncludeBody) (routePrefix : Option String) :
      (enter name body routePrefix).Keeps Spares := by
    have hreport (message : String) : (report .debug message).Keeps Spares :=
      fun c => .of_sameSubscribers ⟨rfl, rfl⟩ rfl rfl
    refine .bind .get fun c => ?_
    split
    · exact (hreport _).bind fun _ => .pure _
    · refine .bind (.modify fun c => .of_sameSubscribers ⟨rfl, rfl⟩ rfl rfl) fun _ => ?_
      refine .bind (hreport _) fun _ => ?_
      refine .bind (.modify fun c => .of_sameSubscribers ⟨rfl, rfl⟩ rfl rfl) fun _ => ?_
      refine .bind (.modify fun c => .of_sameSubscribers ⟨rfl, rfl⟩ rfl rfl) fun _ => .pure _
  cases directive with
  | declareAt | declare => cases h
  | define name x => exact (hcount.bind fun _ => define_spares name x).bind fun _ => .pure _
  | inclusion name body routePrefix => exact hcount.bind fun _ => henter name body routePrefix
  | inclusionNamed name routePrefix =>
    have hfind : (findInclude name).Keeps Spares :=
      .bind .get fun _ => .bind (.ofExcept _) fun _ => .bind (.ofExcept _) fun _ => .pure _
    exact hcount.bind fun _ => hfind.bind fun found => henter found.1 found.2 routePrefix
  | attempt body => exact hcount.bind fun _ => .pure _

theorem spares_of_next (h : p.next = some q) (hd : p.declares = none) :
    Spares p.configurator q.configurator := by
  rcases p with ⟨_ | ⟨_ | _ | _, rest⟩, _ | _, c⟩
  case cons.perform.ok directive _ =>
    rw [next_perform] at h
    obtain rfl := Option.some.inj h
    exact start_spares hd c
  case nil.ok | nil.error => cases h
  all_goals
    cases h
    exact .of_sameSubscribers (Std.Refl.refl _) rfl rfl

theorem commits_iff : p.commits = true ↔ p.declares = some .commit := by
  unfold commits
  split
  · next h => simp [h]
  · next h => simpa using h

theorem subscribes_eq_nil (h : ∀ kind r, p.declares ≠ some (.subscriber kind r)) :
    p.subscribes = [] := by
  unfold subscribes
  split
  · next kind r hd => exact absurd hd (h kind r)
  · rfl

/-- To count a directive spares the subscribers. -/
theorem spares_of_counted {c d : Configurator} (h : d = c ∨ d = c.counted) : Spares c d := by
  rcases h with rfl | rfl
  · exact Std.Refl.refl _
  · exact .of_sameSubscribers (Std.Refl.refl _) rfl rfl

theorem balances_of_commit (h : p.next = some q) (hp : p.configurator.Balances keys waiting)
    (hd : p.declares = some .commit) (hok : q.result = .ok ()) :
    q.configurator.autocommit = p.configurator.autocommit ∧
      q.configurator.Balances (keys ++ waiting) [] := by
  obtain ⟨site, c, hc, hq, hr⟩ := next_of_declares h hd
  obtain ⟨hmode, hcounted⟩ := spares_of_counted hc
  have hrun : commit c = (.ok (), q.configurator) := Prod.ext (hr.symm.trans hok) hq.symm
  obtain ⟨hbalances, hsame⟩ := (hcounted _ _ hp).commit hrun
  exact ⟨hsame.trans hmode, hbalances⟩

theorem balances_of_subscriber (h : p.next = some q)
    (hp : p.configurator.Balances keys waiting) {kind : EventKind} {r : Reference Subscriber}
    (hd : p.declares = some (.subscriber kind r)) :
    q.configurator.autocommit = p.configurator.autocommit ∧
      q.configurator.Balances
        (keys ++ if p.configurator.autocommit then p.subscribes.map subscriberKey else [])
        (waiting ++ if p.configurator.autocommit then [] else p.subscribes.map subscriberKey) := by
  obtain ⟨site, c, hc, hq, -⟩ := next_of_declares h hd
  obtain ⟨hmode, hcounted⟩ := spares_of_counted hc
  have hsubscribes : p.subscribes = match c.catalog.resolveReference .subscriber c.package r with
      | .ok _ => [(kind, c.actions.length)]
      | .error _ => [] := by
    rw [subscribes, hd]
    rcases hc with rfl | rfl <;> rfl
  rw [← hmode, hsubscribes]
  cases hfound : c.catalog.resolveReference .subscriber c.package r with
  | error e =>
    rw [declare_subscriber_of_missing site kind hfound] at hq
    rw [hq]
    refine ⟨rfl, ?_⟩
    cases c.autocommit <;> simpa using hcounted _ _ hp
  | ok s => exact (hcounted _ _ hp).declare_subscriber site kind hfound rfl hq.symm

/-- What one step does: a commit that succeeds enters what is waiting; a subscriber that is declared
is entered at once or waits; and nothing else has to do with subscribers. -/
theorem balances_of_next (h : p.next = some q) (hp : p.configurator.Balances keys waiting)
    (hspares : ∀ d, p.declares = some d → d.SparesSubscribers)
    (hcommit : p.commits → q.result = .ok ()) :
    q.configurator.autocommit = p.configurator.autocommit ∧
      if p.commits then q.configurator.Balances (keys ++ waiting) []
      else q.configurator.Balances
        (keys ++ if p.configurator.autocommit then p.subscribes.map subscriberKey else [])
        (waiting ++ if p.configurator.autocommit then [] else p.subscribes.map subscriberKey) := by
  by_cases hcommits : p.commits = true
  · rw [if_pos hcommits]
    exact balances_of_commit h hp (commits_iff.1 hcommits) (hcommit hcommits)
  rw [if_neg hcommits]
  by_cases hsubscriber : ∃ kind r, p.declares = some (.subscriber kind r)
  · obtain ⟨kind, r, hd⟩ := hsubscriber
    exact balances_of_subscriber h hp hd
  · have hnone : p.subscribes = [] :=
      subscribes_eq_nil fun kind r hd => hsubscriber ⟨kind, r, hd⟩
    have hsame : Spares p.configurator q.configurator := by
      cases hd : p.declares with
      | none => exact spares_of_next h hd
      | some d =>
        obtain ⟨site, c, hc, hq, -⟩ := next_of_declares h hd
        have hdeclare := declare_spares site (d := d) (fun he => hcommits (commits_iff.2 (he ▸ hd)))
          (fun kind r he => hsubscriber ⟨kind, r, he ▸ hd⟩) (hspares d hd)
        exact hq ▸ Trans.trans (spares_of_counted hc) (hdeclare c)
    refine ⟨hsame.1, ?_⟩
    rw [hnone]
    simpa using hsame.2 _ _ hp

/-! ## Runs -/

/-- What a run enters is what was waiting, if it has a commit, and what it declares itself, as far
as that is entered at once or by a later commit. -/
theorem balances_of_runs (h : Runs p log e) (hp : p.configurator.Balances keys waiting)
    (hspares : ∀ q ∈ log, ∀ d, q.declares = some d → d.SparesSubscribers)
    (hcommits : ∀ q ∈ log, q.commits → ∃ q', q.next = some q' ∧ q'.result = .ok ()) :
    ∃ keys' waiting', e.configurator.Balances keys' waiting' ∧
      keys'.Perm (keys ++ (if log.any commits then waiting else [])
        ++ (entered log).map subscriberKey) := by
  induction h generalizing keys waiting with
  | nil p => exact ⟨keys, waiting, hp, by simp [entered]⟩
  | @cons p q e log hnext _ ih =>
    obtain ⟨hsparesFirst, hsparesRest⟩ := List.forall_mem_cons.1 hspares
    obtain ⟨hfirst, hrest⟩ := List.forall_mem_cons.1 hcommits
    have hok : p.commits → q.result = .ok () := by
      intro hcommit
      obtain ⟨q', hq', hresult⟩ := hfirst hcommit
      exact Option.some.inj (hnext.symm.trans hq') ▸ hresult
    obtain ⟨-, hq⟩ := balances_of_next hnext hp hsparesFirst hok
    by_cases hcommit : p.commits = true
    · have hnone : p.subscribes = [] :=
        subscribes_eq_nil fun kind r hd => by simp [commits_iff.1 hcommit] at hd
      rw [if_pos hcommit] at hq
      obtain ⟨keys', waiting', he, hperm⟩ := ih hq hsparesRest hrest
      refine ⟨keys', waiting', he, hperm.trans (.of_eq ?_)⟩
      simp [entered, hcommit, hnone]
    · rw [if_neg hcommit] at hq
      obtain ⟨keys', waiting', he, hperm⟩ := ih hq hsparesRest hrest
      refine ⟨keys', waiting', he, hperm.trans ?_⟩
      cases hmode : p.configurator.autocommit <;> cases hany : log.any commits
      case true.true =>
        -- what waits at the beginning is entered after what the first step enters at once
        simpa [entered, hcommit, hmode, hany] using
          (List.perm_append_comm_assoc _ _ _).append_left keys
      all_goals simp [entered, hcommit, hmode, hany]

/-- An application that is begun has no subscribers. -/
theorem balances_ofSettings (s : Settings) (submitted : List (String × Definition))
    (autocommit : Bool) :
    Balances { ofSettings s submitted with autocommit := autocommit } [] [] := by
  have hnone : (ofSettings s submitted).registry.subscriptions = [] ∧
      (ofSettings s submitted).registry.introspector = {} := by
    unfold ofSettings ofRegistry
    dsimp only
    split <;> exact ⟨rfl, rfl⟩
  have hannouncements : (ofSettings s submitted).registry.announcements = [] := by
    rw [Registry.announcements, hnone.2]
    rfl
  constructor
  case announces =>
    refine ⟨congrArg List.length hnone.1, ?_, fun key => ?_⟩
    · change (ofSettings s submitted).registry.announcements.Nodup
      rw [hannouncements]
      exact List.nodup_nil
    · change key ∈ (ofSettings s submitted).registry.announcements ↔ _
      rw [hannouncements]
  case balanced => exact fun _ ha => absurd ha List.not_mem_nil
  case waiting => rfl

section Fresh

variable {s : Settings} {submitted : List (String × Definition)} {autocommit : Bool}
  {ds : List Directive}
  (h : Runs ⟨ds.map .perform, .ok (), { ofSettings s submitted with autocommit := autocommit }⟩
    log e)
  (hspares : ∀ q ∈ log, ∀ d, q.declares = some d → d.SparesSubscribers)
  (hcommits : ∀ q ∈ log, q.commits → ∃ q', q.next = some q' ∧ q'.result = .ok ())
include h hspares hcommits

/-- The subscribers that a run enters, and no others, are in the registry and have been described
under their kinds and numbers. -/
theorem announces_of_runs :
    e.configurator.registry.Announces ((entered log).map subscriberKey) := by
  obtain ⟨keys, waiting, he, hperm⟩ :=
    balances_of_runs h (balances_ofSettings s submitted autocommit) hspares hcommits
  refine he.announces.perm (hperm.trans (.of_eq ?_)).symm
  cases log.any commits <;> rfl

theorem length_category_of_runs :
    (e.configurator.registry.introspector.category "subscribers").length =
      (entered log).dedup.length := by
  have hdescribed := (announces_of_runs h hspares hcommits).length_category
  rwa [List.dedup_map_of_injective subscriberKey_injective, List.length_map] at hdescribed

theorem length_subscriptions_of_runs :
    e.configurator.registry.subscriptions.length = (entered log).length := by
  have hentered := (announces_of_runs h hspares hcommits).entered
  rwa [List.length_map] at hentered

end Fresh

/-- **Each subscriber has its description** exactly when no two that are entered are for events of
one kind and were declared with the same number of actions in the ledger. In any case there are as
many descriptions as there are different kinds and numbers. -/
theorem subscribers_described_iff {s : Settings} {submitted : List (String × Definition)}
    {autocommit : Bool} {ds : List Directive}
    (h : Runs ⟨ds.map .perform, .ok (), { ofSettings s submitted with autocommit := autocommit }⟩
      log e)
    (hspares : ∀ q ∈ log, ∀ d, q.declares = some d → d.SparesSubscribers)
    (hcommits : ∀ q ∈ log, q.commits → ∃ q', q.next = some q' ∧ q'.result = .ok ()) :
    e.configurator.registry.subscriptions.length = (entered log).length ∧
      (e.configurator.registry.introspector.category "subscribers").length =
        (entered log).dedup.length ∧
      ((e.configurator.registry.introspector.category "subscribers").length =
          e.configurator.registry.subscriptions.length ↔
        (entered log).Nodup) := by
  have hentered := length_subscriptions_of_runs h hspares hcommits
  have hdescribed := length_category_of_runs h hspares hcommits
  refine ⟨hentered, hdescribed, ?_⟩
  rw [hdescribed, hentered]
  constructor
  · intro hlength
    exact List.dedup_eq_self.1 ((List.dedup_sublist _).eq_of_length hlength)
  · intro hnodup
    rw [hnodup.dedup]

/-! ## Two subscribers of one kind -/

def attending (number : Nat) : Directive :=
  .declareAt (.step number) (.subscriber .newRequest (.value {}))

section Attending

variable {number : Nat} {rest : List Task} {c : Configurator}

@[simp] theorem declares_attending : declares ⟨.perform (attending number) :: rest, .ok (), c⟩ =
    some (.subscriber .newRequest (.value {})) := rfl

@[simp] theorem declares_commit {site : Site} :
    declares ⟨.perform (.declareAt site .commit) :: rest, .ok (), c⟩ = some .commit := rfl

@[simp] theorem commits_attending :
    commits ⟨.perform (attending number) :: rest, .ok (), c⟩ = false := rfl

@[simp] theorem subscribes_attending : subscribes ⟨.perform (attending number) :: rest, .ok (), c⟩ =
    [(.newRequest, c.actions.length)] := rfl

theorem next_attending_at_once (hmode : c.autocommit = true) (number : Nat) (rest : List Task) :
    ∃ t, next ⟨.perform (attending number) :: rest, .ok (), c⟩ =
      some ⟨rest, .ok (), { c with toSetup := t }⟩ := by
  rw [next_of_alone (declare (.step number) (.subscriber .newRequest (.value {}))) rest rfl,
    declare_subscriber_of_found _ _ rfl, act_at_once hmode]
  exact ⟨_, rfl⟩

def attendance (number : Nat) (c : Configurator) : Action where
  perform := some (subscribing .newRequest {})
  includePath := c.includePath
  site := .step number
  introspectables := [subscriberIntrospectable .newRequest c.actions.length]

def attended (number : Nat) (c : Configurator) : Configurator :=
  { c with actions := c.actions ++ [attendance number c] }

theorem next_attending_deferred (hmode : c.autocommit = false) (number : Nat)
    (rest : List Task) :
    next ⟨.perform (attending number) :: rest, .ok (), c⟩ =
      some ⟨rest, .ok (), attended number c⟩ := by
  rw [next_of_alone (declare (.step number) (.subscriber .newRequest (.value {}))) rest rfl,
    declare_subscriber_of_found _ _ rfl, act_deferred hmode]
  rfl

/-- Two subscribers of one kind that are entered at once have one number. -/
theorem exists_runs_at_once (hmode : c.autocommit = true) (hnone : c.actions = []) :
    ∃ log e, Runs ⟨[attending 0, attending 1].map .perform, .ok (), c⟩ log e ∧
      (∀ q ∈ log, ∀ d, q.declares = some d → d.SparesSubscribers) ∧
      (∀ q ∈ log, q.commits → ∃ q', q.next = some q' ∧ q'.result = .ok ()) ∧
      entered log = [(.newRequest, 0), (.newRequest, 0)] := by
  obtain ⟨t, ht⟩ := next_attending_at_once hmode 0 [.perform (attending 1)]
  obtain ⟨u, hu⟩ := next_attending_at_once (c := { c with toSetup := t }) hmode 1 []
  refine ⟨_, _, .cons ht (.cons hu (.nil _)), ?_, ?_, ?_⟩
  · simp [Declaration.SparesSubscribers]
  · simp
  · simp [entered, hmode, hnone]

theorem commit_attended (hnone : c.actions = []) :
    ∃ d, commit (attended 1 (attended 0 c)) = (.ok (), d) := by
  have hactions : (attended 1 (attended 0 c)).actions =
      [attendance 0 c, attendance 1 (attended 0 c)] := by
    change (c.actions ++ [attendance 0 c]) ++ [attendance 1 (attended 0 c)] = _
    rw [hnone]
    rfl
  have hmakes (number : Nat) (c : Configurator) (g : Registry) : (attendance number c).Makes g
      { g with subscriptions := g.subscriptions ++ [(.newRequest, {})] } := fun j => ⟨j, rfl⟩
  have happlied := Applied.cons (hmakes 0 c c.registry) (.cons (hmakes 1 (attended 0 c) _) (.nil _))
  rw [← hactions] at happlied
  have hdistinct : Ledger.Distinct (attended 1 (attended 0 c)).actions := by
    simp [hactions, Ledger.Distinct, attendance]
  have hin : Ledger.InOrder (attended 1 (attended 0 c)).actions := by
    simp [hactions, Ledger.InOrder, attendance]
  obtain ⟨d, hcommit, -⟩ := commit_of_applied hdistinct hin happlied
  exact ⟨d, hcommit⟩

/-- Two subscribers of one kind that wait for one commit have different numbers. -/
theorem exists_runs_committed (hmode : c.autocommit = false) (hnone : c.actions = []) :
    ∃ log e,
      Runs ⟨[attending 0, attending 1, .declareAt (.step 2) .commit].map .perform, .ok (), c⟩
        log e ∧
      (∀ q ∈ log, ∀ d, q.declares = some d → d.SparesSubscribers) ∧
      (∀ q ∈ log, q.commits → ∃ q', q.next = some q' ∧ q'.result = .ok ()) ∧
      entered log = [(.newRequest, 0), (.newRequest, 1)] := by
  obtain ⟨d, hcommit⟩ := commit_attended hnone
  have hlast : next ⟨[.perform (.declareAt (.step 2) .commit)], .ok (),
      attended 1 (attended 0 c)⟩ = some ⟨[], .ok (), d⟩ := by
    rw [next_of_alone commit [] rfl, hcommit]
  refine ⟨_, _, .cons (next_attending_deferred hmode 0 _)
    (.cons (next_attending_deferred (c := attended 0 c) hmode 1 _) (.cons hlast (.nil _))),
    ?_, ?_, ?_⟩
  · simp [Declaration.SparesSubscribers]
  · refine List.forall_mem_cons.2 ⟨nofun, List.forall_mem_cons.2 ⟨nofun, ?_⟩⟩
    exact List.forall_mem_singleton.2 fun _ => ⟨_, hlast, rfl⟩
  · simp [entered, commits, attended, hmode, hnone]

end Attending

theorem subscribers_described_iff_committed :
    ∃ log e,
      Runs ⟨[attending 0, attending 1, .declareAt (.step 2) .commit].map .perform, .ok (),
        { ofSettings {} [] with autocommit := false }⟩ log e ∧
      (∀ q ∈ log, ∀ d, q.declares = some d → d.SparesSubscribers) ∧
      (∀ q ∈ log, q.commits → ∃ q', q.next = some q' ∧ q'.result = .ok ()) ∧
      (entered log).Nodup ∧ e.configurator.registry.subscriptions.length = 2 ∧
      (e.configurator.registry.introspector.category "subscribers").length = 2 := by
  obtain ⟨log, e, hruns, hspares, hcommits, hentered⟩ :=
    exists_runs_committed (c := { ofSettings {} [] with autocommit := false }) rfl rfl
  obtain ⟨hlength, -, hiff⟩ := subscribers_described_iff hruns hspares hcommits
  have hnodup : (entered log).Nodup := by
    rw [hentered]
    decide
  rw [hentered] at hlength
  exact ⟨log, e, hruns, hspares, hcommits, hnodup, hlength, (hiff.2 hnodup).trans hlength⟩

theorem not_described_at_once :
    ¬ ∀ (autocommit : Bool) (ds : List Directive) log e,
      Runs ⟨ds.map .perform, .ok (), { ofSettings {} [] with autocommit := autocommit }⟩ log e →
      (∀ q ∈ log, ∀ d, q.declares = some d → d.SparesSubscribers) →
      (∀ q ∈ log, q.commits → ∃ q', q.next = some q' ∧ q'.result = .ok ()) →
      (e.configurator.registry.introspector.category "subscribers").length =
        e.configurator.registry.subscriptions.length := by
  intro hall
  obtain ⟨log, e, hruns, hspares, hcommits, hentered⟩ :=
    exists_runs_at_once (c := { ofSettings {} [] with autocommit := true }) rfl rfl
  have hlength := hall true _ log e hruns hspares hcommits
  rw [length_category_of_runs hruns hspares hcommits,
    length_subscriptions_of_runs hruns hspares hcommits, hentered] at hlength
  exact absurd hlength (by decide)

end Course

end WebDispatch
