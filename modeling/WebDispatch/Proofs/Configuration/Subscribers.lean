import Mathlib.Data.List.Dedup
import WebDispatch.Proofs.Configuration.Autocommit
import WebDispatch.Proofs.Introspection.Storage
import WebDispatch.Proofs.Text.Framing

/-!
# Subscribers and their descriptions

A declaration of a subscriber records an action that enters it in the registry and describes it.
Nothing stands in the way of this action, for it has no discriminator; and no other action that
declarations record has to do with subscribers. So a registry always has as many subscribers as have
been described. But a description is stored under a key, in place of one that is there, so that
there are as many descriptions as there are different keys.

* `Registry.Announces` — subscribers have been entered, and described under keys;
* `Action.Balanced` — an action enters as many subscribers as it describes;
* `Ledger.flatMap_perm_of_resolve` — none of them is lost when a ledger is resolved;
* `Configurator.Balances` — a registry and a ledger with subscribers in step;
* `Balances.commit`, `Balances.declare_subscriber`, `declare_spares` — how it is kept so.
-/

namespace WebDispatch

open Effect

/-! ## What a registry tells of its subscribers -/

def announced (is : List Introspectable) : List String :=
  (is.filter fun i => i.key.category = "subscribers").map fun i => i.key.discriminator

theorem mem_announced_iff {is : List Introspectable} {key : String} :
    key ∈ announced is ↔ ∃ i ∈ is, i.key = ⟨"subscribers", key⟩ := by
  simp only [announced, List.mem_map, List.mem_filter, decide_eq_true_eq, and_assoc]
  refine exists_congr fun i => and_congr_right fun _ => ?_
  rw [← IntrospectionKey.mk.injEq]

namespace Registry

variable {r r' : Registry} {keys : List String}

def announcements (r : Registry) : List String := r.introspector.keysOf "subscribers"

/-- Subscribers have been entered, and described under these keys. -/
structure Announces (r : Registry) (keys : List String) : Prop where
  entered : r.subscriptions.length = keys.length
  distinct : r.announcements.Nodup
  described : ∀ key, key ∈ r.announcements ↔ key ∈ keys

/-- There are as many descriptions as there are different keys. -/
theorem Announces.length_category (h : r.Announces keys) :
    (r.introspector.category "subscribers").length = keys.dedup.length := by
  rw [Introspector.length_category]
  refine ((List.perm_ext_iff_of_nodup h.distinct keys.nodup_dedup).2 fun key => ?_).length_eq
  rw [List.mem_dedup]
  exact h.described key

theorem Announces.perm {keys' : List String} (h : r.Announces keys) (hperm : keys'.Perm keys) :
    r.Announces keys' where
  entered := h.entered.trans hperm.length_eq.symm
  distinct := h.distinct
  described key := (h.described key).trans hperm.mem_iff.symm

/-- Work that enters as many subscribers as are then described keeps descriptions and subscribers in
step. -/
theorem Announces.described_of_entered {is : List Introspectable} (h : r.Announces keys)
    (hentered : r'.subscriptions.length = r.subscriptions.length + (announced is).length)
    (hsame : r'.announcements = r.announcements) (site : Site) :
    (r'.described is site).Announces (keys ++ announced is) := by
  have hdistinct : r'.announcements.Nodup := hsame ▸ h.distinct
  obtain ⟨hnodup, hmem⟩ := Introspector.keysOf_foldl_register hdistinct is (some site)
  constructor
  case entered =>
    rw [List.length_append, ← h.entered]
    exact hentered
  case distinct => exact hnodup
  case described =>
    intro key
    rw [List.mem_append, mem_announced_iff, ← h.described, ← hsame]
    exact hmem key

end Registry

/-! ## Actions -/

def Setup.SameSubscribers (s t : Setup) : Prop :=
  t.registry.subscriptions.length = s.registry.subscriptions.length ∧
    t.registry.announcements = s.registry.announcements

instance : Std.Refl Setup.SameSubscribers where
  refl _ := ⟨rfl, rfl⟩

instance : Trans Setup.SameSubscribers Setup.SameSubscribers Setup.SameSubscribers where
  trans h k := ⟨k.1.trans h.1, k.2.trans h.2⟩

namespace Action

variable {a : Action} {s t : Setup}

def work (a : Action) : Effect Setup Unit := a.perform.getD (pure ())

def announced (a : Action) : List String := WebDispatch.announced a.introspectables

/-- An action that is carried out enters as many subscribers as it describes. If it describes any,
nothing stands in the way of its being carried out. -/
structure Balanced (a : Action) : Prop where
  free : a.announced ≠ [] → a.discriminator = none
  enters : ∀ s t, a.work s = (.ok (), t) →
    t.registry.subscriptions.length = s.registry.subscriptions.length + a.announced.length
  undescribed : ∀ s, (a.work s).2.registry.announcements = s.registry.announcements

/-- An action that has nothing to do with subscribers. -/
theorem balanced_of_sameSubscribers (hwork : a.work.Keeps Setup.SameSubscribers)
    (hnone : a.announced = []) : a.Balanced where
  free h := absurd hnone h
  enters s t h := by
    have hs := (hwork s).1
    rw [h] at hs
    rw [hnone]
    exact hs
  undescribed s := (hwork s).2

theorem Balanced.works (h : a.Balanced) (hworks : a.Works s t) :
    t.registry.subscriptions.length = s.registry.subscriptions.length + a.announced.length ∧
      t.registry.announcements = s.registry.announcements := by
  cases hworks with
  | idle hnone =>
    refine ⟨h.enters s s ?_, rfl⟩
    rw [work, hnone]
    rfl
  | done hact hrun =>
    have hwork : a.work (s.reported .trace "executing action") = (.ok (), t) := by
      rwa [work, hact]
    have hentered := h.enters _ t hwork
    have hsame := h.undescribed (s.reported .trace "executing action")
    rw [hwork] at hsame
    exact ⟨hentered, hsame⟩

end Action

/-- Actions that are carried out leave descriptions and subscribers in step. -/
theorem Registry.Announces.carried {s t : Setup} {as : List Action} {keys : List String}
    (h : s.registry.Announces keys) (hcarried : Setup.Carried s as t)
    (hbalanced : ∀ a ∈ as, a.Balanced) :
    t.registry.Announces (keys ++ as.flatMap Action.announced) := by
  induction hcarried generalizing keys with
  | nil s => rwa [List.flatMap_nil, List.append_nil]
  | @cons a as s t u hworks _ ih =>
    obtain ⟨ha, has⟩ := List.forall_mem_cons.1 hbalanced
    obtain ⟨hentered, hsame⟩ := ha.works hworks
    have hnext := ih (h.described_of_entered hentered hsame a.site) has
    rwa [List.append_assoc] at hnext

/-! ## Commits -/

namespace Ledger

variable {β : Type} {actions order : List Action} {f : Action → List β}

/-- What is brought along only without a discriminator is brought along by the free actions. -/
theorem flatMap_free (hfree : ∀ a ∈ actions, f a ≠ [] → a.discriminator = none) :
    ((free actions).map Recorded.action).flatMap f = actions.flatMap f := by
  have hfilter (as : List Recorded) (has : ∀ r ∈ as, r.action ∈ actions) :
      ((as.filter fun r => r.action.discriminator.isNone).map Recorded.action).flatMap f =
        (as.map Recorded.action).flatMap f := by
    induction as with
    | nil => rfl
    | cons r as ih =>
      obtain ⟨hr, has⟩ := List.forall_mem_cons.1 has
      cases hd : r.action.discriminator with
      | none => simp [hd, ih has]
      | some d =>
        have hnil : f r.action = [] := by
          by_contra hne
          rw [hfree _ hr hne] at hd
          cases hd
        simp [hd, hnil, ih has]
  rw [free, hfilter _ fun r hr => mem_of_mem_record hr, map_action_record]

/-- It is all there when a ledger has been resolved, for no free action gives way to another. -/
theorem flatMap_perm_of_resolve (h : resolve actions = .ok order)
    (hfree : ∀ a ∈ actions, f a ≠ [] → a.discriminator = none) :
    (order.flatMap f).Perm (actions.flatMap f) := by
  obtain ⟨-, rfl⟩ := resolve_eq_ok_iff.1 h
  have hheads : (((groups actions).values.filterMap List.head?).map Recorded.action).flatMap f =
      [] := by
    refine List.flatMap_eq_nil_iff.2 fun a ha => ?_
    obtain ⟨r, hr, rfl⟩ := List.mem_map.1 ha
    obtain ⟨d, rest, hgroup⟩ := mem_heads_iff.1 hr
    obtain ⟨hrecord, hd⟩ := (mem_group_iff hgroup).1 List.mem_cons_self
    by_contra hne
    rw [hfree _ (mem_of_mem_record hrecord) hne] at hd
    cases hd
  have hwinners : ((winners actions).map Recorded.action).flatMap f = actions.flatMap f := by
    rw [winners, List.map_append, List.flatMap_append, hheads, List.append_nil,
      flatMap_free hfree]
  rw [← hwinners]
  exact ((List.mergeSort_perm _ comesBefore).map Recorded.action).flatMap_right f

end Ledger

namespace Configurator

variable {c c' : Configurator} {entered waiting : List String}

/-- Subscribers and their descriptions are in step: those in the registry, with keys under which
they have been described, and those in the ledger, with keys under which they will be. -/
structure Balances (c : Configurator) (entered waiting : List String) : Prop where
  announces : c.registry.Announces entered
  balanced : ∀ a ∈ c.actions, a.Balanced
  waiting : c.actions.flatMap Action.announced = waiting

/-- A commit that succeeds enters and describes all subscribers that are waiting in the ledger. -/
theorem Balances.commit (h : c.Balances entered waiting) (hcommit : commit c = (.ok (), c')) :
    c'.Balances (entered ++ waiting) [] ∧ c'.autocommit = c.autocommit := by
  rcases c.resolved_or_conflict with ⟨order, horder⟩ | ⟨sites, hsites⟩
  · have hsub : ∀ a ∈ order, a ∈ c.actions := by
      obtain ⟨-, rfl⟩ := Ledger.resolve_eq_ok_iff.1 horder
      intro a ha
      obtain ⟨r, hr, rfl⟩ := List.mem_map.1 ha
      exact Ledger.mem_of_mem_record (Ledger.mem_record_of_mem_winners (List.mem_mergeSort.1 hr))
    rw [commit_of_resolved horder] at hcommit
    rcases Setup.carried_or_fails c.begun order with
      ⟨t, hcarried⟩ | ⟨before, a, after, t, cause, u, rfl, hbefore, hfails⟩
    · rw [Setup.forM_of_carried hcarried] at hcommit
      cases hcommit
      have hbegun : c.begun.registry.Announces entered := h.announces
      have hafter := hbegun.carried hcarried fun a ha => h.balanced a (hsub a ha)
      have hperm := Ledger.flatMap_perm_of_resolve horder fun a ha => (h.balanced a ha).free
      rw [h.waiting] at hperm
      exact ⟨⟨hafter.perm (hperm.symm.append_left entered), fun _ ha => absurd ha List.not_mem_nil,
        rfl⟩, rfl⟩
    · rw [Setup.forM_of_fails hbefore hfails] at hcommit
      cases hcommit
  · rw [commit_of_conflicts hsites] at hcommit
    cases hcommit

/-! ## Recording -/

section Act

variable {site : Site} {d : Option Discriminator} {f : Option (Effect Setup Unit)} {order : Int}
  {is : List Introspectable}

theorem Balances.recorded (h : c.Balances entered waiting) (hmode : c.autocommit = false)
    (ha : Action.Balanced ⟨d, f, order, c.includePath, site, is⟩) :
    (act site d f order is c).2.Balances entered (waiting ++ announced is) := by
  rw [act_deferred hmode]
  refine ⟨h.announces, fun b hb => ?_, ?_⟩
  · rcases List.mem_append.1 hb with hb | hb
    · exact h.balanced b hb
    · exact List.mem_singleton.1 hb ▸ ha
  · rw [List.flatMap_append, h.waiting, List.flatMap_singleton]
    rfl

theorem Balances.carriedOut {t : Setup} (h : c.Balances entered waiting)
    (hmode : c.autocommit = true)
    (ha : Action.Balanced ⟨d, f, order, c.includePath, site, is⟩)
    (hrun : (f.getD (pure ())) c.toSetup = (.ok (), t)) :
    (act site d f order is c).2.Balances (entered ++ announced is) waiting := by
  have hentered := ha.enters c.toSetup t hrun
  have hsame := ha.undescribed c.toSetup
  rw [Action.work, hrun] at hsame
  rw [act_at_once hmode, hrun]
  exact ⟨h.announces.described_of_entered hentered hsame site, h.balanced, h.waiting⟩

end Act

/-- Whatever is in step stays so as it is, and so does the mode. -/
def Spares (c c' : Configurator) : Prop :=
  c'.autocommit = c.autocommit ∧
    ∀ entered waiting, c.Balances entered waiting → c'.Balances entered waiting

instance : Std.Refl Spares where
  refl _ := ⟨rfl, fun _ _ h => h⟩

instance : Trans Spares Spares Spares where
  trans h k := ⟨k.1.trans h.1, fun _ _ hc => k.2 _ _ (h.2 _ _ hc)⟩

theorem Spares.of_sameSubscribers (h : c.toSetup.SameSubscribers c'.toSetup)
    (hactions : c'.actions = c.actions) (hmode : c'.autocommit = c.autocommit) : Spares c c' where
  left := hmode
  right _ _ hc := {
    announces := ⟨h.1.trans hc.announces.entered, h.2 ▸ hc.announces.distinct,
      fun key => h.2 ▸ hc.announces.described key⟩
    balanced := hactions ▸ hc.balanced
    waiting := hactions ▸ hc.waiting }

/-- To record what has nothing to do with subscribers spares them. -/
theorem recording_spares {f : Option (Effect Setup Unit)} {is : List Introspectable}
    (hwork : (f.getD (pure ())).Keeps Setup.SameSubscribers) (hnone : announced is = []) :
    RecordingKeeps Spares f is := by
  intro site d order c
  have ha : Action.Balanced ⟨d, f, order, c.includePath, site, is⟩ :=
    Action.balanced_of_sameSubscribers hwork hnone
  cases hmode : c.autocommit with
  | false =>
    refine ⟨by rw [act_deferred hmode], fun entered waiting h => ?_⟩
    have hc := h.recorded hmode ha
    rwa [hnone, List.append_nil] at hc
  | true =>
    have hsame := hwork c.toSetup
    rcases hrun : (f.getD (pure ())) c.toSetup with ⟨e | ⟨⟩, t⟩
    · rw [hrun] at hsame
      rw [act_at_once hmode, hrun]
      exact .of_sameSubscribers hsame rfl rfl
    · refine ⟨by rw [act_at_once hmode, hrun], fun entered waiting h => ?_⟩
      have hc := h.carriedOut hmode ha hrun
      rwa [hnone, List.append_nil] at hc

/-! ## Declarations -/

theorem update_same {f : Registry → Registry}
    (hsubscriptions : ∀ r, (f r).subscriptions = r.subscriptions)
    (hintrospector : ∀ r, (f r).introspector = r.introspector) :
    (Setup.update f).Keeps Setup.SameSubscribers := fun s =>
  ⟨congrArg List.length (hsubscriptions s.registry),
    congrArg (fun i => i.keysOf "subscribers") (hintrospector s.registry)⟩

theorem storeView_same (k : ViewKind) (context : Interface) (route : Option String)
    (callable : Callable) (o : ViewOptions) :
    (storeView k context route callable o).Keeps Setup.SameSubscribers := by
  have hreport : (Setup.report .debug "views merged into a multi-view").Keeps
      Setup.SameSubscribers := fun s => ⟨rfl, rfl⟩
  refine .bind .get fun s => .bind (.ofExcept _) fun request => .bind .get fun s => ?_
  refine .bind (fun s => ⟨rfl, rfl⟩) fun d => .bind (update_same (fun _ => rfl) fun _ => rfl) ?_
  refine fun _ => .bind .get fun s => ?_
  split
  · exact hreport
  · exact .pure _

@[simp] theorem announced_view (k : ViewKind) (c : ViewConfig) (callable : Callable)
    (context : Interface) (set : PredicateSet) :
    announced (viewIntrospectables k c callable context set) = [] := by
  unfold viewIntrospectables
  dsimp only
  cases k <;> cases c.routeName <;> split <;> rfl

@[simp] theorem announced_route (r : Route) : announced (routeIntrospectables r) = [] := by
  unfold routeIntrospectables
  split <;> rfl

end Configurator

namespace Declaration

variable {d : Declaration}

/-- An action of the application's own has nothing to do with subscribers, if a declaration is that
of one. -/
def SparesSubscribers (d : Declaration) : Prop :=
  ∀ discriminator f order is, d = .action discriminator f order is →
    (f.getD (pure ())).Keeps Setup.SameSubscribers ∧ announced is = []

open Configurator in
/-- What declarations record has nothing to do with subscribers, unless they declare one. -/
theorem Records.spares {f : Option (Effect Setup Unit)} {is : List Introspectable}
    (h : d.Records f is) (hsubscriber : ∀ kind r, d ≠ .subscriber kind r)
    (hspares : d.SparesSubscribers) :
    (f.getD (pure ())).Keeps Setup.SameSubscribers ∧ announced is = [] := by
  cases h with
  | view k c callable context set o =>
    exact ⟨storeView_same _ _ _ _ _, announced_view k c callable context set⟩
  | route r => exact ⟨update_same (fun _ => rfl) fun _ => rfl, announced_route r⟩
  | renderer | defaultPermission | authentication | authorization | rootFactory | sessionFactory
  | localeNegotiator | tween => exact ⟨update_same (fun _ => rfl) fun _ => rfl, rfl⟩
  | requirement =>
    refine ⟨.bind .get fun s => ?_, rfl⟩
    split
    · exact .throw _
    · exact .pure _
  | subscriber s number h => exact absurd h (hsubscriber _ _)
  | custom h => exact hspares _ _ _ _ h

end Declaration

namespace Configurator

variable {c c' : Configurator} {entered waiting : List String}

theorem define_spares (name : String) (d : Definition) : (define name d).Keeps Spares := by
  intro c
  change Spares c ((Effect.ofExcept (DottedName.absolute name c.package) >>= fun absolute =>
    (set { c with catalog := c.catalog.define absolute d } : Configuring Unit)) c).2
  cases DottedName.absolute name c.package with
  | error e => exact Std.Refl.refl c
  | ok absolute => exact .of_sameSubscribers (Std.Refl.refl _) rfl rfl

theorem declare_spares (site : Site) {d : Declaration} (hcommit : d ≠ .commit)
    (hsubscriber : ∀ kind r, d ≠ .subscriber kind r) (hspares : d.SparesSubscribers) :
    (declare site d).Keeps Spares := by
  refine declare_keeps site hcommit (fun f is h => ?_) (fun name f => define_spares name _)
    fun f c => .of_sameSubscribers ⟨rfl, rfl⟩ rfl rfl
  obtain ⟨hwork, hnone⟩ := h.spares hsubscriber hspares
  exact recording_spares hwork hnone

/-- The key under which a subscriber of a kind is described that is declared with so many actions
in the ledger. -/
def subscriberKey (ticket : EventKind × Nat) : String :=
  ticket.1.name ++ " " ++ toString ticket.2

theorem subscriberKey_injective : Function.Injective subscriberKey := by
  rintro ⟨kind, m⟩ ⟨kind', n⟩ h
  have hkind : kind = kind' := by
    have hchars := congrArg String.toList h
    cases kind <;> cases kind' <;> simp [subscriberKey, EventKind.name] at hchars ⊢
  subst hkind
  have hnumber : toString m = toString n := (String.append_right_inj _).1 h
  have hdigits := congrArg String.toList hnumber
  simp only [Nat.toString_eq_ofList_toDigits, String.toList_ofList] at hdigits
  rw [Text.toDigits_inj (by decide) (by decide) hdigits]

def subscribing (kind : EventKind) (s : Subscriber) : Effect Setup Unit :=
  Setup.update fun r => { r with subscriptions := r.subscriptions ++ [(kind, s)] }

def subscriberIntrospectable (kind : EventKind) (number : Nat) : Introspectable :=
  (Introspectable.of "subscribers" (subscriberKey (kind, number)) (kind.name ++ " subscriber")
    "subscriber").withAttribute "event" (.text kind.name)

theorem declare_subscriber_of_missing {r : Reference Subscriber} {e : Error} (site : Site)
    (kind : EventKind) (h : c.catalog.resolveReference .subscriber c.package r = .error e) :
    declare site (.subscriber kind r) c = (.error e, c) := by
  simp [declare, addSubscriber, h]

theorem declare_subscriber_of_found {r : Reference Subscriber} {s : Subscriber} (site : Site)
    (kind : EventKind) (h : c.catalog.resolveReference .subscriber c.package r = .ok s) :
    declare site (.subscriber kind r) c =
      act site none (some (subscribing kind s)) 0
        [subscriberIntrospectable kind c.actions.length] c := by
  simp [declare, addSubscriber, h, subscribing, subscriberIntrospectable, subscriberKey]

theorem balanced_subscriber (site : Site) (path : List String) (kind : EventKind) (s : Subscriber)
    (number : Nat) :
    Action.Balanced ⟨none, some (subscribing kind s), 0, path, site,
      [subscriberIntrospectable kind number]⟩ where
  free _ := rfl
  enters _ _ h := by
    cases h
    exact List.length_append
  undescribed _ := rfl

/-- A subscriber that is found is entered and described at once where that is the mode, and
recorded otherwise. -/
theorem Balances.declare_subscriber (h : c.Balances entered waiting) (site : Site)
    (kind : EventKind) {r : Reference Subscriber} {s : Subscriber} {key : String}
    (hfound : c.catalog.resolveReference .subscriber c.package r = .ok s)
    (hkey : subscriberKey (kind, c.actions.length) = key)
    (hdeclare : (declare site (.subscriber kind r) c).2 = c') :
    c'.autocommit = c.autocommit ∧
      c'.Balances (entered ++ if c.autocommit then [key] else [])
        (waiting ++ if c.autocommit then [] else [key]) := by
  have ha := balanced_subscriber site c.includePath kind s c.actions.length
  rw [declare_subscriber_of_found site kind hfound] at hdeclare
  subst hkey hdeclare
  cases hmode : c.autocommit with
  | false =>
    rw [if_neg Bool.false_ne_true, if_neg Bool.false_ne_true, List.append_nil]
    refine ⟨?_, h.recorded hmode ha⟩
    rw [act_deferred hmode]
    exact hmode
  | true =>
    rw [if_pos rfl, if_pos rfl, List.append_nil]
    refine ⟨?_, h.carriedOut hmode ha rfl⟩
    rw [act_at_once hmode]
    exact hmode

end Configurator

end WebDispatch
