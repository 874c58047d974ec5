import Mathlib.Data.List.Nodup
import WebDispatch.Proofs.Configuration.Inclusion

/-!
# The spellings of an include

An include may be given by a dotted name, which is found in the catalog with dots and colons being
the same. But what has been begun is kept by full names as they are written. So the configuration
that the catalog has under one entry is carried out once for each full name by which it is found,
and at most once exactly if all of these are written alike.

* `Course.found`, `Course.finds` — the include that a step finds by a name;
* `Course.executed` — the entry whose configuration a step begins to carry out;
* `executed_eq_map` — the entries of a run, one for each full name;
* `executed_once_iff_spelled_alike` — when each of them is there once.
-/

namespace WebDispatch

open Configurator (findInclude)
open DottedName (canonical)

/-- An absolute name stands for what its entry stands for. -/
@[simp] theorem Catalog.lookup?_canonical (catalog : Catalog) (name : String) :
    catalog.lookup? (canonical name) = catalog.lookup? name := by
  rw [lookup?, lookup?, DottedName.canonical_canonical]

namespace Course

variable {p q e : Course} {log : List Course} {c : Configurator} {n full : String}
  {body : IncludeBody}

/-! ## One step -/

def found : Course → List (String × IncludeBody)
  | ⟨.perform (.inclusionNamed name _) :: _, .ok (), c⟩ =>
    (findInclude name c.counted).1.toOption.toList
  | _ => []

def finds (p : Course) : List String := p.found.map Prod.fst

def begunByName (p : Course) : List String :=
  p.finds.filter fun full => full ∉ p.configurator.included

/-- The entry of the catalog whose configuration the next step begins to carry out. -/
def executed (p : Course) : List String := p.begunByName.map canonical

/-- The next step carries out the configuration of the catalog's entry for a full name, unless one
of that very name has been begun before. -/
def CarriesOut (p : Course) (full : String) (body : IncludeBody) : Prop :=
  p.configurator.catalog.lookup? (canonical full) = some (.inclusion body) ∧
    ∃ q, p.next = some q ∧ q.result = .ok () ∧
      q.tasks =
        (if full ∈ p.configurator.included then []
          else body.directives.map .perform ++ [.leave full p.configurator.toScope]) ++ p.tasks.tail

theorem found_cases (p : Course) :
    p.found = [] ∨ ∃ name routePrefix rest c full body,
      p = ⟨.perform (.inclusionNamed name routePrefix) :: rest, .ok (), c⟩ ∧
        p.found = [(full, body)] ∧ findInclude name c.counted = (.ok (full, body), c.counted) ∧
        c.catalog.lookup? full = some (.inclusion body) := by
  rcases p with ⟨_ | ⟨task, rest⟩, _ | _, c⟩
  · exact Or.inl rfl
  · exact Or.inl rfl
  · exact Or.inl (by cases task with
      | perform d => cases d <;> rfl
      | leave | recover => rfl)
  · cases task with
    | leave | recover => exact Or.inl rfl
    | perform d =>
        cases d with
        | inclusionNamed name routePrefix =>
            have hfound (r : Except Error (String × IncludeBody))
                (h : findInclude name c.counted = (r, c.counted)) :
                found ⟨.perform (.inclusionNamed name routePrefix) :: rest, .ok (), c⟩ =
                  r.toOption.toList := by
              rw [found, h]
            rcases Configurator.findInclude_cases name c.counted with
              ⟨err, herr⟩ | ⟨full, body, hfull, hbody⟩
            · exact Or.inl (hfound _ herr)
            · exact Or.inr
                ⟨name, routePrefix, rest, c, full, body, rfl, hfound _ hfull, hfull, hbody⟩
        | declare | declareAt | define | inclusion | attempt => exact Or.inl rfl

/-- A full name that is found is entered, which does nothing if it has been begun before. -/
theorem next_of_found {name : String} (routePrefix : Option String) (rest : List Task)
    (h : findInclude name c.counted = (.ok (full, body), c.counted)) :
    ∃ c', next ⟨.perform (.inclusionNamed name routePrefix) :: rest, .ok (), c⟩ =
      some ⟨(if full ∈ c.included then []
        else body.directives.map .perform ++ [.leave full c.toScope]) ++ rest, .ok (), c'⟩ := by
  have hstart : Configurator.start (.inclusionNamed name routePrefix) c =
      Configurator.enter full body routePrefix c.counted := by
    simp [Configurator.start_inclusionNamed, h]
  have hcontains : c.counted.included.contains full ↔ full ∈ c.included := List.contains_iff_mem
  rw [next_perform, hstart]
  by_cases hmem : full ∈ c.included
  · rw [Configurator.enter_of_included (hcontains.mpr hmem), if_pos hmem]
    exact ⟨_, rfl⟩
  · rw [Configurator.enter_of_new body routePrefix (mt hcontains.mp hmem), if_neg hmem]
    exact ⟨_, rfl⟩

theorem carriesOut_of_mem_found (h : (full, body) ∈ p.found) : p.CarriesOut full body := by
  rcases found_cases p with hnone | ⟨name, routePrefix, rest, c, full', body', rfl, hfound, hfull,
    hbody⟩
  · rw [hnone] at h
    exact absurd h List.not_mem_nil
  · rw [hfound, List.mem_singleton] at h
    cases h
    obtain ⟨c', hnext⟩ := next_of_found routePrefix rest hfull
    refine ⟨?_, _, hnext, rfl, rfl⟩
    rw [Catalog.lookup?_canonical]
    exact hbody

theorem begins_of_begunByName (h : n ∈ p.begunByName) : p.begins = [n] := by
  obtain ⟨hfinds, hnew⟩ := List.mem_filter.mp h
  rcases found_cases p with hnone | ⟨name, routePrefix, rest, c, full, body, rfl, hfound, hfull, -⟩
  · rw [finds, hnone] at hfinds
    exact absurd hfinds List.not_mem_nil
  · rw [finds, hfound, List.map_singleton, List.mem_singleton] at hfinds
    subst hfinds
    have hnew : n ∉ c.included := of_decide_eq_true hnew
    obtain ⟨c', hnext⟩ := next_of_found routePrefix rest hfull
    rw [next_perform, if_neg hnew] at hnext
    have htasks := List.append_cancel_right (congrArg tasks (Option.some.inj hnext))
    change (Configurator.tasksOf (Configurator.start _ c).1).filterMap Task.ends = [n]
    rw [htasks]
    exact filterMap_ends_performs _ _

theorem begunByName_sublist (p : Course) : p.begunByName.Sublist p.begins := by
  rcases hlist : p.begunByName with _ | ⟨n, rest⟩
  · exact List.nil_sublist _
  · have hmem : n ∈ p.begunByName := hlist ▸ List.mem_cons_self
    have hone : p.finds.length ≤ 1 := by
      rcases found_cases p with hnone | ⟨_, _, _, _, _, _, -, hfound, -⟩
      · simp [finds, hnone]
      · simp [finds, hfound]
    have hlength : (n :: rest).length ≤ 1 := by
      rw [← hlist]
      exact Nat.le_trans (List.length_filter_le _ _) hone
    have hrest : rest = [] := List.eq_nil_of_length_eq_zero (by simpa using hlength)
    rw [begins_of_begunByName hmem, hrest]

/-! ## A whole run -/

/-- What has been begun at a moment was begun beforehand or by a step of the run. -/
theorem included_of_mem (h : Runs p log e) (hq : q ∈ log) :
    ∀ n ∈ q.configurator.included, n ∈ p.configurator.included ∨ n ∈ log.flatMap begins := by
  induction h with
  | nil p => exact absurd hq List.not_mem_nil
  | @cons p m e log hnext _ ih =>
    intro n hn
    rcases List.mem_cons.1 hq with rfl | hq
    · exact Or.inl hn
    · have hm : m.configurator.included = p.configurator.included ++ p.begins :=
        (begins_of_step (step_of_next hnext)).1
      rw [List.flatMap_cons, List.mem_append]
      rcases ih hq n hn with hn | hn
      · rw [hm, List.mem_append] at hn
        exact hn.imp_right Or.inl
      · exact Or.inr (Or.inr hn)

/-- No include of this name has been begun beforehand, and none is begun but by being found. -/
def OnlyByName (c : Configurator) (log : List Course) (n : String) : Prop :=
  n ∉ c.included ∧ ∀ p ∈ log, n ∈ p.begins → n ∈ p.finds

theorem mem_begins_of_begunByName (h : n ∈ p.begunByName) : n ∈ p.begins :=
  (begunByName_sublist p).subset h

theorem nodup_begunByName (h : Runs p log e) : (log.flatMap begunByName).Nodup := by
  have hnodup := (begins_of_runs h).2.1
  refine hnodup.sublist ?_
  clear h hnodup
  induction log with
  | nil => exact List.Sublist.refl _
  | cons p log ih => exact (begunByName_sublist p).append ih

/-- An include is begun by one step only. -/
theorem eq_of_begins {m : Course} (h : Runs p log e) (hm : m ∈ log) (hq : q ∈ log)
    (hmbegins : n ∈ m.begins) (hqbegins : n ∈ q.begins) : m = q := by
  have hdisjoint := (List.nodup_flatMap.1 (begins_of_runs h).2.1).2
  have hone : log.Pairwise fun m q => n ∈ m.begins → n ∈ q.begins → m = q :=
    hdisjoint.imp fun hd hm hq => absurd hq (hd hm)
  have hflip : log.Pairwise fun q m => n ∈ m.begins → n ∈ q.begins → m = q :=
    hone.imp fun h hq hm => (h hm hq).symm
  exact hone.forall_of_forall_of_flip (fun _ _ _ _ => rfl) hflip hm hq hmbegins hqbegins

theorem not_mem_included_of_begins (h : p.next = some q) (hn : n ∈ p.begins) :
    n ∉ p.configurator.included := by
  rcases (begins_of_step (step_of_next h)).2 with hnone | ⟨n', hn', hone⟩
  · rw [hnone] at hn
    exact absurd hn List.not_mem_nil
  · rw [hone, List.mem_singleton] at hn
    exact hn ▸ hn'

/-- What is begun by name in a run is what is found in it, and not begun in any other way. -/
theorem mem_begunByName_iff (h : Runs p log e) :
    n ∈ log.flatMap begunByName ↔
      n ∈ log.flatMap finds ∧ OnlyByName p.configurator log n := by
  constructor
  · intro hn
    obtain ⟨m, hm, hn⟩ := List.mem_flatMap.1 hn
    have hfinds : n ∈ m.finds := (List.mem_filter.1 hn).1
    have hbegins : n ∈ m.begins := mem_begins_of_begunByName hn
    refine ⟨List.mem_flatMap.2 ⟨m, hm, hfinds⟩, ?_, ?_⟩
    · exact (begins_of_runs h).2.2 n (List.mem_flatMap.2 ⟨m, hm, hbegins⟩)
    · intro q hq hqbegins
      exact eq_of_begins h hm hq hbegins hqbegins ▸ hfinds
  · rintro ⟨hn, hold, honly⟩
    obtain ⟨m, hm, hfinds⟩ := List.mem_flatMap.1 hn
    have hstep (q : Course) (hq : q ∈ log) (hqfinds : n ∈ q.finds)
        (hqnew : n ∉ q.configurator.included) : n ∈ log.flatMap begunByName :=
      List.mem_flatMap.2 ⟨q, hq, List.mem_filter.2 ⟨hqfinds, decide_eq_true hqnew⟩⟩
    by_cases hincluded : n ∈ m.configurator.included
    · rcases included_of_mem h hm n hincluded with hn | hn
      · exact absurd hn hold
      · -- it has been begun by an earlier step, which then has found it, too
        obtain ⟨q, hq, hqbegins⟩ := List.mem_flatMap.1 hn
        obtain ⟨q', hnext⟩ := h.exists_next q hq
        exact hstep q hq (honly q hq hqbegins) (not_mem_included_of_begins hnext hqbegins)
    · exact hstep m hm hfinds hincluded

theorem executed_eq_map (log : List Course) :
    log.flatMap executed = (log.flatMap begunByName).map canonical := by
  rw [List.map_flatMap]
  rfl

/-- **What is found by name is carried out once for each full name.** Whatever directives are
carried out, an include that is found by a name is that of the catalog's entry for a full name, and
is carried out unless one of this very full name has been begun. The entries that are carried out
in a run are those of the full names that have been found and not been begun in any other way, each
full name once. So none of them is carried out twice exactly if no two of those full names have one
entry. -/
theorem executed_once_iff_spelled_alike (ds : List Directive) (c : Configurator) :
    ∃ log e, Runs ⟨ds.map .perform, .ok (), c⟩ log e ∧ e.tasks = [] ∧
      ds.forM Configurator.perform c = (e.result, e.configurator) ∧
      (∀ p ∈ log, ∀ full body, (full, body) ∈ p.found → p.CarriesOut full body) ∧
      (∃ names : List String, names.Nodup ∧
        (∀ n, n ∈ names ↔ n ∈ log.flatMap finds ∧ OnlyByName c log n) ∧
        log.flatMap executed = names.map canonical) ∧
      ((log.flatMap executed).Nodup ↔
        ∀ n ∈ log.flatMap finds, ∀ n' ∈ log.flatMap finds, OnlyByName c log n →
          OnlyByName c log n' → canonical n = canonical n' → n = n') := by
  obtain ⟨log, hruns⟩ := finish_runs ⟨ds.map .perform, .ok (), c⟩
  have hfinish := finish_perform ds c
  have hnodup := nodup_begunByName hruns
  have hmem (n : String) := mem_begunByName_iff (n := n) hruns
  refine ⟨log, _, hruns, rfl, hfinish.symm, ?carried, ?names, ?once⟩
  case carried => exact fun p _ full body h => carriesOut_of_mem_found h
  case names => exact ⟨log.flatMap begunByName, hnodup, hmem, executed_eq_map log⟩
  case once =>
    rw [executed_eq_map, List.nodup_map_iff_inj_on hnodup]
    constructor
    · intro h n hn n' hn' honly honly' hcanonical
      exact h n ((hmem n).2 ⟨hn, honly⟩) n' ((hmem n').2 ⟨hn', honly'⟩) hcanonical
    · intro h n hn n' hn' hcanonical
      obtain ⟨hn, honly⟩ := (hmem n).1 hn
      obtain ⟨hn', honly'⟩ := (hmem n').1 hn'
      exact h n hn n' hn' honly honly' hcanonical

def includingBoth : List Directive :=
  [.define "app:inc" (.inclusion ⟨fun _ _ => [], []⟩), .inclusionNamed "app:inc" none,
    .inclusionNamed "app.inc" none]

theorem executed_twice_under_two_spellings :
    ¬ ∀ (ds : List Directive) c log e, Runs ⟨ds.map .perform, .ok (), c⟩ log e → e.tasks = [] →
      (log.flatMap executed).Nodup := by
  intro hall
  obtain ⟨log, e, hruns, hdone, hexecuted⟩ : ∃ log e,
      Runs ⟨includingBoth.map .perform, .ok (), Configurator.ofSettings {} []⟩ log e ∧
        e.tasks = [] ∧ log.flatMap executed = ["app.inc", "app.inc"] :=
    ⟨_, _, .cons rfl (.cons rfl (.cons rfl (.cons rfl (.cons rfl (.nil _))))), rfl, rfl⟩
  have hnodup := hall includingBoth _ log e hruns hdone
  rw [hexecuted] at hnodup
  exact absurd hnodup (by decide)

end Course

end WebDispatch
