import WebDispatch.Configuration.Begun
import WebDispatch.Queue

/-!
# The workload of a configuration

What is left to do while a configuration is carried out, in sizes. These are the sizes of the
tasks, and that of each configuration that can be included by name, once for each way to write the
name by which nothing has been included so far. A directive that is carried out is taken out, and
so is a configuration where it is included by name; what it leads to is smaller, and so is what it
gives a name to. So the workload becomes lighter with every step, which can go on only so long.

* `Workload.Lighter` — in place of one size there are smaller ones; `wellFounded_lighter`;
* `Configurator.pending` — the sizes of what can still be included by name;
* `start_lighter` — what a directive leads to is lighter than what there was.
-/

namespace WebDispatch

open Effect

/-! ## Sizes -/

namespace Workload

variable {α : Type} {l l' m m' k : List α}

/-- Some of the items, in any order. -/
def Within (l' l : List α) : Prop := ∃ rest, l.Perm (l' ++ rest)

theorem Within.of_perm (h : l.Perm l') : Within l' l := ⟨[], by rwa [List.append_nil]⟩

theorem Within.of_sublist (h : l'.Sublist l) : Within l' l := h.exists_perm_append

theorem Within.refl (l : List α) : Within l l := .of_perm (.refl l)

theorem Within.trans (h : Within k l') (h' : Within l' l) : Within k l := by
  obtain ⟨rest, hrest⟩ := h
  obtain ⟨rest', hrest'⟩ := h'
  refine ⟨rest ++ rest', hrest'.trans ?_⟩
  rw [← List.append_assoc]
  exact hrest.append_right rest'

theorem Within.append (h : Within l' l) (h' : Within m' m) : Within (l' ++ m') (l ++ m) := by
  obtain ⟨rest, hrest⟩ := h
  obtain ⟨rest', hrest'⟩ := h'
  refine ⟨rest ++ rest', (hrest.append hrest').trans ?_⟩
  rw [List.append_assoc, List.append_assoc]
  exact (List.perm_append_comm_assoc rest m' rest').append_left l'

theorem Within.cons (a : α) (h : Within l' l) : Within (a :: l') (a :: l) :=
  (Within.refl [a]).append h

theorem Within.flatMap {β : Type} (f : α → List β) (h : l'.Sublist l) :
    Within (l'.flatMap f) (l.flatMap f) := by
  obtain ⟨rest, hrest⟩ := h.exists_perm_append
  exact ⟨rest.flatMap f, List.flatMap_append ▸ hrest.flatMap_right f⟩

theorem Within.flatMap_of_forall {β : Type} {f g : α → List β} (h : ∀ a, Within (f a) (g a)) :
    Within (l.flatMap f) (l.flatMap g) := by
  induction l with
  | nil => exact .refl []
  | cons a l ih => exact (h a).append ih

/-- An item may be taken out where one of the parts has it besides. -/
theorem Within.cons_flatMap {β : Type} {f g : α → List β} {a : α} {b : β} (ha : a ∈ l)
    (hb : Within (b :: f a) (g a)) (h : ∀ a, Within (f a) (g a)) :
    Within (b :: l.flatMap f) (l.flatMap g) := by
  obtain ⟨left, right, rfl⟩ := List.append_of_mem ha
  rw [List.flatMap_append, List.flatMap_append, List.flatMap_cons, List.flatMap_cons]
  refine Within.trans (.of_perm List.perm_middle) ?_
  exact (Within.flatMap_of_forall h).append (hb.append (.flatMap_of_forall h))

/-- In place of one size there are smaller ones; others may be gone. -/
def Lighter (after before : List Nat) : Prop :=
  ∃ size kept added, Within (size :: kept) before ∧ after.Perm (added ++ kept) ∧
    ∀ a ∈ added, a < size

theorem Lighter.append_right {after before : List Nat} (h : Lighter after before)
    (rest : List Nat) : Lighter (after ++ rest) (before ++ rest) := by
  obtain ⟨size, kept, added, hwithin, hafter, hadded⟩ := h
  refine ⟨size, kept ++ rest, added, hwithin.append (.refl rest), ?_, hadded⟩
  exact List.append_assoc added kept rest ▸ hafter.append_right rest

theorem Lighter.of_perm {after after' before before' : List Nat} (h : Lighter after before)
    (hafter : after'.Perm after) (hbefore : before'.Perm before) : Lighter after' before' := by
  obtain ⟨size, kept, added, hwithin, hperm, hadded⟩ := h
  exact ⟨size, kept, added, hwithin.trans (.of_perm hbefore), hafter.trans hperm, hadded⟩

theorem lighter_of_perm_append {kept gone before : List Nat} {size : Nat}
    (h : before.Perm (kept ++ size :: gone)) : Lighter kept before := by
  refine ⟨size, kept, [], ⟨gone, h.trans List.perm_middle⟩, .refl kept, nofun⟩

theorem acc_of_within {kept before : List Nat} (h : Within kept before)
    (hacc : Acc Lighter before) : Acc Lighter kept := by
  obtain ⟨gone, hgone⟩ := h
  cases gone with
  | nil =>
      rw [List.append_nil] at hgone
      refine Acc.intro kept fun after ⟨size, rest, added, hwithin, hafter, hadded⟩ => ?_
      exact hacc.inv ⟨size, rest, added, hwithin.trans (.of_perm hgone), hafter, hadded⟩
  | cons size gone => exact hacc.inv (lighter_of_perm_append hgone)

/-- A workload can become lighter only so long. -/
theorem wellFounded_lighter : WellFounded Lighter := by
  have hlighter : ∀ before, Acc (Queue.Cut (· < · : Nat → Nat → Prop)) before →
      Acc Lighter before := by
    intro before hacc
    induction hacc with
    | intro before _ ih =>
      refine Acc.intro before fun after ⟨size, kept, added, ⟨gone, hgone⟩, hafter, hadded⟩ => ?_
      have hcut := ih (kept ++ gone ++ added) ⟨size, kept ++ gone, added, hgone, .refl _, hadded⟩
      -- a cut leaves everything else, so what is gone besides is taken away from it
      refine acc_of_within ⟨gone, ?_⟩ hcut
      refine (List.perm_append_comm.trans ?_).trans (hafter.append_right gone).symm
      rw [← List.append_assoc]
  exact ⟨fun before => hlighter before (Queue.acc_cut Nat.lt_wfRel.wf before)⟩

end Workload

/-! ## The names of a configuration -/

namespace DottedName

/-- The ways to write a name that are compared as one. -/
def spelled : List Char → List (List Char)
  | [] => [[]]
  | c :: rest =>
    (spelled rest).flatMap fun s => if c = '.' ∨ c = ':' then ['.' :: s, ':' :: s] else [c :: s]

def spellings (name : String) : List String := (spelled name.toList).map String.ofList

theorem toList_canonical (name : String) :
    (canonical name).toList = name.toList.map fun c => if c = ':' then '.' else c :=
  String.toList_ofList

@[simp] theorem canonical_canonical (name : String) :
    canonical (canonical name) = canonical name := by
  rw [canonical, toList_canonical, List.map_map, canonical]
  refine congrArg String.ofList (List.map_congr_left fun c _ => ?_)
  by_cases h : c = ':' <;> simp [h]

theorem mem_spelled {s t : List Char}
    (h : (s.map fun c => if c = ':' then '.' else c) = t.map fun c => if c = ':' then '.' else c) :
    s ∈ spelled t := by
  induction t generalizing s with
  | nil => rw [List.map_eq_nil_iff.1 h]; exact List.mem_singleton.2 rfl
  | cons c t ih =>
    obtain ⟨d, s, rfl, hd, hs⟩ := List.map_eq_cons_iff.1 h
    refine List.mem_flatMap.2 ⟨s, ih hs, ?_⟩
    by_cases hc : c = ':'
    · by_cases hd' : d = ':' <;> simp_all
    · by_cases hd' : d = ':'
      · have hdot : c = '.' := by simpa [hc, hd'] using hd.symm
        simp [hdot, hd']
      · have hsame : d = c := by simpa [hc, hd'] using hd
        by_cases hdot : c = '.' <;> simp [hsame, hc, hdot]

theorem mem_spellings {s name : String} (h : canonical s = canonical name) :
    s ∈ spellings name := by
  have hlist := congrArg String.toList h
  rw [toList_canonical, toList_canonical] at hlist
  exact List.mem_map.2 ⟨s.toList, mem_spelled hlist, String.ofList_toList⟩

end DottedName

namespace Catalog

/-- A configuration that is given a name is added to those that can be included by name, where it
may hide another. -/
theorem inclusions_define_inclusion (c : Catalog) (name : String) (body : IncludeBody) :
    ∃ kept, kept.Sublist c.inclusions ∧
      (c.define name (.inclusion body)).inclusions.Perm
        ((DottedName.canonical name, body) :: kept) := by
  have hinsert : ∀ entries : List (String × Definition), ∃ kept,
      kept.Sublist (entries.filterMap inclusion?) ∧
        ((OrderedMap.insertEntry (DottedName.canonical name) (.inclusion body) entries).filterMap
          inclusion?).Perm ((DottedName.canonical name, body) :: kept) := by
    intro entries
    induction entries with
    | nil => exact ⟨[], .refl _, .refl _⟩
    | cons e rest ih =>
      rw [OrderedMap.insertEntry]
      split
      · exact ⟨rest.filterMap inclusion?, (List.sublist_cons_self e rest).filterMap inclusion?,
          .refl _⟩
      · obtain ⟨kept, hkept, hperm⟩ := ih
        cases he : inclusion? e with
        | none => exact ⟨kept, by rwa [List.filterMap_cons_none he],
            by rwa [List.filterMap_cons_none he]⟩
        | some p =>
          refine ⟨p :: kept, ?_, ?_⟩
          · rw [List.filterMap_cons_some he]
            exact hkept.cons_cons p
          · rw [List.filterMap_cons_some he]
            exact (hperm.cons p).trans (.swap _ p kept)
  obtain ⟨kept, hkept, hperm⟩ := hinsert c.entries.toList
  refine ⟨kept ++ c.submitted.filterMap inclusion?, ?_, ?_⟩
  · rw [inclusions, List.filterMap_append]
    exact hkept.append (.refl _)
  · rw [inclusions, List.filterMap_append]
    exact hperm.append_right _

/-- What a name stands for can be included under one of its spellings. -/
theorem exists_inclusion_of_lookup? {c : Catalog} {name : String} {body : IncludeBody}
    (h : c.lookup? name = some (.inclusion body)) :
    ∃ e ∈ c.inclusions, e.2 = body ∧ name ∈ DottedName.spellings e.1 := by
  have hfound (key : String) (hmem : (key, .inclusion body) ∈ c.entries.toList ++ c.submitted)
      (hkey : DottedName.canonical name = DottedName.canonical key) :
      ∃ e ∈ c.inclusions, e.2 = body ∧ name ∈ DottedName.spellings e.1 :=
    ⟨(key, body), List.mem_filterMap.2 ⟨_, hmem, rfl⟩, rfl, DottedName.mem_spellings hkey⟩
  dsimp only [lookup?] at h
  cases hget : c.entries.get? (DottedName.canonical name) with
  | some d =>
    rw [hget] at h
    obtain rfl : d = .inclusion body := Option.some.inj h
    obtain ⟨e, he, hbody⟩ := Option.map_eq_some_iff.1 hget
    have hkey : e.1 = DottedName.canonical name := by simpa using List.find?_some he
    refine hfound e.1 (List.mem_append_left _ ?_) ?_
    · exact hbody ▸ List.mem_of_find?_eq_some he
    · rw [hkey, DottedName.canonical_canonical]
  | none =>
    rw [hget] at h
    obtain ⟨e, he, hbody⟩ := Option.map_eq_some_iff.1 h
    have hkey : DottedName.canonical e.1 = DottedName.canonical name := by
      simpa using List.find?_some he
    exact hfound e.1 (List.mem_append_right _ (hbody ▸ List.mem_of_find?_eq_some he)) hkey.symm

end Catalog

/-! ## Workloads -/

noncomputable def Task.size : Task → Nat
  | perform d => sizeOf d
  | leave _ _ | recover => 0

namespace Configurator

open Workload

/-- The size of a configuration that can be included by name, once for each spelling of its name
under which nothing has been included. -/
noncomputable def openings (included : List String) (e : String × IncludeBody) : List Nat :=
  ((DottedName.spellings e.1).filter fun s => !included.contains s).map fun _ => sizeOf e.2

/-- The sizes of what can still be included by name. -/
noncomputable def pending (c : Configurator) : List Nat :=
  c.catalog.inclusions.flatMap (openings c.included)

variable {c c' : Configurator}

theorem pending_within_of_sameGround (h : SameGround c c') : Within c'.pending c.pending := by
  rw [pending, pending, h.included]
  exact .flatMap _ h.inclusions

theorem filter_append_singleton (included : List String) (name : String) (names : List String) :
    (names.filter fun s => !(included ++ [name]).contains s) =
      (names.filter fun s => !included.contains s).filter fun s => s ≠ name := by
  rw [List.filter_filter]
  refine List.filter_congr fun s _ => ?_
  simp [Bool.and_comm]

theorem openings_append_within (included : List String) (name : String)
    (e : String × IncludeBody) :
    Within (openings (included ++ [name]) e) (openings included e) := by
  rw [openings, filter_append_singleton]
  exact .of_sublist ((List.filter_sublist).map _)

theorem cons_openings_within {included : List String} {name : String} {e : String × IncludeBody}
    (hname : name ∈ DottedName.spellings e.1) (hnew : name ∉ included) :
    Within (sizeOf e.2 :: openings (included ++ [name]) e) (openings included e) := by
  have hmem : name ∈ (DottedName.spellings e.1).filter fun s => !included.contains s :=
    List.mem_filter.2 ⟨hname, by simpa using hnew⟩
  rw [openings, filter_append_singleton, openings]
  obtain ⟨left, right, hsplit⟩ := List.append_of_mem hmem
  -- the name itself is no more among those that are left
  have hgone : ((left ++ name :: right).filter fun s => s ≠ name).Sublist (left ++ right) := by
    rw [List.filter_append, List.filter_cons_of_neg (by simp)]
    exact (List.filter_sublist).append List.filter_sublist
  rw [hsplit, List.map_append, List.map_cons]
  refine Within.trans ?_ (.of_perm List.perm_middle)
  rw [← List.map_append]
  exact .cons _ (.of_sublist (hgone.map _))

theorem pending_append_within {name : String} (hcatalog : c'.catalog = c.catalog)
    (hincluded : c'.included = c.included ++ [name]) : Within c'.pending c.pending := by
  rw [pending, pending, hcatalog, hincluded]
  exact .flatMap_of_forall (openings_append_within c.included name)

/-- A configuration that is included by name is taken out of what is pending. -/
theorem cons_pending_within {name : String} {body : IncludeBody}
    (hbody : c.catalog.lookup? name = some (.inclusion body)) (hnew : name ∉ c.included)
    (hcatalog : c'.catalog = c.catalog) (hincluded : c'.included = c.included ++ [name]) :
    Within (sizeOf body :: c'.pending) c.pending := by
  obtain ⟨e, he, rfl, hname⟩ := Catalog.exists_inclusion_of_lookup? hbody
  rw [pending, pending, hcatalog, hincluded]
  exact .cons_flatMap he (cons_openings_within hname hnew)
    (openings_append_within c.included name)

/-- A configuration that is given a name is pending, in place of another of that name. -/
theorem pending_define {name : String} {body : IncludeBody}
    (hcatalog : c'.catalog = c.catalog.define name (.inclusion body))
    (hincluded : c'.included = c.included) :
    ∃ added kept, c'.pending.Perm (added ++ kept) ∧ Within kept c.pending ∧
      ∀ a ∈ added, a = sizeOf body := by
  obtain ⟨kept, hkept, hperm⟩ := c.catalog.inclusions_define_inclusion name body
  refine ⟨openings c.included (DottedName.canonical name, body),
    kept.flatMap (openings c.included), ?_, .flatMap _ hkept, fun a ha => ?_⟩
  · rw [pending, hcatalog, hincluded]
    exact hperm.flatMap_right (openings c.included)
  · obtain ⟨s, -, rfl⟩ := List.mem_map.1 ha
    rfl

/-! ## Steps -/

theorem size_lt_of_mem {ds : List Directive} {last t : Task} (hlast : last.size = 0)
    (h : t ∈ ds.map Task.perform ++ [last]) : t.size < 1 + sizeOf ds := by
  rcases List.mem_append.1 h with h | h
  · obtain ⟨d, hd, rfl⟩ := List.mem_map.1 h
    have hsize := List.sizeOf_lt_of_mem hd
    change sizeOf d < 1 + sizeOf ds
    omega
  · obtain rfl := List.mem_singleton.1 h
    omega

theorem size_lt_body {body : IncludeBody} {name : String} {s : Scope} {t : Task}
    (h : t ∈ body.directives.map Task.perform ++ [.leave name s]) : t.size < sizeOf body := by
  rcases body with ⟨opening, directives⟩
  exact IncludeBody.mk.sizeOf_spec opening directives ▸ size_lt_of_mem rfl h

theorem lighter_of_tasks {tasks : List Task} {size : Nat} {before : List Nat}
    (htasks : ∀ t ∈ tasks, t.size < size) (h : Within (size :: c'.pending) before) :
    Lighter (tasks.map Task.size ++ c'.pending) before := by
  refine ⟨size, c'.pending, tasks.map Task.size, h, .refl _, fun a ha => ?_⟩
  obtain ⟨t, ht, rfl⟩ := List.mem_map.1 ha
  exact htasks t ht

/-- What a directive leads to is lighter than what there was. -/
theorem start_lighter {d : Directive} {r : Except Error (List Task)} (h : Begun d c r c') :
    Lighter ((tasksOf r).map Task.size ++ c'.pending) (sizeOf d :: c.pending) := by
  cases h with
  | added h hr =>
    rw [hr]
    exact lighter_of_tasks nofun (.cons _ (pending_within_of_sameGround h.toSameGround))
  | committed hd h hactions hr =>
    rw [hr]
    exact lighter_of_tasks nofun (.cons _ (pending_within_of_sameGround h))
  | @named name absolute body hd =>
    subst hd
    let named := { c.counted with catalog := c.catalog.define absolute (.inclusion body) }
    obtain ⟨added, kept, hperm, hkept, hadded⟩ :
        ∃ added kept, named.pending.Perm (added ++ kept) ∧ Within kept c.pending ∧
          ∀ a ∈ added, a = sizeOf body := pending_define rfl rfl
    refine ⟨_, kept, added, .cons _ hkept, hperm, fun a ha => ?_⟩
    rw [hadded a ha, Directive.define.sizeOf_spec, Definition.inclusion.sizeOf_spec]
    omega
  | attempted hd h =>
    subst hd
    refine lighter_of_tasks (fun t ht => ?_) (.cons _ (pending_within_of_sameGround h.toSameGround))
    exact Directive.attempt.sizeOf_spec _ ▸ size_lt_of_mem rfl ht
  | @entered name body p t hnew hbody =>
    rcases hbody with rfl | ⟨⟨n, rfl⟩, hbody⟩
    · refine lighter_of_tasks (fun t ht => ?_) (.cons _ (pending_append_within rfl rfl))
      have hsize := size_lt_body ht
      rw [Directive.inclusion.sizeOf_spec]
      omega
    · -- the size that goes is that of what is included, not that of the directive
      refine lighter_of_tasks (fun t ht => size_lt_body ht) ?_
      let opened := { c.counted with included := c.included ++ [name] }
      have hwithin : Within (sizeOf body :: opened.pending) c.pending :=
        cons_pending_within hbody hnew rfl rfl
      exact hwithin.trans (.of_sublist (List.sublist_cons_self _ _))

end Configurator

end WebDispatch
