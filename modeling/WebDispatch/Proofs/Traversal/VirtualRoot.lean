import Mathlib.Data.List.Induction
import WebDispatch.Proofs.Path.Resolution
import WebDispatch.Proofs.Traversal.LongestWalk

/-!
# Staying below a virtual root

A request may name a virtual root, and is to be answered from there: the reported virtual root is
the resource that the segments of its path lead to, and the context lies at or below it. But the two
paths are put together before `..` is resolved, and with no slash between them. So the request stays
below the virtual root exactly when the segments of that root begin those of the whole path
(`confined_iff_outer_begins`); a `..` of its own path can take them back.

* `Walk.eq_of_same_end` — a resource is reached from another by one list of segments at most;
* `segments_append` — what a path does to the segments in front of it.
-/

namespace WebDispatch

namespace Path

/-- A path that begins with a slash, put behind another, keeps a beginning of the segments of that
and adds its own; without `..` it keeps them all. -/
theorem segments_append {path : String} (outer : String)
    (hslash : Text.startsWith path "/" = true) :
    ∃ kept, kept <+: segments outer ∧ segments (outer ++ path) = kept ++ segments path ∧
      (".." ∉ Text.splitOn '/' path → kept = segments outer) := by
  obtain ⟨tail, rfl⟩ : ∃ tail, path = "/" ++ tail := by
    obtain ⟨tail, htail⟩ := List.isPrefixOf_iff_prefix.mp hslash
    exact ⟨String.ofList tail, String.toList_inj.mp (by rw [← htail]; simp)⟩
  refine ⟨(segments outer).rdrop (ascent (Text.splitOn '/' tail)), List.take_prefix _ _, ?_, ?_⟩
  · rw [← String.append_assoc, segments_append_slash_eq_rdrop, segments_slash_append]
  · intro hnone
    rw [splitOn_slash_append] at hnone
    have hcount := ascent_le_count (Text.splitOn '/' tail)
    rw [List.count_eq_zero_of_not_mem (mt (List.mem_cons_of_mem "") hnone)] at hcount
    rw [Nat.le_zero.mp hcount, List.rdrop_zero]

end Path

namespace Resource

def depth : Resource → Nat
  | node n => n.above.length
  | defaultRoot _ | failure _ => 0

/-- A resource below another tells where it was found. -/
theorem eq_of_child? {r r' c : Resource} {key key' : String} (h : r.child? key = some c)
    (h' : r'.child? key' = some c) : r = r' ∧ key = key' := by
  have hnode : ∀ {r : Resource} {key : String}, r.child? key = some c →
      ∃ n t, r = node n ∧ t.key = key ∧ c = node ⟨t, n.tree :: n.above⟩ := by
    intro r key h
    cases r with
    | node n =>
        obtain ⟨below, hbelow, rfl⟩ := Option.map_eq_some_iff.mp h
        obtain ⟨t, ht, rfl⟩ := Option.map_eq_some_iff.mp hbelow
        exact ⟨n, t, rfl, by simpa using List.find?_some ht, rfl⟩
    | defaultRoot _ => cases h
    | failure _ => cases h
  obtain ⟨n, t, rfl, rfl, rfl⟩ := hnode h
  obtain ⟨n', t', rfl, rfl, hc⟩ := hnode h'
  injection hc with hc
  injection hc with htree habove
  injection habove with htree' habove'
  subst htree
  exact ⟨congrArg node (by cases n; cases n'; simp_all), rfl⟩

theorem depth_of_child? {r c : Resource} {key : String} (h : r.child? key = some c) :
    c.depth = r.depth + 1 := by
  cases r with
  | node n =>
      obtain ⟨below, hbelow, rfl⟩ := Option.map_eq_some_iff.mp h
      obtain ⟨t, -, rfl⟩ := Option.map_eq_some_iff.mp hbelow
      rfl
  | defaultRoot _ => cases h
  | failure _ => cases h

end Resource

namespace Traversal

namespace Walk

variable {r mid last : Resource} {xs ys : List String} {s : String}

theorem append (h : Walk r xs mid) (h' : Walk mid ys last) : Walk r (xs ++ ys) last := by
  induction h with
  | nil r => exact h'
  | cons hmark hchild _ ih => exact cons hmark hchild (ih h')

theorem depth_eq (h : Walk r xs last) : last.depth = r.depth + xs.length := by
  induction h with
  | nil r => rfl
  | cons _ hchild _ ih =>
      rw [ih, Resource.depth_of_child? hchild, List.length_cons]
      omega

theorem of_concat (h : Walk r (xs ++ [s]) last) :
    ∃ mid, Walk r xs mid ∧ mid.child? s = some last := by
  obtain ⟨mid, hmid, hlast⟩ := h.of_append
  cases hlast with
  | cons _ hchild hend =>
      cases hend
      exact ⟨mid, hmid, hchild⟩

/-- Different segments lead to different resources: each tells under which key it was found, and
where. -/
theorem eq_of_same_end (h : Walk r xs last) (h' : Walk r ys last) : xs = ys := by
  have hlength : xs.length = ys.length := by
    have hdepth := h.depth_eq.symm.trans h'.depth_eq
    omega
  induction xs using List.reverseRecOn generalizing ys last with
  | nil => exact (List.length_eq_zero_iff.mp hlength.symm).symm
  | append_singleton xs x ih =>
      rcases List.eq_nil_or_concat ys with rfl | ⟨ys, y, rfl⟩
      · simp at hlength
      · rw [List.concat_eq_append] at h' hlength ⊢
        obtain ⟨mid, hxs, hx⟩ := h.of_concat
        obtain ⟨mid', hys, hy⟩ := h'.of_concat
        obtain ⟨rfl, rfl⟩ := Resource.eq_of_child? hx hy
        rw [ih hxs hys (by simpa using hlength)]

end Walk

/-! ## Confinement -/

/-- A request stays below a virtual root: that is the one reported, and its context is reached from
there. -/
def Confined (root virtualRoot : Resource) (request : Request) : Prop :=
  (traverse root request).virtualRoot = virtualRoot ∧
    ∃ further, Walk virtualRoot further (traverse root request).context

theorem outerSegments_eq (request : Request) :
    outerSegments request = Path.segments ((virtualRootPath? request).getD "") := by
  unfold outerSegments
  cases virtualRootPath? request with
  | none => rfl
  | some path => rfl

theorem walk_context (root : Resource) (request : Request) :
    Walk root (follow root (wholeSegments request)).walked (traverse root request).context := by
  rw [traverse_eq rfl]
  exact (follow_spec root (wholeSegments request)).1

/-- Where the segments of the virtual root are among those walked, the reported one is the resource
that they lead to. -/
theorem virtualRoot_of_walked {root virtualRoot : Resource} {request : Request}
    (hroot : Walk root (outerSegments request) virtualRoot)
    (hwalked : outerSegments request <+: (follow root (wholeSegments request)).walked) :
    (traverse root request).virtualRoot = virtualRoot := by
  rw [traverse_eq rfl]
  obtain ⟨x, hx, hwalk⟩ :=
    passed_follow root (wholeSegments request) (outerSegments request).length hwalked.length_le
  rw [← List.prefix_iff_eq_take.mp hwalked] at hwalk
  simp only [if_neg (Nat.not_lt.mpr hwalked.length_le), hx, Option.getD_some]
  exact hwalk.unique hroot

/-- The context is below the virtual root only by way of its segments. -/
theorem walked_eq_of_below {root virtualRoot : Resource} {request : Request} {further : List String}
    (hroot : Walk root (outerSegments request) virtualRoot)
    (hfurther : Walk virtualRoot further (traverse root request).context) :
    (follow root (wholeSegments request)).walked = outerSegments request ++ further :=
  (walk_context root request).eq_of_same_end (hroot.append hfurther)

theorem confined_iff {root virtualRoot : Resource} {request : Request}
    (hroot : Walk root (outerSegments request) virtualRoot) :
    Confined root virtualRoot request ↔ outerSegments request <+: wholeSegments request := by
  constructor
  · rintro ⟨-, further, hfurther⟩
    have hwalked := walked_eq_of_below hroot hfurther
    exact List.IsPrefix.trans ⟨further, hwalked.symm⟩ (walked_begins root (wholeSegments request))
  · intro hbegins
    have hwalked := follow_longest hbegins hroot
    refine ⟨virtualRoot_of_walked hroot hwalked, ?_⟩
    obtain ⟨further, hfurther⟩ := hwalked
    have hcontext := walk_context root request
    rw [← hfurther] at hcontext
    obtain ⟨mid, hmid, hrest⟩ := hcontext.of_append
    rw [hmid.unique hroot] at hrest
    exact ⟨further, hrest⟩

/-- Below the virtual root, a path that begins with a slash goes on along its own segments. -/
theorem infix_of_below {root virtualRoot : Resource} {request : Request} {further : List String}
    (hroot : Walk root (outerSegments request) virtualRoot)
    (hslash : Text.startsWith (ownPath request) "/" = true)
    (hfurther : Walk virtualRoot further (traverse root request).context) :
    further <:+: Path.segments (ownPath request) := by
  obtain ⟨kept, hkept, hwhole, -⟩ :=
    Path.segments_append ((virtualRootPath? request).getD "") hslash
  rw [← outerSegments_eq] at hkept
  have hwalked : outerSegments request ++ further <+: kept ++ Path.segments (ownPath request) := by
    rw [← walked_eq_of_below hroot hfurther, ← hwhole, ← wholePath_eq]
    exact walked_begins root (wholeSegments request)
  -- what follows the virtual root's segments in the whole path is an end of the path's own
  obtain ⟨lost, hlost⟩ := hkept
  rw [← hlost, List.append_assoc, List.prefix_append_right_inj] at hwalked
  obtain ⟨rest, hrest⟩ := hwalked
  exact ⟨lost, rest, hrest⟩

/-- **Staying below the virtual root.** Where the path of the virtual root can be walked, a request
stays below it exactly when its segments begin those of the whole path. If the request's own path
begins with a slash, it goes on from there along its own segments, and it stays below in any case
where it has no `..`. -/
theorem confined_iff_outer_begins {root virtualRoot : Resource} {request : Request}
    (hroot : Walk root (outerSegments request) virtualRoot) :
    (Confined root virtualRoot request ↔ outerSegments request <+: wholeSegments request) ∧
      (Text.startsWith (ownPath request) "/" = true →
        (∀ further, Walk virtualRoot further (traverse root request).context →
          further <:+: Path.segments (ownPath request)) ∧
        (".." ∉ Text.splitOn '/' (ownPath request) → Confined root virtualRoot request)) := by
  refine ⟨confined_iff hroot, fun hslash => ⟨fun further => infix_of_below hroot hslash, ?_⟩⟩
  intro hnone
  obtain ⟨kept, -, hwhole, hall⟩ :=
    Path.segments_append ((virtualRootPath? request).getD "") hslash
  rw [confined_iff hroot, wholeSegments, wholePath_eq, hwhole, hall hnone, outerSegments_eq]
  exact List.prefix_append _ _

def sharedSite : Resource :=
  .ofTree (.mk (.type "Folder") "" none []
    [.mk (.type "Folder") "docs" none [] [], .mk (.type "Folder") "other" none [] []])

def hostedAt (path : String) : Request :=
  { target := { rawPath := path }, headers := [(virtualRootHeader, "/docs")] }

/-- A `..` that takes back a segment of the same path does no harm. -/
theorem confined_inner_step_back :
    ∃ docs, Walk sharedSite (outerSegments (hostedAt "/drafts/../other")) docs ∧
      Confined sharedSite docs (hostedAt "/drafts/../other") :=
  ⟨_, Walk.cons (by decide) rfl (Walk.nil _),
    (confined_iff_outer_begins (Walk.cons (by decide) rfl (Walk.nil _))).1.mpr (by decide)⟩

/-- A `..` at the beginning of the path takes the virtual root back, and what lies beside it is
reached. -/
theorem not_confined_outer_step_back :
    ∃ docs, Walk sharedSite (outerSegments (hostedAt "/../other")) docs ∧
      ¬ Confined sharedSite docs (hostedAt "/../other") := by
  refine ⟨_, Walk.cons (by decide) rfl (Walk.nil _), ?_⟩
  rw [confined_iff (Walk.cons (by decide) rfl (Walk.nil _))]
  decide

end Traversal

end WebDispatch
