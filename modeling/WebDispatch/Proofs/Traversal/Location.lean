import Mathlib.Data.List.Induction
import WebDispatch.Proofs.Text.Escapes
import WebDispatch.Proofs.Traversal.CapturedPath

/-!
# Resources that know their place

A tree of resources knows its places when every resource below another is named by the key under
which it is found, and has that other one for its parent. Then the way down, by keys, and the way
up, by parents, are the same: a traversal leads to the resource whose path is what was walked, and
the path of a resource leads back to it.

* `LocationAware` — trees that know their places; `Tree.NamedByKeys.locationAware` — it is enough
  that the names are the keys;
* `LocationAware.of_descend` — a resource is named by the keys that lead to it;
* `follow_of_walk` — where all segments can be walked, following them is walking them.
-/

namespace WebDispatch

namespace Resource

variable {root r c : Resource} {key : String} {keys : List String}

/-- The resource has no parent, and every child in its tree is named by the key under which it is
found and has the resource on which it is found for its parent. -/
structure LocationAware (root : Resource) : Prop where
  no_parent : root.parent? = none
  child : ∀ keys r key c, root.descend keys = .ok r → r.child? key = some c →
    c.name = some key ∧ c.parent? = some r

/-! ## Down by keys -/

theorem descend_concat_iff :
    root.descend (keys ++ [key]) = .ok c ↔
      ∃ r, root.descend keys = .ok r ∧ r.child? key = some c := by
  have hone : ∀ r : Resource, r.descend [key] = .ok c ↔ r.child? key = some c := by
    intro r
    rw [descend]
    cases r.child? key with
    | none => simp
    | some next => simp [descend]
  induction keys generalizing root with
  | nil =>
      rw [List.nil_append, hone]
      simp [descend]
  | cons first keys ih =>
      rw [List.cons_append, descend, descend]
      cases root.child? first with
      | none => simp
      | some next => exact ih

/-! ## Up by parents -/

theorem parent?_of_child? (h : r.child? key = some c) : c.parent? = some r := by
  cases r with
  | node n =>
      obtain ⟨below, hbelow, rfl⟩ := Option.map_eq_some_iff.mp h
      obtain ⟨t, -, rfl⟩ := Option.map_eq_some_iff.mp hbelow
      rfl
  | defaultRoot _ => cases h
  | failure _ => cases h

theorem lineage_of_no_parent (h : r.parent? = none) : r.lineage = [r] := by
  rcases r with ⟨t, _ | ⟨p, rest⟩⟩ | _ | _
  · rfl
  · cases h
  · rfl
  · rfl

theorem lineage_of_parent (h : c.parent? = some r) : c.lineage = c :: r.lineage := by
  rcases c with ⟨t, _ | ⟨p, rest⟩⟩ | _ | _
  · cases h
  · obtain rfl := Option.some.inj h
    rfl
  · cases h
  · cases h

theorem lineage_ne_nil (r : Resource) : r.lineage ≠ [] := by
  cases hparent : r.parent? with
  | none => simp [lineage_of_no_parent hparent]
  | some p => simp [lineage_of_parent hparent]

theorem pathSegments_of_no_parent (h : r.parent? = none) : r.pathSegments = [] := by
  simp [pathSegments, lineage_of_no_parent h, h]

theorem pathSegments_of_parent (h : c.parent? = some r) :
    c.pathSegments = r.pathSegments ++ [c.name.getD ""] := by
  simp [pathSegments, lineage_of_parent h, h]

theorem root_of_no_parent (h : r.parent? = none) : r.root = r := by
  simp [Resource.root, lineage_of_no_parent h]

theorem root_of_parent (h : c.parent? = some r) : c.root = r.root := by
  obtain ⟨first, rest, hlineage⟩ := List.exists_cons_of_ne_nil (lineage_ne_nil r)
  simp [Resource.root, lineage_of_parent h, hlineage, List.getLast?_cons]

/-! ## Down and up -/

/-- A resource is named by the keys that lead to it, and the way up from it ends where these
began. -/
theorem LocationAware.of_descend (h : root.LocationAware) (hr : root.descend keys = .ok r) :
    r.pathSegments = keys ∧ r.root = root := by
  induction keys using List.reverseRecOn generalizing r with
  | nil =>
      obtain rfl := Except.ok.inj hr
      exact ⟨pathSegments_of_no_parent h.no_parent, root_of_no_parent h.no_parent⟩
  | append_singleton keys key ih =>
      obtain ⟨above, habove, hchild⟩ := descend_concat_iff.mp hr
      obtain ⟨hname, hparent⟩ := h.child keys above key r habove hchild
      obtain ⟨hsegments, hroot⟩ := ih habove
      constructor
      · rw [pathSegments_of_parent hparent, hsegments, hname, Option.getD_some]
      · rw [root_of_parent hparent, hroot]

end Resource

/-! ## Trees whose names are keys -/

namespace Tree

/-- All that lies below a tree is named by its keys. -/
inductive NamedByKeys : Tree → Prop where
  | mk {t : Tree} (hname : ∀ c ∈ t.children, c.name = some c.key)
    (hbelow : ∀ c ∈ t.children, NamedByKeys c) : NamedByKeys t

theorem NamedByKeys.of_child? {t : Tree} {above : List Tree} {key : String} {c : Resource}
    (h : NamedByKeys t) (hchild : (Resource.node ⟨t, above⟩).child? key = some c) :
    ∃ below above', c = .node ⟨below, above'⟩ ∧ below.name = some key ∧ NamedByKeys below := by
  obtain ⟨n, hn, rfl⟩ := Option.map_eq_some_iff.mp hchild
  obtain ⟨below, hbelow, rfl⟩ := Option.map_eq_some_iff.mp hn
  have hmem : below ∈ t.children := List.mem_of_find?_eq_some hbelow
  have hkey : below.key = key := by simpa using List.find?_some hbelow
  cases h with
  | mk hname hnamed => exact ⟨below, t :: above, rfl, hkey ▸ hname below hmem, hnamed below hmem⟩

theorem NamedByKeys.of_descend {keys : List String} {t : Tree} {above : List Tree} {r : Resource}
    (h : NamedByKeys t) (hr : (Resource.node ⟨t, above⟩).descend keys = .ok r) :
    ∃ below above', r = .node ⟨below, above'⟩ ∧ NamedByKeys below := by
  induction keys generalizing t above with
  | nil =>
      obtain rfl := Except.ok.inj hr
      exact ⟨t, above, rfl, h⟩
  | cons key keys ih =>
      rw [Resource.descend] at hr
      split at hr
      · next c hchild =>
          obtain ⟨below, above', rfl, -, hbelow⟩ := h.of_child? hchild
          exact ih hbelow hr
      · cases hr

/-- A tree knows its places if its names are its keys, for parents are what encloses a place. -/
theorem NamedByKeys.locationAware {t : Tree} (h : NamedByKeys t) :
    (Resource.ofTree t).LocationAware where
  no_parent := rfl
  child := by
    intro keys r key c hr hchild
    obtain ⟨below, above, rfl, hbelow⟩ := h.of_descend hr
    obtain ⟨t', above', rfl, hname, -⟩ := hbelow.of_child? hchild
    exact ⟨hname, Resource.parent?_of_child? hchild⟩

end Tree

namespace Traversal

variable {root r last : Resource} {request : Request} {key : String} {keys segments : List String}

/-! ## Walks -/

/-- A walk goes down by keys, none of which begins with the mark of a view. -/
theorem walk_iff_descend :
    Walk root keys last ↔
      root.descend keys = .ok last ∧ ∀ key ∈ keys, Text.startsWith key viewMark = false := by
  constructor
  · intro h
    induction h with
    | nil r => exact ⟨rfl, fun _ hkey => absurd hkey List.not_mem_nil⟩
    | cons hmark hchild _ ih =>
        rw [Resource.descend, hchild]
        exact ⟨ih.1, List.forall_mem_cons.mpr ⟨hmark, ih.2⟩⟩
  · rintro ⟨hdescend, hmarks⟩
    induction keys generalizing root with
    | nil =>
        obtain rfl := Except.ok.inj hdescend
        exact Walk.nil root
    | cons key keys ih =>
        obtain ⟨hmark, hmarks⟩ := List.forall_mem_cons.mp hmarks
        rw [Resource.descend] at hdescend
        split at hdescend
        · next next hchild => exact Walk.cons hmark hchild (ih hdescend hmarks)
        · cases hdescend

/-- Where all segments can be walked, they are followed to where they lead. -/
theorem follow_of_walk (h : Walk r segments last) :
    (follow r segments).last r = last ∧ (follow r segments).viewName = none := by
  obtain ⟨hwalk, ⟨hview, hall, -⟩ | ⟨s, view, -, hnames, hsplit⟩⟩ := follow_spec r segments
  · rw [← hall] at hwalk
    exact ⟨hwalk.unique h, hview⟩
  · rw [hsplit] at h
    obtain ⟨mid, hmid, hrest⟩ := h.of_append
    rw [hmid.unique hwalk] at hrest
    exact absurd hrest hnames.not_walk

/-- Without a virtual root, what counts as consumed is what was walked. -/
theorem walk_traversed (hheader : request.header? virtualRootHeader = none) :
    Walk root (traverse root request).traversed (traverse root request).context := by
  have houter := outerSegments_of_no_header hheader
  obtain ⟨hwalk, hends⟩ := follow_spec root (wholeSegments request)
  rw [traverse_eq rfl, houter]
  rcases hends with ⟨hview, hall, -⟩ | ⟨s, view, hview, -, hsplit⟩
  · simp only [hview, Option.isNone_none, if_true]
    rwa [← hall] at hwalk
  · simp only [hview, Option.isNone_some, Bool.false_eq_true, if_false, List.length_nil,
      Nat.zero_add]
    have htake : (wholeSegments request).take (follow root (wholeSegments request)).walked.length =
        (follow root (wholeSegments request)).walked :=
      (List.prefix_iff_eq_take.mp (walked_begins root (wholeSegments request))).symm
    rwa [htake]

/-! ## Paths of resources -/

/-- A key that a path can hold as a segment, and that names no view. -/
structure PathKey (key : String) : Prop where
  proper : Path.isProper key = true
  unmarked : Text.startsWith key viewMark = false
  noSlash : '/' ∉ key.toList

theorem segments_path (h : root.LocationAware) (hr : root.descend keys = .ok r)
    (hkeys : ∀ key ∈ keys, PathKey key) : Path.segments r.path = keys := by
  have hnames : r.pathSegments = keys := (h.of_descend hr).1
  rw [Resource.path, Path.segments_slash_append, hnames]
  apply Path.segments_joinWith
  intro key hkey
  exact ⟨(hkeys key hkey).proper, (hkeys key hkey).noSlash⟩

/-- A request for the path of a resource leads to this resource. -/
theorem traverse_path (h : root.LocationAware) (hr : root.descend keys = .ok r)
    (hkeys : ∀ key ∈ keys, PathKey key) (hheader : request.header? virtualRootHeader = none)
    (hmatch : request.matchdict = none) (hpath : request.pathInfo = r.path) :
    (traverse root request).context = r ∧ (traverse root request).viewName = "" := by
  have hwhole : wholeSegments request = keys := by
    rw [wholeSegments_of_no_header hheader, segments_ownPath_of_none hmatch, hpath,
      segments_path h hr hkeys]
  have hwalk : Walk root keys r :=
    walk_iff_descend.mpr ⟨hr, fun key hkey => (hkeys key hkey).unmarked⟩
  obtain ⟨hlast, hview⟩ := follow_of_walk hwalk
  rw [traverse_eq (congrArg (follow root) hwhole)]
  exact ⟨hlast, by simp only [hview, Option.getD_none]⟩

/-- A request that asks for a path, with all in it escaped that must be. -/
def requestFor (path : String) : Request := { target := { rawPath := Text.quotePath path } }

@[simp] theorem pathInfo_requestFor (path : String) : (requestFor path).pathInfo = path := by
  have htarget : (requestFor path).target.path = Text.quotePath path := by
    simp [requestFor, Http.Target.path]
  rw [Request.pathInfo, htarget]
  exact (Text.standsFor_quotePath path).percentDecode_eq

/-- **Walking down and naming up.** In a tree that knows its places, whatever is asked for without a
virtual root, the names on the way up from the context are the segments walked down to it, and the
way up ends at the root. So the path of a resource leads back to it, by the empty view name, if the
keys on the way to it can stand in a path; and there is a request for that path. -/
theorem walked_as_named (h : root.LocationAware) :
    (∀ request : Request, request.header? virtualRootHeader = none →
      Walk root (traverse root request).traversed (traverse root request).context ∧
        (traverse root request).context.pathSegments = (traverse root request).traversed ∧
        (traverse root request).context.root = root) ∧
      ∀ keys r, root.descend keys = .ok r → (∀ key ∈ keys, PathKey key) →
        (∀ request : Request, request.header? virtualRootHeader = none → request.matchdict = none →
          request.pathInfo = r.path →
          (traverse root request).context = r ∧ (traverse root request).viewName = "") ∧
        (requestFor r.path).pathInfo = r.path := by
  constructor
  · intro request hheader
    have hwalk : Walk root (traverse root request).traversed (traverse root request).context :=
      walk_traversed hheader
    exact ⟨hwalk, h.of_descend (walk_iff_descend.mp hwalk).1⟩
  · intro keys r hr hkeys
    refine ⟨?_, pathInfo_requestFor r.path⟩
    intro request hheader hmatch hpath
    exact traverse_path h hr hkeys hheader hmatch hpath

def library : Tree :=
  .mk (.type "Folder") "" (some "") []
    [.mk (.type "Folder") "shelf 1" (some "shelf 1") []
      [.mk (.type "Book") "100%" (some "100%") [] []]]

theorem namedByKeys_library : library.NamedByKeys := by
  have hleaf : ∀ t : Tree, t.children = [] → t.NamedByKeys := by
    intro t ht
    constructor <;> simp [ht]
  constructor
  · simp [library, Tree.children, Tree.name, Tree.key]
  · simp only [library, Tree.children, List.mem_singleton, forall_eq]
    constructor
    · simp [Tree.children, Tree.name, Tree.key]
    · simp only [Tree.children, List.mem_singleton, forall_eq]
      exact hleaf _ rfl

/-- The book is found again by its path, though this has escapes in it. -/
theorem book_walked_as_named :
    ∃ book, (Resource.ofTree library).descend ["shelf 1", "100%"] = .ok book ∧
      book.path = "/shelf 1/100%" ∧
      Text.quotePath book.path = "/shelf%201/100%25" ∧
      (traverse (.ofTree library) (requestFor book.path)).context = book := by
  refine ⟨_, rfl, rfl, by decide, ?_⟩
  have hkeys : ∀ key ∈ ["shelf 1", "100%"], PathKey key := by
    simp only [List.forall_mem_cons]
    exact ⟨⟨by decide, by decide, by decide⟩, ⟨by decide, by decide, by decide⟩, by simp⟩
  obtain ⟨hback, hpath⟩ :=
    (walked_as_named namedByKeys_library.locationAware).2 ["shelf 1", "100%"] _ rfl hkeys
  exact (hback _ rfl rfl hpath).1

end Traversal

end WebDispatch
