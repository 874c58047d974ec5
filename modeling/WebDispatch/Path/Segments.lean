import WebDispatch.Text.Split

/-!
# Path segments

A path is split at its slashes. Empty segments and `.` are dropped, and `..` takes back the
segment before it, never more than there is.

* `Path.resolve` — continues a list of segments by raw ones;
* `Path.segments` — the segments of a path;
* `kind_of_raw` — the three things that a raw segment may do.

Segments that are neither dropped nor take one back make up a path that has them for its segments
(`segments_joinWith`).
-/

namespace WebDispatch.Path

/-- One raw segment after segments already resolved, the last of them first. -/
def resolveStep (done : List String) (segment : String) : List String :=
  if segment = "" || segment = "." then done
  else if segment = ".." then done.tail
  else segment :: done

/-- Resolves raw segments on top of resolved ones, the last of these first. -/
def resolve (done raw : List String) : List String := raw.foldl resolveStep done

/-- Resolving goes on from where it stopped. -/
@[simp] theorem resolve_append (done raw more : List String) :
    resolve done (raw ++ more) = resolve (resolve done raw) more :=
  List.foldl_append

def segments (path : String) : List String := (resolve [] (Text.splitOn '/' path)).reverse

/-- Whether a raw segment is one of the path it stands in, neither empty nor a dot or two. -/
def isProper (segment : String) : Bool := segment ≠ "" && segment ≠ "." && segment ≠ ".."

theorem isProper_iff {segment : String} :
    isProper segment = true ↔ segment ≠ "" ∧ segment ≠ "." ∧ segment ≠ ".." := by
  simp [isProper, and_assoc]

/-- A raw segment is dropped, takes one back, or is proper. -/
theorem kind_of_raw (segment : String) :
    (segment = "" ∨ segment = ".") ∨ segment = ".." ∨ isProper segment = true := by
  by_cases hdropped : segment = "" ∨ segment = "."
  · exact Or.inl hdropped
  · by_cases hback : segment = ".."
    · exact Or.inr (Or.inl hback)
    · rw [not_or] at hdropped
      exact Or.inr (Or.inr (isProper_iff.2 ⟨hdropped.1, hdropped.2, hback⟩))

theorem resolveStep_of_dropped {segment : String} (h : segment = "" ∨ segment = ".")
    (done : List String) : resolveStep done segment = done := by
  rcases h with rfl | rfl <;> rfl

@[simp] theorem resolveStep_back (done : List String) : resolveStep done ".." = done.tail := rfl

theorem resolveStep_of_proper {segment : String} (h : isProper segment = true)
    (done : List String) : resolveStep done segment = segment :: done := by
  obtain ⟨hempty, hdot, hback⟩ := isProper_iff.1 h
  simp [resolveStep, hempty, hdot, hback]

@[simp] theorem resolve_cons (done : List String) (segment : String) (raw : List String) :
    resolve done (segment :: raw) = resolve (resolveStep done segment) raw := rfl

/-- Proper segments are kept as they are. -/
theorem resolve_of_proper (done : List String) {raw : List String}
    (h : ∀ segment ∈ raw, isProper segment = true) : resolve done raw = raw.reverse ++ done := by
  induction raw generalizing done with
  | nil => rfl
  | cons segment raw ih =>
    rw [List.forall_mem_cons] at h
    rw [resolve_cons, resolveStep_of_proper h.1]
    exact (ih (segment :: done) h.2).trans (by simp)

/-- The segments of a path made up of proper ones. -/
theorem segments_joinWith {items : List String}
    (h : ∀ item ∈ items, isProper item = true ∧ '/' ∉ item.toList) :
    segments (Text.joinWith "/" items) = items := by
  cases items with
  | nil => rfl
  | cons item items =>
    have hsplit : Text.splitOn '/' (Text.joinWith "/" (item :: items)) = item :: items :=
      Text.splitOn_joinWith (List.cons_ne_nil item items) fun piece hpiece => (h piece hpiece).2
    rw [segments, hsplit, resolve_of_proper [] fun piece hpiece => (h piece hpiece).1,
      List.append_nil, List.reverse_reverse]

end WebDispatch.Path
