import WebDispatch.Path.Segments

/-!
# What segments hold

Whatever stands in a path, its segments can be read as nothing but names: none of them is empty, a
dot or two, and none holds a slash. So they are the segments of the path that they make up, with a
slash in front of it or not.
-/

namespace WebDispatch.Path

variable {done raw : List String} {path segment : String}

/-- One step keeps nothing but proper segments, and makes up none. -/
theorem mem_resolveStep (hdone : ∀ s ∈ done, isProper s = true) {raw : String}
    (h : segment ∈ resolveStep done raw) :
    isProper segment = true ∧ (segment ∈ done ∨ segment = raw) := by
  rcases kind_of_raw raw with hraw | rfl | hraw
  · rw [resolveStep_of_dropped hraw] at h
    exact ⟨hdone segment h, Or.inl h⟩
  · have hmem : segment ∈ done := List.mem_of_mem_tail h
    exact ⟨hdone segment hmem, Or.inl hmem⟩
  · rw [resolveStep_of_proper hraw] at h
    rcases List.mem_cons.mp h with rfl | h
    · exact ⟨hraw, Or.inr rfl⟩
    · exact ⟨hdone segment h, Or.inl h⟩

/-- Resolving keeps nothing but proper segments, and makes up none. -/
theorem mem_resolve (hdone : ∀ s ∈ done, isProper s = true) (h : segment ∈ resolve done raw) :
    isProper segment = true ∧ (segment ∈ done ∨ segment ∈ raw) := by
  induction raw generalizing done with
  | nil => exact ⟨hdone segment h, Or.inl h⟩
  | cons s raw ih =>
      rw [resolve_cons] at h
      obtain ⟨hproper, hmem⟩ := ih (fun t ht => (mem_resolveStep hdone ht).1) h
      refine ⟨hproper, ?_⟩
      rcases hmem with hmem | hmem
      · rcases (mem_resolveStep hdone hmem).2 with hmem | rfl
        · exact Or.inl hmem
        · exact Or.inr List.mem_cons_self
      · exact Or.inr (List.mem_cons_of_mem s hmem)

theorem mem_segments (h : segment ∈ segments path) :
    isProper segment = true ∧ '/' ∉ segment.toList := by
  rw [segments, List.mem_reverse] at h
  obtain ⟨hproper, hmem⟩ := mem_resolve (fun s hs => absurd hs List.not_mem_nil) h
  refine ⟨hproper, ?_⟩
  rcases hmem with hmem | hmem
  · exact absurd hmem List.not_mem_nil
  · exact Text.not_mem_of_mem_splitOn hmem

/-! ## Segments of segments -/

theorem splitOn_slash_append (path : String) :
    Text.splitOn '/' ("/" ++ path) = "" :: Text.splitOn '/' path :=
  Text.splitOn_append '/' "" path

/-- A slash in front makes no difference. -/
@[simp] theorem segments_slash_append (path : String) : segments ("/" ++ path) = segments path := by
  rw [segments, splitOn_slash_append]
  rfl

@[simp] theorem segments_joinWith_segments (path : String) :
    segments (Text.joinWith "/" (segments path)) = segments path := by
  apply segments_joinWith
  intro segment hsegment
  exact mem_segments hsegment

end WebDispatch.Path
