import WebDispatch.Proofs.Path.Source
import WebDispatch.Proofs.Path.Spelling

/-!
# The slash that a pattern begins with

A pattern stands for the same whether the slash that it begins with is written or not: it is read if
it is read without, and then the two match the same paths, with the same values, and generate the
same paths. They differ in how they are written, which only the texts of errors show.

* `Pattern.Alike` — patterns that match and generate the same;
* `splitStar_slash_cons` — a slash in front is no matter for the star at the end;
* `compile_slash_append` — a pattern with the slash written, and without.
-/

namespace WebDispatch

namespace Pattern

variable {p q : Pattern} {source text : String} {cs : List Char} {parts : List PatternPart}
  {values : MatchDict}

/-- Two patterns match the same paths, with the same values, and generate the same paths. -/
structure Alike (p q : Pattern) : Prop where
  match? : ∀ path, p.match? path = q.match? path
  generate : ∀ values path, p.generate values = .ok path ↔ q.generate values = .ok path

/-! ## How a pattern is written -/

theorem partPath_ok {part : PatternPart} (h : p.partPath values part = .ok text) (q : Pattern) :
    q.partPath values part = .ok text := by
  -- only what is said where a value is missing depends on the pattern
  cases part with
  | literal _ => exact h
  | field name expression =>
      obtain ⟨v, hv, rfl⟩ := Result.map_ok h
      have hvalue : q.value values name = .ok v := value_eq_ok_iff.mpr (value_eq_ok_iff.mp hv)
      rw [partPath, hvalue]
      rfl

theorem mapM_partPath_ok {texts : List String} (h : parts.mapM (p.partPath values) = .ok texts)
    (q : Pattern) : parts.mapM (q.partPath values) = .ok texts := by
  induction parts generalizing texts with
  | nil => exact h
  | cons part parts ih =>
      obtain ⟨text, texts, htext, htexts, rfl⟩ := Result.mapM_cons_ok h
      rw [List.mapM_cons, partPath_ok htext q, ih htexts]
      rfl

theorem generate_ok {path : String} (hparts : q.parts = p.parts)
    (hremainder : q.remainder = p.remainder) (h : p.generate values = .ok path) : q.generate values = .ok path := by
  obtain ⟨texts, htexts, hpath⟩ := generate_eq_ok_iff.mp h
  rw [← hremainder] at hpath
  refine generate_eq_ok_iff.mpr ⟨texts, ?_, hpath⟩
  rw [hparts]
  exact mapM_partPath_ok htexts q

/-- How a pattern is written is no matter for what it matches and generates. -/
theorem alike_of_source (p : Pattern) (source : String) : p.Alike { p with source := source } where
  match? _ := rfl
  generate _ _ := ⟨generate_ok rfl rfl, generate_ok rfl rfl⟩

/-! ## A slash in front -/

theorem splitStar_slash_cons (cs : List Char) :
    splitStar ('/' :: cs) = ('/' :: (splitStar cs).1, (splitStar cs).2) := by
  unfold splitStar
  rw [List.reverse_cons, List.takeWhile_append, List.length_reverse, List.length_cons]
  have hle : (cs.reverse.takeWhile (· ≠ '*')).length ≤ cs.length := by
    have hprefix : cs.reverse.takeWhile (· ≠ '*') <+: cs.reverse := List.takeWhile_prefix _
    have hlength := hprefix.length_le
    rw [List.length_reverse] at hlength
    exact hlength
  generalize cs.reverse.takeWhile (· ≠ '*') = name at hle ⊢
  by_cases hall : name.length = cs.length
  · -- without a star there is nothing to be split off, with the slash or not
    rw [if_pos hall]
    simp [hall]
  · have hlt : name.length < cs.length := by omega
    have hsucc : cs.length + 1 - name.length - 1 = (cs.length - name.length - 1) + 1 := by omega
    rw [if_neg hall]
    dsimp only
    rw [hsucc, List.take_succ_cons]
    simp only [hlt, Nat.lt_succ_of_lt hlt, decide_true, Bool.true_and]
    split <;> rfl

theorem head?_splitStar (h : cs.head? ≠ some '/') : (splitStar cs).1.head? ≠ some '/' := by
  intro hhead
  apply h
  rw [← splitStar_eq cs, List.head?_append, hhead]
  rfl

theorem withSlash_of_head? (h : cs.head? ≠ some '/') : withSlash cs = '/' :: cs := by
  unfold withSlash
  split
  · exact absurd rfl h
  · rfl

/-- A pattern is read with the slash that it begins with as it is without. -/
theorem compile_slash_append (h : source.toList.head? ≠ some '/') :
    (∃ e e', compile source = .error e ∧ compile ("/" ++ source) = .error e') ∨
      ∃ p, compile source = .ok p ∧
        compile ("/" ++ source) = .ok { p with source := "/" ++ source } := by
  have hchars : ("/" ++ source).toList = '/' :: source.toList := by simp
  have hslash : withSlash ('/' :: (splitStar source.toList).1) =
      withSlash (splitStar source.toList).1 := (withSlash_of_head? (head?_splitStar h)).symm
  unfold compile
  rw [hchars, splitStar_slash_cons]
  dsimp only
  rw [hslash]
  split
  · exact Or.inr ⟨_, rfl, rfl⟩
  · exact Or.inl ⟨_, _, rfl, rfl⟩

end Pattern

end WebDispatch
