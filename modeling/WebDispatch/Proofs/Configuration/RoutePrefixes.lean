import Mathlib.Data.List.DropRight
import WebDispatch.Configuration.Configurator

/-!
# Route prefixes inside one another

However the prefixes of includes are written, with slashes at their ends or without, and some of
them not given or nothing but slashes: inside one another they are what is left of them between
the slashes, joined by single slashes, and no prefix where nothing is left.

* `RoutePrefix.joined` — prefixes inside one another, the outermost first;
* `RoutePrefix.compose_joined` — a further prefix inside them;
* `Scope.within`, `Scope.routePrefix_within` — the scope of includes inside one another.
-/

namespace WebDispatch

namespace RoutePrefix

open Text (trimBy trimEndBy trimStartBy trimEndChars joinWith joinWith_concat)

variable {given : List (Option String)} {p : Option String} {s whole : String}
  {cs ds : List Char}

/-- What is left of a prefix between the slashes at its ends. -/
def bare (p : Option String) : String := trimBy (· = '/') (p.getD "")

def parts (given : List (Option String)) : List String := (given.map bare).filter (· ≠ "")

/-- Prefixes inside one another, the outermost first. -/
def joined (given : List (Option String)) : Option String :=
  if parts given = [] then none else some (joinWith "/" (parts given))

/-! ## Trimming -/

structure Proper (s : String) : Prop where
  ne_empty : s ≠ ""
  head? : s.toList.head? ≠ some '/'
  getLast? : s.toList.getLast? ≠ some '/'

theorem dropWhile_append_of_head? (h : cs ≠ []) (hhead : cs.head? ≠ some '/') :
    (cs ++ ds).dropWhile (· = '/') = cs ++ ds := by
  cases cs with
  | nil => exact absurd rfl h
  | cons c cs =>
    have hc : c ≠ '/' := by simpa using hhead
    rw [List.cons_append, List.dropWhile_cons_of_neg (by simpa using hc)]

theorem trimEndChars_of_getLast? (h : cs.getLast? ≠ some '/') :
    trimEndChars (· = '/') cs = cs := by
  refine List.rdropWhile_eq_self_iff.mpr fun hne => ?_
  rw [List.getLast?_eq_some_getLast hne] at h
  simpa using h

theorem trimEndChars_append (p : Char → Bool) (cs ds : List Char) :
    trimEndChars p (cs ++ ds) =
      if trimEndChars p ds = [] then trimEndChars p cs else cs ++ trimEndChars p ds := by
  unfold trimEndChars
  rw [List.reverse_append, List.dropWhile_append]
  simp only [List.isEmpty_iff, List.reverse_eq_nil_iff]
  split
  · rfl
  · rw [List.reverse_append, List.reverse_reverse]

theorem head?_dropWhile_ne (cs : List Char) : (cs.dropWhile (· = '/')).head? ≠ some '/' := by
  intro h
  have hnot := List.head?_dropWhile_not (fun c : Char => c = '/') cs
  rw [h] at hnot
  simp at hnot

theorem getLast?_trimEndChars_ne (cs : List Char) :
    (trimEndChars (· = '/') cs).getLast? ≠ some '/' := by
  rw [trimEndChars, List.getLast?_reverse]
  exact head?_dropWhile_ne cs.reverse

theorem head?_trimEndChars (h : cs.head? ≠ some '/') :
    (trimEndChars (· = '/') cs).head? ≠ some '/' := by
  have hprefix : trimEndChars (· = '/') cs <+: cs := List.rdropWhile_prefix _ cs
  obtain ⟨rest, hrest⟩ := hprefix
  intro hhead
  apply h
  rw [← hrest, List.head?_append, hhead]
  rfl

theorem proper_trimBy (h : trimBy (· = '/') s ≠ "") : Proper (trimBy (· = '/') s) := by
  refine ⟨h, ?_, ?_⟩
  · rw [trimBy, String.toList_ofList]
    exact head?_trimEndChars (head?_dropWhile_ne _)
  · rw [trimBy, String.toList_ofList]
    exact getLast?_trimEndChars_ne _

/-! ## Prefixes inside one another -/

theorem normalize_eq (s : String) :
    normalize s = if trimBy (· = '/') s = "" then none else some (trimBy (· = '/') s) := rfl

theorem proper_of_normalize (h : normalize s = some whole) : Proper whole := by
  rw [normalize_eq] at h
  split at h
  · cases h
  · next hne =>
    obtain rfl := Option.some.inj h
    exact proper_trimBy hne

theorem compose_none (p : Option String) : compose none p = normalize (p.getD "") := by
  have htrim : trimBy (· = '/')
      (trimEndBy (· = '/') "" ++ "/" ++ trimStartBy (· = '/') (p.getD "")) =
        trimBy (· = '/') (p.getD "") := by
    have hchars : (trimEndBy (· = '/') "" ++ "/" ++ trimStartBy (· = '/') (p.getD "")).toList =
        '/' :: (p.getD "").toList.dropWhile (· = '/') := by
      simp [trimEndBy, trimEndChars, trimStartBy]
    rw [trimBy, trimBy, hchars, List.dropWhile_cons_of_pos (by simp), List.dropWhile_idempotent]
  rw [compose, Option.getD_none, normalize_eq, htrim, ← normalize_eq]

@[simp] theorem trimEndChars_slash_cons (ds : List Char) :
    trimEndChars (· = '/') ('/' :: ds) =
      if trimEndChars (· = '/') ds = [] then [] else '/' :: trimEndChars (· = '/') ds :=
  trimEndChars_append (· = '/') ['/'] ds

theorem Proper.trimEndBy_eq (h : Proper whole) : trimEndBy (· = '/') whole = whole := by
  rw [trimEndBy, trimEndChars_of_getLast? h.getLast?, String.ofList_toList]

theorem Proper.trimBy_behind (h : Proper whole) (p : Option String) :
    trimBy (· = '/') (whole ++ "/" ++ trimStartBy (· = '/') (p.getD "")) =
      if bare p = "" then whole else whole ++ "/" ++ bare p := by
  have hne : whole.toList ≠ [] := fun hnil => h.ne_empty (String.toList_eq_nil_iff.mp hnil)
  have hchars : (whole ++ "/" ++ trimStartBy (· = '/') (p.getD "")).toList =
      whole.toList ++ '/' :: (p.getD "").toList.dropWhile (· = '/') := by
    simp [trimStartBy]
  have hbare : (bare p).toList =
      trimEndChars (· = '/') ((p.getD "").toList.dropWhile (· = '/')) := String.toList_ofList
  rw [trimBy, hchars, dropWhile_append_of_head? hne h.head?, trimEndChars_append,
    trimEndChars_slash_cons, ← hbare, trimEndChars_of_getLast? h.getLast?]
  by_cases hempty : bare p = ""
  · have hnil : (bare p).toList = [] := String.toList_eq_nil_iff.mpr hempty
    rw [if_pos hempty, if_pos hnil, if_pos rfl, String.ofList_toList]
  · have hcons : (bare p).toList ≠ [] := fun hnil => hempty (String.toList_eq_nil_iff.mp hnil)
    rw [if_neg hempty, if_neg hcons, if_neg (List.cons_ne_nil _ _)]
    apply String.toList_inj.mp
    simp

/-- Inside a prefix the inner one comes behind it and a slash, if anything is left of it. -/
theorem compose_some (h : Proper whole) (p : Option String) :
    compose (some whole) p =
      some (if bare p = "" then whole else whole ++ "/" ++ bare p) := by
  rw [compose, Option.getD_some, h.trimEndBy_eq, normalize_eq, h.trimBy_behind, if_neg]
  split
  · exact h.ne_empty
  · intro hnil
    have hchars := congrArg String.toList hnil
    simp at hchars

@[simp] theorem parts_concat (given : List (Option String)) (p : Option String) :
    parts (given ++ [p]) = parts given ++ if bare p = "" then [] else [bare p] := by
  rw [parts, List.map_append, List.filter_append, ← parts]
  by_cases h : bare p = ""
  · simp [h]
  · simp [h]

theorem joined_concat (given : List (Option String)) (p : Option String) :
    joined (given ++ [p]) = match joined given with
      | none => normalize (p.getD "")
      | some whole => some (if bare p = "" then whole else whole ++ "/" ++ bare p) := by
  unfold joined
  rw [parts_concat]
  by_cases hgiven : parts given = []
  · rw [if_pos hgiven, hgiven, List.nil_append]
    change _ = if bare p = "" then none else some (bare p)
    split <;> rfl
  · rw [if_neg hgiven, if_neg (by simp [hgiven])]
    split
    · rw [List.append_nil]
    · rw [joinWith_concat hgiven]

theorem proper_of_joined (h : joined given = some whole) : Proper whole := by
  induction given using List.reverseRecOn generalizing whole with
  | nil => cases h
  | append_singleton given p ih =>
    rw [joined_concat] at h
    cases hgiven : joined given with
    | none =>
      rw [hgiven] at h
      exact proper_of_normalize h
    | some outer =>
      rw [hgiven] at h
      exact proper_of_normalize ((compose_some (ih hgiven) p).trans h)

/-- **Prefixes compose.** A prefix composed with those around it is all of them joined. -/
theorem compose_joined (given : List (Option String)) (p : Option String) :
    compose (joined given) p = joined (given ++ [p]) := by
  rw [joined_concat]
  cases hgiven : joined given with
  | none => exact compose_none p
  | some whole => exact compose_some (proper_of_joined hgiven) p

example : compose (joined [some "/api//", none, some "//"]) (some "//v1/users") =
    some "api/v1/users" := by decide +kernel

/-- The prefix that a configuration begins with, if one is given. -/
theorem joined_singleton (initial : Option String) : joined [initial] = initial.bind normalize := by
  have hjoined : joined [initial] = normalize (initial.getD "") := joined_concat [] initial
  rw [hjoined]
  cases initial with
  | none => decide +kernel
  | some s => rfl

end RoutePrefix

def Scope.within (s : Scope) (chain : List (String × Option String)) : Scope :=
  chain.foldl (fun s i => s.inside i.1 i.2) s

@[simp] theorem Scope.within_concat (s : Scope) (chain : List (String × Option String))
    (i : String × Option String) : s.within (chain ++ [i]) = (s.within chain).inside i.1 i.2 := by
  rw [Scope.within, List.foldl_append]
  rfl

theorem Scope.routePrefix_within {s : Scope} {given : List (Option String)}
    (h : s.routePrefix = RoutePrefix.joined given) (chain : List (String × Option String)) :
    (s.within chain).routePrefix = RoutePrefix.joined (given ++ chain.map Prod.snd) := by
  induction chain using List.reverseRecOn with
  | nil =>
    rw [Scope.within, List.foldl_nil, List.map_nil, List.append_nil]
    exact h
  | append_singleton chain i ih =>
    rw [Scope.within_concat, Scope.inside, ih, RoutePrefix.compose_joined, List.map_append,
      List.append_assoc]
    rfl

end WebDispatch
