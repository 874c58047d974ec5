import Mathlib.Data.List.Basic
import Mathlib.Data.List.TakeWhile
import WebDispatch.Configuration.DottedName

/-!
# Climbing from a package

A name that begins with dots or a colon is relative to a package. Its first dot is for the package
itself, and each further one leads one package up (`absolute_dots`), as long as there is one. So
climbing by some dots, and from where they lead by more, is climbing by all of them at once
(`absolute_dots_add`). What comes out is relative to nothing (`not_isRelative_of_absolute`).

* `DottedName.IsRelative`, `DottedName.IsPackage` — names that need a package, and packages;
* `DottedName.components`, `DottedName.followedBy` — a package taken apart, and a name put together;
* `exists_dots` — how many dots a name begins with, and what is behind them.
-/

namespace WebDispatch.DottedName

open Text (joinWith)

variable {name package rest first resolved : String} {others pieces : List String} {d : Nat}

def IsRelative (name : String) : Prop :=
  name.toList.head? = some '.' ∨ name.toList.head? = some ':'

instance : DecidablePred IsRelative := fun name =>
  inferInstanceAs (Decidable (name.toList.head? = some '.' ∨ name.toList.head? = some ':'))

/-- A package has a name, which is relative to nothing. -/
def IsPackage (package : String) : Prop := package ≠ "" ∧ ¬ IsRelative package

instance : DecidablePred IsPackage := fun package =>
  inferInstanceAs (Decidable (package ≠ "" ∧ ¬ IsRelative package))

def dots (d : Nat) : String := String.ofList (List.replicate d '.')

def components (package : String) : List String := Text.splitOn '.' package

/-- Components with something behind them: nothing, what begins with a colon of its own, or a
further component. -/
def followedBy (pieces : List String) (rest : String) : String :=
  if rest = "" then joinWith "." pieces
  else if rest.toList.head? = some ':' then joinWith "." pieces ++ rest
  else joinWith "." (pieces ++ [rest])

/-- What is wrong with a name that leads above its package. -/
def climbsAbove (name package : String) : Error :=
  .configuration
    ("relative name " ++ Text.quoted name ++ " climbs above package " ++ Text.quoted package)

theorem mapError_climbsAbove (name package : String) :
    (.error (climbsAbove name package) : Except Error String).mapError Error.kind =
      .error "Configuration" := rfl

/-! ## Components -/

theorem components_ne_nil (package : String) : components package ≠ [] :=
  Text.splitOn_ne_nil '.' package

@[simp] theorem joinWith_components (package : String) :
    joinWith "." (components package) = package :=
  Text.joinWith_splitOn '.' package

/-- The first components of a package are those of the package above it that they make up. -/
theorem components_joinWith_take (package : String) {n : Nat} (h : 0 < n) :
    components (joinWith "." ((components package).take n)) = (components package).take n := by
  apply Text.splitOn_joinWith
  · rw [ne_eq, List.take_eq_nil_iff, not_or]
    exact ⟨Nat.ne_of_gt h, components_ne_nil package⟩
  · intro piece hpiece
    exact Text.not_mem_of_mem_splitOn (List.mem_of_mem_take hpiece)

@[simp] theorem startsWith_colon_iff :
    Text.startsWith name ":" = true ↔ name.toList.head? = some ':' := by
  rw [Text.startsWith]
  cases name.toList with
  | nil => exact iff_of_false (by decide) (by decide)
  | cons c cs =>
      show (':' == c && true) = true ↔ some c = some ':'
      rw [Bool.and_true, beq_iff_eq, Option.some.injEq, eq_comm]

theorem join_joinWith (h : pieces ≠ []) (rest : String) :
    join (joinWith "." pieces) rest = followedBy pieces rest := by
  unfold join followedBy
  simp only [startsWith_colon_iff, Text.joinWith_concat h]

theorem exists_joinWith_cons (sep first : String) (others : List String) :
    ∃ tail, joinWith sep (first :: others) = first ++ tail := by
  refine ⟨joinWith sep ("" :: others), ?_⟩
  rw [← Text.joinWith_append_cons, String.append_empty]

theorem exists_followedBy_cons (first : String) (others : List String) (rest : String) :
    ∃ tail, followedBy (first :: others) rest = first ++ tail := by
  obtain ⟨tail, htail⟩ := exists_joinWith_cons "." first others
  unfold followedBy
  split
  · exact ⟨tail, htail⟩
  · split
    · exact ⟨tail ++ rest, by rw [htail, String.append_assoc]⟩
    · exact exists_joinWith_cons "." first (others ++ [rest])

theorem head?_append (h : first ≠ "") (tail : String) :
    (first ++ tail).toList.head? = first.toList.head? := by
  rw [String.toList_append, List.head?_append_of_ne_nil]
  exact mt String.toList_eq_nil_iff.mp h

/-- The first component of a package is not empty. -/
theorem IsPackage.exists_first (h : IsPackage package) :
    ∃ first others, components package = first :: others ∧ first ≠ "" := by
  obtain ⟨first, others, hcomponents⟩ := List.exists_cons_of_ne_nil (components_ne_nil package)
  refine ⟨first, others, hcomponents, ?_⟩
  rintro rfl
  have hjoin := joinWith_components package
  rw [hcomponents] at hjoin
  cases others with
  | nil => exact h.1 hjoin.symm
  | cons next others => exact h.2 (Or.inl (by rw [← hjoin]; simp [joinWith]))

/-- A name below a package, or below one above it, begins as the package does. -/
theorem IsPackage.head?_followedBy (h : IsPackage package) {n : Nat} (hn : 0 < n) (rest : String) :
    (followedBy ((components package).take n) rest).toList.head? = package.toList.head? := by
  obtain ⟨first, others, hcomponents, hfirst⟩ := h.exists_first
  obtain ⟨n, rfl⟩ := Nat.exists_eq_succ_of_ne_zero (Nat.ne_of_gt hn)
  obtain ⟨tail, htail⟩ := exists_followedBy_cons first (others.take n) rest
  obtain ⟨tail', htail'⟩ := exists_joinWith_cons "." first others
  have hpackage := joinWith_components package
  rw [hcomponents, htail'] at hpackage
  rw [hcomponents, List.take_succ_cons, htail, ← hpackage, head?_append hfirst, head?_append hfirst]

theorem climb?_eq (package : String) (levels : Nat) :
    climb? package levels =
      if levels < (components package).length then
        some (joinWith "." ((components package).take ((components package).length - levels)))
      else none := rfl

/-! ## Leading dots -/

@[simp] theorem toList_dots_append (d : Nat) (rest : String) :
    (dots d ++ rest).toList = List.replicate d '.' ++ rest.toList := by
  rw [String.toList_append, dots, String.toList_ofList]

theorem dots_add_append (d e : Nat) (rest : String) :
    dots d ++ (dots e ++ rest) = dots (d + e) ++ rest := by
  apply String.toList_inj.mp
  rw [toList_dots_append, toList_dots_append, toList_dots_append, ← List.append_assoc,
    List.replicate_append_replicate]

theorem takeWhile_dots_append (h : rest.toList.head? ≠ some '.') (d : Nat) :
    (dots d ++ rest).toList.takeWhile (· = '.') = List.replicate d '.' := by
  have hrest : rest.toList.takeWhile (· = '.') = [] := by
    cases hchars : rest.toList with
    | nil => rfl
    | cons c cs =>
        rw [hchars] at h
        exact List.takeWhile_cons_of_neg (by simpa using h)
  rw [toList_dots_append, List.takeWhile_append_of_pos, hrest, List.append_nil]
  intro c hc
  exact decide_eq_true (List.eq_of_mem_replicate hc)

/-- Every text is some dots and a rest with none in front. -/
theorem exists_dots (text : String) :
    ∃ d rest, text = dots d ++ rest ∧ rest.toList.head? ≠ some '.' := by
  have hdots : text.toList.takeWhile (· = '.') =
      List.replicate (text.toList.takeWhile (· = '.')).length '.' := by
    refine List.eq_replicate_iff.mpr ⟨rfl, fun c hc => ?_⟩
    simpa using List.mem_takeWhile_imp hc
  refine ⟨(text.toList.takeWhile (· = '.')).length,
    String.ofList (text.toList.dropWhile (· = '.')), ?_, ?_⟩
  · apply String.toList_inj.mp
    rw [toList_dots_append, ← hdots, String.toList_ofList, List.takeWhile_append_dropWhile]
  · intro hhead
    rw [String.toList_ofList] at hhead
    have hnot := List.head?_dropWhile_not (fun c : Char => c = '.') text.toList
    rw [hhead] at hnot
    simp at hnot

/-! ## What a name stands for -/

theorem absolute_of_not_isRelative (h : ¬ IsRelative name) (package : Option String) :
    absolute name package = .ok name := by
  unfold absolute
  split
  · next hname => exact absurd (Or.inl (by rw [hname]; rfl)) h
  · next hname => exact absurd (Or.inr (by rw [hname]; rfl)) h
  · rfl

theorem absolute_of_isRelative (h : IsRelative name) (package : String) :
    absolute name (some package) =
      if Text.startsWith name ":" then .ok (package ++ name)
      else
        match climb? package ((name.toList.takeWhile (· = '.')).length - 1) with
        | some base =>
          .ok (join base (String.ofList
            (name.toList.drop (name.toList.takeWhile (· = '.')).length)))
        | none => .error (climbsAbove name package) := by
  unfold absolute
  split
  · rfl
  · rfl
  · next hdot hcolon =>
    exfalso
    unfold IsRelative at h
    cases hname : name.toList with
    | nil => simp [hname] at h
    | cons c cs =>
        rw [hname] at h
        rcases h with h | h
        · exact hdot cs (by rw [hname, Option.some.inj h])
        · exact hcolon cs (by rw [hname, Option.some.inj h])

/-- A colon goes straight behind the package. -/
theorem absolute_of_colon (h : name.toList.head? = some ':') (package : String) :
    absolute name (some package) = .ok (followedBy (components package) name) := by
  have hne : name ≠ "" := by
    rintro rfl
    cases h
  rw [absolute_of_isRelative (Or.inr h), if_pos (startsWith_colon_iff.mpr h), followedBy,
    if_neg hne, if_pos h, joinWith_components]

/-- Every dot but the first leads one package up. -/
theorem absolute_dots (h : rest.toList.head? ≠ some '.') (package : String) (levels : Nat) :
    absolute (dots (levels + 1) ++ rest) (some package) =
      if levels < (components package).length then
        .ok (followedBy ((components package).take ((components package).length - levels)) rest)
      else .error (climbsAbove (dots (levels + 1) ++ rest) package) := by
  have hchars := toList_dots_append (levels + 1) rest
  have hdot : (dots (levels + 1) ++ rest).toList.head? = some '.' := by rw [hchars]; rfl
  have hcolon : ¬ Text.startsWith (dots (levels + 1) ++ rest) ":" = true := by
    rw [startsWith_colon_iff, hdot]
    decide
  have hdrop : String.ofList ((dots (levels + 1) ++ rest).toList.drop (levels + 1)) = rest := by
    rw [hchars, List.drop_left' List.length_replicate, String.ofList_toList]
  rw [absolute_of_isRelative (Or.inl hdot), if_neg hcolon, takeWhile_dots_append h,
    List.length_replicate, hdrop, Nat.add_sub_cancel, climb?_eq]
  by_cases hlevels : levels < (components package).length
  · have htake : (components package).take ((components package).length - levels) ≠ [] := by
      rw [ne_eq, List.take_eq_nil_iff, not_or]
      exact ⟨Nat.ne_of_gt (Nat.sub_pos_of_lt hlevels), components_ne_nil package⟩
    rw [if_pos hlevels, if_pos hlevels]
    exact congrArg Except.ok (join_joinWith htake rest)
  · rw [if_neg hlevels, if_neg hlevels]

/-- Dots on their own lead to a package, if there is one so far up. -/
theorem absolute_only_dots (package : String) (levels : Nat) :
    absolute (dots (levels + 1)) (some package) =
      if levels < (components package).length then
        .ok (joinWith "." ((components package).take ((components package).length - levels)))
      else .error (climbsAbove (dots (levels + 1)) package) := by
  have hnone : "".toList.head? ≠ some '.' := by decide
  have h := absolute_dots hnone package levels
  rw [String.append_empty] at h
  exact h

/-- Climbing from where dots have led is climbing by all the dots, and fails where this does. -/
theorem absolute_dots_add (package : String) (j k : Nat) (rest : String) :
    (absolute (dots (j + k + 1) ++ rest) (some package)).mapError Error.kind =
      (absolute (dots (j + 1)) (some package) >>= fun base =>
        absolute (dots (k + 1) ++ rest) (some base)).mapError Error.kind := by
  -- dots that the rest begins with are climbed as well
  obtain ⟨e, rest, rfl, hrest⟩ := exists_dots rest
  have hall : dots (j + k + 1) ++ (dots e ++ rest) = dots (j + (k + e) + 1) ++ rest := by
    rw [dots_add_append]
    congr 2
    omega
  have hmore : dots (k + 1) ++ (dots e ++ rest) = dots (k + e + 1) ++ rest := by
    rw [dots_add_append, Nat.add_right_comm]
  rw [hall, hmore, absolute_dots hrest, absolute_only_dots]
  generalize k + e = k
  by_cases hj : j < (components package).length
  · have hpos : 0 < (components package).length - j := Nat.sub_pos_of_lt hj
    rw [if_pos hj]
    show _ = (absolute (dots (k + 1) ++ rest) (some _)).mapError Error.kind
    rw [absolute_dots hrest, components_joinWith_take package hpos, List.length_take,
      Nat.min_eq_left (Nat.sub_le _ _), List.take_take, Nat.min_eq_left (Nat.sub_le _ _),
      Nat.sub_sub]
    simp only [Nat.lt_sub_iff_add_lt']
    split
    · rfl
    · rw [mapError_climbsAbove, mapError_climbsAbove]
  · have hall : ¬ j + k < (components package).length := by omega
    rw [if_neg hj, if_neg hall, mapError_climbsAbove]
    exact (mapError_climbsAbove _ _).symm

/-- Where a relative name leads, and where it leads to nothing. -/
theorem absolute_eq (h : IsRelative (dots d ++ rest)) (hrest : rest.toList.head? ≠ some '.')
    (package : String) :
    absolute (dots d ++ rest) (some package) =
      if (components package).length ≤ d - 1 then .error (climbsAbove (dots d ++ rest) package)
      else
        .ok (followedBy
          ((components package).take ((components package).length - d + 1)) rest) := by
  have hpos := List.length_pos_of_ne_nil (components_ne_nil package)
  cases d with
  | zero =>
      have hname : dots 0 ++ rest = rest := by simp [dots]
      have hall : ¬ (components package).length ≤ 0 - 1 := by omega
      rw [hname] at h ⊢
      rw [absolute_of_colon (h.resolve_left hrest), if_neg hall, Nat.sub_zero,
        List.take_of_length_le (Nat.le_succ _)]
  | succ levels =>
      rw [absolute_dots hrest, Nat.add_sub_cancel]
      by_cases hlevels : levels < (components package).length
      · have hsub : (components package).length - (levels + 1) + 1 =
            (components package).length - levels := by omega
        rw [if_pos hlevels, if_neg (Nat.not_le.mpr hlevels), hsub]
      · rw [if_neg hlevels, if_pos (Nat.not_lt.mp hlevels)]

/-- What a name stands for is relative to nothing. -/
theorem not_isRelative_of_absolute (hpackage : IsPackage package)
    (h : absolute name (some package) = .ok resolved) : ¬ IsRelative resolved := by
  by_cases hname : IsRelative name
  · obtain ⟨d, rest, rfl, hrest⟩ := exists_dots name
    rw [absolute_eq hname hrest] at h
    split at h
    · cases h
    · obtain rfl := Except.ok.inj h
      rw [IsRelative, hpackage.head?_followedBy (Nat.succ_pos _)]
      exact hpackage.2
  · rw [absolute_of_not_isRelative hname] at h
    exact Except.ok.inj h ▸ hname

/-- **Relative names are resolved by climbing.** A name of so many dots and a rest leads to as many
components of its package as are left when each dot but the first has taken one, with the rest
behind them, and fails exactly if none is left. To climb from where some dots have led is to climb
by all of them at once, and fails in the same cases. What a name is resolved to is resolved to
itself, whatever the package. -/
theorem resolved_by_climbing (package : String) (hpackage : IsPackage package) :
    (∀ (d : Nat) (rest : String), IsRelative (dots d ++ rest) → rest.toList.head? ≠ some '.' →
      absolute (dots d ++ rest) (some package) =
        if (components package).length ≤ d - 1 then .error (climbsAbove (dots d ++ rest) package)
        else
          .ok (followedBy
            ((components package).take ((components package).length - d + 1)) rest)) ∧
    (∀ (j k : Nat) (rest : String),
      (absolute (dots (j + k + 1) ++ rest) (some package)).mapError Error.kind =
        (absolute (dots (j + 1)) (some package) >>= fun base =>
          absolute (dots (k + 1) ++ rest) (some base)).mapError Error.kind) ∧
    ∀ (name resolved : String), absolute name (some package) = .ok resolved →
      ∀ other : Option String, absolute resolved other = .ok resolved := by
  refine ⟨?climbed, absolute_dots_add package, ?again⟩
  case climbed =>
    intro d rest hrelative hrest
    exact absolute_eq hrelative hrest package
  case again =>
    intro name resolved h
    exact absolute_of_not_isRelative (not_isRelative_of_absolute hpackage h)

/-- Two levels up is the top of this package, and three are too many. -/
theorem climbs_up_to_top :
    IsPackage "app.web.admin" ∧ IsRelative "...views:home" ∧
      absolute "...views:home" (some "app.web.admin") = .ok "app.views:home" ∧
      absolute "....home" (some "app.web.admin") =
        .error (climbsAbove "....home" "app.web.admin") ∧
      (absolute "...:home" (some "app.web.admin")).mapError Error.kind =
        (absolute ".." (some "app.web.admin") >>= fun base =>
          absolute "..:home" (some base)).mapError Error.kind ∧
      absolute "app.views:home" (some "other") = .ok "app.views:home" := by
  have hpackage : IsPackage "app.web.admin" := by decide
  obtain ⟨hclimbed, hcomposed, hagain⟩ := resolved_by_climbing "app.web.admin" hpackage
  have hviews : absolute "...views:home" (some "app.web.admin") = .ok "app.views:home" :=
    hclimbed 3 "views:home" (by decide) (by decide)
  exact ⟨hpackage, by decide, hviews, hclimbed 4 "home" (by decide) (by decide),
    hcomposed 1 1 ":home", hagain _ _ hviews (some "other")⟩

end WebDispatch.DottedName
