import Mathlib.Data.List.TakeWhile
import WebDispatch.Proofs.Path.Names

/-!
# Texts read off by parts

The parts of a pattern can be read off a text in several ways, for a field takes any number of
characters up to the next slash. `Reads` says what the ways are. The expression of a plain pattern
matches a text exactly when there is a way, and captures what the names take in one of them
(`exists_reads_of_captures?`, `exists_captures?_of_reads`).

Where a slash stands between any two names there is one way at most: the literal text that follows a
field fixes how much of its segment the field takes (`Reads.length_takeWhile`, `Reads.unique`).
-/

namespace WebDispatch

namespace Pattern

open Regex (Passes anchored passes_append passes_singleton passes_literals mem_ends_segment
  mem_ends_remainder passes_of_search? exists_search?_of_passes
  groupNames_anchored)

/-- A way to read parts, and a remainder behind them, off the whole of a text, with the text that
each name takes: a field takes some characters other than a slash, a remainder any but a line
feed. -/
inductive Reads (remainder : Option String) :
    List PatternPart → List Char → List (String × List Char) → Prop where
  | done : remainder = none → Reads remainder [] [] []
  | rest {name : String} {cs : List Char} :
      remainder = some name → '\n' ∉ cs → Reads remainder [] cs [(name, cs)]
  | literal {text : String} {parts : List PatternPart} {cs : List Char}
      {found : List (String × List Char)} :
      Reads remainder parts cs found →
      Reads remainder (.literal text :: parts) (text.toList ++ cs) found
  | field {name : String} {expression : Option String} {taken : List Char}
      {parts : List PatternPart} {cs : List Char} {found : List (String × List Char)} :
      taken ≠ [] → '/' ∉ taken → Reads remainder parts cs found →
      Reads remainder (.field name expression :: parts) (taken ++ cs) ((name, taken) :: found)

variable {remainder : Option String} {parts : List PatternPart} {cs : List Char}
  {found : List (String × List Char)}

theorem Reads.map_fst (h : Reads remainder parts cs found) :
    found.map (·.1) = fieldNames parts ++ remainder.toList := by
  induction h with
  | done hremainder =>
      rw [hremainder]
      rfl
  | rest hremainder =>
      rw [hremainder]
      rfl
  | literal _ ih => exact ih
  | field _ _ _ ih =>
      rw [List.map_cons, ih]
      rfl

/-! ## Matching finds a way -/

/-- What the groups behind a number of groups have captured where names have taken texts, the last
of them first. -/
def captured (groups : Nat) : List (String × List Char) → List (Nat × List Char)
  | [] => []
  | e :: found => captured (groups + 1) found ++ [(groups + 1, e.2)]

theorem exists_reads_of_passes {groups : Nat} {p q : Regex.Place}
    (h : Passes (wholePieces groups parts remainder) p q) (hend : q.rest = []) :
    ∃ found, Reads remainder parts p.rest found ∧
      q.captures = captured groups found ++ p.captures := by
  induction parts generalizing groups p with
  | nil =>
      cases remainder with
      | none =>
          obtain rfl : q = p := h
          exact ⟨[], hend ▸ Reads.done rfl, rfl⟩
      | some name =>
          obtain ⟨taken, rest, hsplit, hline, rfl⟩ := mem_ends_remainder.mp (passes_singleton.mp h)
          obtain rfl : rest = [] := hend
          rw [List.append_nil] at hsplit
          rw [hsplit]
          exact ⟨[(name, taken)], Reads.rest rfl hline, rfl⟩
  | cons part parts ih =>
      cases part with
      | literal text =>
          rw [wholePieces_literal] at h
          obtain ⟨m, hm, h⟩ := passes_append.mp h
          obtain ⟨rest, hsplit, rfl⟩ := passes_literals.mp hm
          obtain ⟨found, hreads, hcaptures⟩ := ih h
          rw [hsplit]
          exact ⟨found, Reads.literal hreads, hcaptures⟩
      | field name expression =>
          rw [wholePieces_field] at h
          obtain ⟨m, hm, h⟩ := h
          obtain ⟨taken, rest, hsplit, hne, hslash, rfl⟩ := mem_ends_segment.mp hm
          obtain ⟨found, hreads, hcaptures⟩ := ih h
          rw [hsplit]
          refine ⟨(name, taken) :: found, Reads.field hne hslash hreads, ?_⟩
          rw [hcaptures, captured, List.append_assoc]
          rfl

theorem Reads.exists_passes {groups : Nat} {p : Regex.Place}
    (h : Reads remainder parts p.rest found) :
    ∃ q, Passes (wholePieces groups parts remainder) p q ∧ q.rest = [] := by
  generalize hrest : p.rest = cs at h
  induction h generalizing groups p with
  | done hremainder =>
      subst hremainder
      exact ⟨p, rfl, hrest⟩
  | @rest name cs hremainder hline =>
      subst hremainder
      refine ⟨(p.after cs []).capture (groups + 1) cs, passes_singleton.mpr ?_, rfl⟩
      exact mem_ends_remainder.mpr ⟨cs, [], by rw [hrest, List.append_nil], hline, rfl⟩
  | @literal text parts cs found _ ih =>
      obtain ⟨q, hq, hend⟩ : ∃ q, Passes (wholePieces groups parts remainder)
        (p.after text.toList cs) q ∧ q.rest = [] := ih rfl
      refine ⟨q, ?_, hend⟩
      rw [wholePieces_literal]
      exact passes_append.mpr ⟨_, passes_literals.mpr ⟨cs, hrest, rfl⟩, hq⟩
  | @field name expression taken parts cs found hne hslash _ ih =>
      obtain ⟨q, hq, hend⟩ : ∃ q, Passes (wholePieces (groups + 1) parts remainder)
        ((p.after taken cs).capture (groups + 1) taken) q ∧ q.rest = [] := ih rfl
      refine ⟨q, ?_, hend⟩
      rw [wholePieces_field]
      exact ⟨_, mem_ends_segment.mpr ⟨taken, cs, hrest, hne, hslash, rfl⟩, hq⟩

/-! ## What is captured -/

def numbered (groups : Nat) : List String → List (Nat × String)
  | [] => []
  | name :: names => (groups + 1, name) :: numbered (groups + 1) names

theorem groupNames_literals (cs : List Char) :
    (Regex.literals cs).flatMap Regex.groupNames = [] := by
  induction cs with
  | nil => rfl
  | cons c cs ih => exact ih

theorem groupNames_wholePieces {groups : Nat} :
    (wholePieces groups parts remainder).flatMap Regex.groupNames =
      numbered groups (fieldNames parts ++ remainder.toList) := by
  induction parts generalizing groups with
  | nil =>
      cases remainder with
      | none => rfl
      | some name => rfl
  | cons part parts ih =>
      cases part with
      | literal text =>
          rw [wholePieces_literal, List.flatMap_append, groupNames_literals, List.nil_append, ih,
            fieldNames_literal]
      | field name expression =>
          rw [wholePieces_field, List.flatMap_cons, ih]
          rfl

theorem lt_of_mem_captured {groups : Nat} {e : Nat × List Char} (h : e ∈ captured groups found) :
    groups < e.1 := by
  induction found generalizing groups with
  | nil => cases h
  | cons _ found ih =>
      rw [captured, List.mem_append, List.mem_singleton] at h
      rcases h with h | rfl
      · exact Nat.lt_of_succ_lt (ih h)
      · exact Nat.lt_succ_self _

/-- Each group has captured what its name has taken, whatever was captured before. -/
theorem map_numbered_captured {groups : Nat} {before : List (Nat × List Char)} {p : Regex.Place}
    (h : p.captures = captured groups found ++ before) :
    (numbered groups (found.map (·.1))).map (fun g => (g.2, (p.captured? g.1).getD "")) =
      found.map fun e => (e.1, String.ofList e.2) := by
  induction found generalizing groups before with
  | nil => rfl
  | cons e found ih =>
      rw [captured, List.append_assoc, List.singleton_append] at h
      have hfirst : p.captured? (groups + 1) = some (String.ofList e.2) := by
        have hnone : (captured (groups + 1) found).find? (fun c => c.1 = groups + 1) = none := by
          rw [List.find?_eq_none]
          intro c hc hgroup
          exact absurd (of_decide_eq_true hgroup) (Nat.ne_of_gt (lt_of_mem_captured hc))
        rw [Regex.Place.captured?, h, List.find?_append, hnone]
        simp
      rw [List.map_cons, List.map_cons, numbered, List.map_cons, ih h, hfirst]
      rfl

variable {p : Pattern} {path : String}

/-- What a plain pattern captures has been read off the path. -/
theorem exists_reads_of_captures? {texts : List (String × String)}
    (hexpression : p.expression = anchored (wholePieces 0 p.parts p.remainder))
    (h : p.captures? path = some texts) :
    ∃ found, Reads p.remainder p.parts path.toList found ∧
      texts = found.map fun e => (e.1, String.ofList e.2) := by
  unfold captures? at h
  rw [hexpression] at h
  obtain ⟨q, hq, rfl⟩ := Option.map_eq_some_iff.mp h
  obtain ⟨hpasses, hend⟩ := passes_of_search? hq
  obtain ⟨found, hreads, hcaptures⟩ := exists_reads_of_passes hpasses hend
  refine ⟨found, hreads, ?_⟩
  rw [groupNames_anchored, groupNames_wholePieces, ← hreads.map_fst]
  exact map_numbered_captured hcaptures

/-- What can be read off a path is captured from it. -/
theorem exists_captures?_of_reads
    (hexpression : p.expression = anchored (wholePieces 0 p.parts p.remainder))
    (h : Reads p.remainder p.parts path.toList found) :
    ∃ texts, p.captures? path = some texts := by
  obtain ⟨q, hpasses, hend⟩ := h.exists_passes (p := Regex.Place.start path.toList)
  obtain ⟨q', hq'⟩ := exists_search?_of_passes hpasses hend
  unfold captures?
  rw [hexpression, hq']
  exact ⟨_, rfl⟩

/-! ## The only way -/

/-- Characters other than a slash, with what comes behind them up to the next slash. -/
theorem takeWhile_append_of_notMem {taken : List Char} (h : '/' ∉ taken) (cs : List Char) :
    (taken ++ cs).takeWhile (· ≠ '/') = taken ++ cs.takeWhile (· ≠ '/') := by
  refine List.takeWhile_append_of_pos fun c hc => decide_eq_true ?_
  rintro rfl
  exact h hc

/-- Whether a slash stands between any two names of parts and a remainder; `pending` says that a name
has come before and no slash since. -/
def separated (remainder : Option String) : Bool → List PatternPart → Bool
  | pending, [] => !pending || remainder.isNone
  | pending, .literal text :: parts =>
    separated remainder (pending && !text.toList.contains '/') parts
  | pending, .field _ _ :: parts => !pending && separated remainder true parts

/-- The number of characters in the literal text that parts begin with, up to its first slash. -/
def stem : List PatternPart → Nat
  | .literal text :: parts =>
    if text.toList.contains '/' then (text.toList.takeWhile (· ≠ '/')).length
    else text.length + stem parts
  | _ => 0

/-- What is read behind a field goes on to the next slash as the literal text there does. -/
theorem Reads.length_takeWhile (h : Reads remainder parts cs found)
    (hseparated : separated remainder true parts = true) :
    (cs.takeWhile (· ≠ '/')).length = stem parts := by
  induction h with
  | done => rfl
  | rest hremainder =>
      rw [separated, hremainder] at hseparated
      cases hseparated
  | @literal text parts cs found _ ih =>
      rw [separated, Bool.true_and] at hseparated
      rw [stem]
      by_cases hslash : text.toList.contains '/'
      · have hshort : (text.toList.takeWhile (· ≠ '/')).length ≠ text.toList.length := by
          intro hall
          have hself : text.toList.takeWhile (· ≠ '/') = text.toList :=
            (List.takeWhile_prefix _).eq_of_length hall
          rw [List.contains_iff_mem, ← hself] at hslash
          simpa using List.mem_takeWhile_imp hslash
        rw [if_pos hslash, List.takeWhile_append, if_neg hshort]
      · rw [Bool.not_eq_true] at hslash
        rw [hslash] at hseparated ⊢
        have hnone : '/' ∉ text.toList := by simpa using hslash
        rw [takeWhile_append_of_notMem hnone, List.length_append, String.length_toList,
          ih hseparated]
        rfl
  | field =>
      rw [separated] at hseparated
      cases hseparated

theorem Reads.unique {pending : Bool} {found' : List (String × List Char)}
    (hseparated : separated remainder pending parts = true) (h : Reads remainder parts cs found)
    (h' : Reads remainder parts cs found') : found = found' := by
  induction h generalizing pending found' with
  | done hremainder =>
      cases h' with
      | done => rfl
      | rest hsome => rw [hremainder] at hsome; cases hsome
  | rest hremainder =>
      cases h' with
      | done hnone => rw [hremainder] at hnone; cases hnone
      | rest hsome =>
          rw [hremainder, Option.some.injEq] at hsome
          rw [hsome]
  | @literal text parts cs found _ ih =>
      generalize hall : text.toList ++ cs = all at h'
      cases h' with
      | literal hrest =>
          rw [List.append_cancel_left hall] at ih
          exact ih hseparated hrest
  | @field name expression taken parts cs found hne hslash hrest ih =>
      rw [separated, Bool.and_eq_true] at hseparated
      generalize hall : taken ++ cs = all at h'
      cases h' with
      | @field _ _ taken' _ cs' found' hne' hslash' hrest' =>
          -- both fields end as far before the next slash as the literal text behind them needs
          have hlength : taken.length = taken'.length := by
            have hspan := congrArg (fun l => (l.takeWhile (· ≠ '/')).length) hall
            simp only [takeWhile_append_of_notMem hslash, takeWhile_append_of_notMem hslash',
              List.length_append, hrest.length_takeWhile hseparated.2,
              hrest'.length_takeWhile hseparated.2] at hspan
            omega
          obtain ⟨rfl, rfl⟩ := List.append_inj hall hlength
          rw [ih hseparated.2 hrest']

end Pattern

end WebDispatch
