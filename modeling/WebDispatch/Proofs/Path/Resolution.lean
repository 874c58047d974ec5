import Mathlib.Data.List.DropRight
import WebDispatch.Proofs.Path.Segments

/-!
# Going on from where a path has led

A path put behind another, with a slash between the two, goes on from there: its raw segments are
resolved on top of the segments of the first (`segments_append_slash`). They take back as many of
these as they lead above where they start, and put there what they come to alone
(`resolve_eq_append`). What is not there cannot be taken back.

* `Path.Resolves` — resolving told segment by segment, in the order of the path;
* `Path.ascent` — how far raw segments lead above where they start;
* `ascent_le_iff` — the same told by the beginnings of what is resolved.
-/

namespace WebDispatch.Path

/-! ## Segment by segment -/

/-- What raw segments make of the segments before them. Nothing and a single dot change nothing, two
dots take back the last segment, if there is one, and all else is put behind. -/
inductive Resolves : List String → List String → List String → Prop where
  | nil (before : List String) : Resolves before [] before
  | dropped {segment : String} {before raw after : List String}
      (h : segment = "" ∨ segment = ".") (hrest : Resolves before raw after) :
      Resolves before (segment :: raw) after
  | back {before raw after : List String} (hrest : Resolves before.dropLast raw after) :
      Resolves before (".." :: raw) after
  | kept {segment : String} {before raw after : List String} (h : isProper segment = true)
      (hrest : Resolves (before ++ [segment]) raw after) : Resolves before (segment :: raw) after

variable {before after raw : List String} {segment : String}

theorem Resolves.eq (h : Resolves before raw after) :
    after = (resolve before.reverse raw).reverse := by
  induction h with
  | nil before => exact before.reverse_reverse.symm
  | dropped h _ ih =>
      rw [resolve_cons, resolveStep_of_dropped h]
      exact ih
  | back _ ih =>
      rw [resolve_cons, resolveStep_back, List.tail_reverse]
      exact ih
  | kept h _ ih =>
      rw [resolve_cons, resolveStep_of_proper h]
      rw [List.reverse_append] at ih
      exact ih

theorem resolves_resolve (before raw : List String) :
    Resolves before raw (resolve before.reverse raw).reverse := by
  induction raw generalizing before with
  | nil =>
      rw [resolve, List.foldl_nil, List.reverse_reverse]
      exact .nil before
  | cons segment raw ih =>
      rw [resolve_cons]
      rcases kind_of_raw segment with h | rfl | h
      · rw [resolveStep_of_dropped h]
        exact .dropped h (ih before)
      · rw [resolveStep_back, List.tail_reverse]
        exact .back (ih before.dropLast)
      · have hrest := ih (before ++ [segment])
        rw [List.reverse_append] at hrest
        rw [resolveStep_of_proper h]
        exact .kept h hrest

/-- Resolving ends in one way. -/
theorem resolves_iff : Resolves before raw after ↔ after = (resolve before.reverse raw).reverse :=
  ⟨Resolves.eq, fun h => h ▸ resolves_resolve before raw⟩

/-! ## Above the start -/

/-- How many levels raw segments lead above where they start, at most: what they put there before
they take it back does not count. -/
def ascent : List String → Nat
  | [] => 0
  | segment :: raw =>
    if segment = "" ∨ segment = "." then ascent raw
    else if segment = ".." then ascent raw + 1
    else ascent raw - 1

theorem ascent_of_dropped (h : segment = "" ∨ segment = ".") (raw : List String) :
    ascent (segment :: raw) = ascent raw := if_pos h

@[simp] theorem ascent_back (raw : List String) : ascent (".." :: raw) = ascent raw + 1 := rfl

theorem ascent_of_proper (h : isProper segment = true) (raw : List String) :
    ascent (segment :: raw) = ascent raw - 1 := by
  obtain ⟨hempty, hdot, hback⟩ := isProper_iff.mp h
  rw [ascent, if_neg (not_or.mpr ⟨hempty, hdot⟩), if_neg hback]

/-- A beginning is empty, or it is the first segment with a beginning of the rest. -/
theorem forall_beginning_cons {P : List String → Prop} (hnil : P []) :
    (∀ start, start <+: segment :: raw → P start) ↔
      ∀ start, start <+: raw → P (segment :: start) := by
  constructor
  · intro h start hstart
    exact h (segment :: start) ((List.prefix_cons_inj segment).mpr hstart)
  · intro h start hstart
    rcases List.prefix_cons_iff.mp hstart with rfl | ⟨rest, rfl, hrest⟩
    · exact hnil
    · exact h rest hrest

/-- Raw segments lead at most so many levels up, if in none of their beginnings the steps back
outnumber the proper segments by more. -/
theorem ascent_le_iff (raw : List String) (n : Nat) :
    ascent raw ≤ n ↔ ∀ start, start <+: raw → start.count ".." ≤ n + start.countP isProper := by
  induction raw generalizing n with
  | nil => simp [ascent]
  | cons segment raw ih =>
      rw [forall_beginning_cons (Nat.zero_le _)]
      rcases kind_of_raw segment with h | rfl | h
      · have hsame (start : List String) : (segment :: start).count ".." = start.count ".." ∧
            (segment :: start).countP isProper = start.countP isProper := by
          rcases h with rfl | rfl <;> exact ⟨by simp, by simp [isProper]⟩
        rw [ascent_of_dropped h, ih n]
        simp only [hsame]
      · have hback (start : List String) : (".." :: start).count ".." = start.count ".." + 1 ∧
            (".." :: start).countP isProper = start.countP isProper :=
          ⟨by simp, by simp [isProper]⟩
        rw [ascent_back]
        simp only [hback]
        cases n with
        | zero =>
            -- the step back is a beginning, too
            refine ⟨fun h => absurd h (Nat.not_succ_le_zero _), fun h => ?_⟩
            exact absurd (h [] List.nil_prefix) (by decide)
        | succ n =>
            rw [Nat.add_le_add_iff_right, ih n]
            refine forall₂_congr fun start _ => ?_
            omega
      · have hkept (start : List String) : (segment :: start).count ".." = start.count ".." ∧
            (segment :: start).countP isProper = start.countP isProper + 1 :=
          ⟨List.count_cons_of_ne (isProper_iff.mp h).2.2, List.countP_cons_of_pos h⟩
        rw [ascent_of_proper h, Nat.sub_le_iff_le_add, ih (n + 1)]
        simp only [hkept]
        refine forall₂_congr fun start _ => ?_
        omega

theorem ascent_le_count (raw : List String) : ascent raw ≤ raw.count ".." := by
  rw [ascent_le_iff]
  intro start hstart
  exact Nat.le_add_right_of_le (hstart.sublist.count_le "..")

/-- Raw segments resolved on top of others take back as many of these as they lead above them, and
put there what they come to alone. -/
theorem resolve_eq_append (done raw : List String) :
    resolve done raw = resolve [] raw ++ done.drop (ascent raw) := by
  induction raw generalizing done with
  | nil => rfl
  | cons segment raw ih =>
      rw [resolve_cons, resolve_cons]
      rcases kind_of_raw segment with h | rfl | h
      · rw [resolveStep_of_dropped h, resolveStep_of_dropped h, ascent_of_dropped h]
        exact ih done
      · rw [resolveStep_back, resolveStep_back, ascent_back, ih done.tail, List.drop_tail]
        rfl
      · -- the segment is taken back first, if anything is
        rw [resolveStep_of_proper h, resolveStep_of_proper h, ascent_of_proper h,
          ih (segment :: done), ih [segment], List.append_assoc]
        cases ascent raw with
        | zero => rfl
        | succ levels => simp

/-! ## Paths behind one another -/

/-- A path behind a slash goes on from the segments of the path before it. -/
theorem segments_append_slash (a b : String) :
    segments (a ++ "/" ++ b) = (resolve (segments a).reverse (Text.splitOn '/' b)).reverse := by
  have hsplit : Text.splitOn '/' (a ++ "/" ++ b) = Text.splitOn '/' a ++ Text.splitOn '/' b :=
    Text.splitOn_append '/' a b
  rw [segments, hsplit, resolve_append, segments, List.reverse_reverse]

theorem segments_append_slash_eq_rdrop (a b : String) :
    segments (a ++ "/" ++ b) =
      (segments a).rdrop (ascent (Text.splitOn '/' b)) ++ segments b := by
  rw [segments_append_slash, resolve_eq_append, List.reverse_append, List.reverse_drop,
    List.reverse_reverse, List.length_reverse]
  rfl

/-- **Segments go on from segments.** The segments of a path are what its raw segments come to. None
of them is empty, a dot or two, none holds a slash, and they are the segments of the path that they
make up, with a slash in front or not. A path behind another and a slash goes on from the segments
of that: it takes back as many of these as it leads levels up, if there are so many, and puts its
own segments behind what is left. -/
theorem segments_go_on (a b : String) :
    (∀ segment ∈ segments a,
      segment ≠ "" ∧ segment ≠ "." ∧ segment ≠ ".." ∧ '/' ∉ segment.toList) ∧
    segments (Text.joinWith "/" (segments a)) = segments a ∧
    segments ("/" ++ Text.joinWith "/" (segments a)) = segments a ∧
    (∀ result, Resolves [] (Text.splitOn '/' a) result ↔ result = segments a) ∧
    (∀ result, Resolves (segments a) (Text.splitOn '/' b) result ↔
      result = segments (a ++ "/" ++ b)) ∧
    segments (a ++ "/" ++ b) = (segments a).rdrop (ascent (Text.splitOn '/' b)) ++ segments b ∧
    ∀ n, ascent (Text.splitOn '/' b) ≤ n ↔
      ∀ start, start <+: Text.splitOn '/' b → start.count ".." ≤ n + start.countP isProper := by
  refine ⟨?proper, segments_joinWith_segments a, ?slash, ?alone, ?behind,
    segments_append_slash_eq_rdrop a b, ascent_le_iff (Text.splitOn '/' b)⟩
  case proper =>
    intro segment hsegment
    obtain ⟨hproper, hslash⟩ := mem_segments hsegment
    obtain ⟨hempty, hdot, hback⟩ := isProper_iff.mp hproper
    exact ⟨hempty, hdot, hback, hslash⟩
  case slash => rw [segments_slash_append, segments_joinWith_segments]
  case alone =>
    intro result
    exact resolves_iff
  case behind =>
    intro result
    rw [segments_append_slash]
    exact resolves_iff

/-- A path with more in it than is needed, and one behind it that leads two levels up. -/
theorem segments_go_on_two_levels_up :
    "d" ∈ segments "/a//b/./c/../d/" ∧ '/' ∉ "d".toList ∧
      ascent (Text.splitOn '/' "x/../../../e") ≤ 2 ∧
      ["x", "..", "..", ".."] <+: Text.splitOn '/' "x/../../../e" ∧
      ["x", "..", "..", ".."].count ".." ≤ 2 + ["x", "..", "..", ".."].countP isProper ∧
      Resolves ["a", "b", "d"] ["x", "..", "..", "..", "e"] ["a", "e"] ∧
      segments ("/a//b/./c/../d/" ++ "/" ++ "x/../../../e") = ["a"] ++ ["e"] := by
  obtain ⟨hproper, -, -, -, hbehind, hwhole, hascent⟩ :=
    segments_go_on "/a//b/./c/../d/" "x/../../../e"
  have hd : "d" ∈ segments "/a//b/./c/../d/" := by decide
  have hle : ascent (Text.splitOn '/' "x/../../../e") ≤ 2 := by decide
  have hstart : ["x", "..", "..", ".."] <+: Text.splitOn '/' "x/../../../e" := by decide
  exact ⟨hd, (hproper "d" hd).2.2.2, hle, hstart, (hascent 2).mp hle _ hstart,
    (hbehind ["a", "e"]).mpr (by decide), hwhole⟩

end WebDispatch.Path
