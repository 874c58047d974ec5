import WebDispatch.Proofs.Path.RoundTrip
import WebDispatch.Proofs.Path.Source
import WebDispatch.Request

/-!
# The rest of a path

A pattern that is a literal text with a remainder behind it has an expression whenever the name of
the remainder may name a group (`exists_parseChars?`). It matches the paths that begin with the
text, and captures what is behind it as segments, with one exception: the rest may not hold a line
feed, which the expression of a remainder does not take.

* `captures_rest_iff` — the paths that are matched, with what is captured from them;
* `not_captured_line_feed` — a rest that is not captured.
-/

namespace WebDispatch

namespace Regex

open Reading

variable {fuel groups : Nat} {items : List Item} {names : List String} {cs name rest : List Char}

/-! ## Reading with enough fuel -/

theorem readSequence_escapeLiteral (cs : List Char) :
    readSequence (fuel + cs.length) items ⟨escapeLiteral cs ++ rest, {}, groups, names⟩ =
      readSequence fuel (pushed (literals cs) items) ⟨rest, {}, groups, names⟩ := by
  induction cs generalizing items with
  | nil => rfl
  | cons c cs ih =>
      have hpushed : pushed (literals (c :: cs)) items =
          pushed (literals cs) (.piece (.chars (.single c)) :: items) :=
        pushed_append [.chars (.single c)] (literals cs) items
      have hlength : fuel + (c :: cs).length = fuel + cs.length + 1 := rfl
      rw [hpushed, hlength, ← ih, escapeLiteral, List.flatMap_cons, List.append_assoc]
      by_cases hc : isMeta c
      · rw [if_pos hc]
        exact readSequence_escape hc
      · rw [if_neg hc]
        exact readSequence_char (Bool.not_eq_true _ ▸ hc)

theorem readGroup_remainder (hname : isGroupName name = true) (hnot : '>' ∉ name) :
    readGroup (fuel + 6)
        ⟨"?P<".toList ++ (name ++ '>' :: (".*?".toList ++ ')' :: rest)), {}, groups, []⟩ =
      some (.piece (.group (groups + 1) (some (String.ofList name)) remainderBody),
        ⟨rest, {}, groups + 1, [String.ofList name]⟩) := by
  rw [readGroup_name hnot]
  simp only [hname, Bool.not_true, Bool.false_eq_true, if_false]
  rfl

theorem length_le_escapeLiteral (cs : List Char) : cs.length ≤ (escapeLiteral cs).length := by
  induction cs with
  | nil => exact Nat.le_refl 0
  | cons c cs ih =>
      rw [escapeLiteral, List.flatMap_cons, List.length_append, ← escapeLiteral]
      split
      · simp
        omega
      · simp
        omega

/-- The expression of a literal text and a remainder can be read. -/
theorem exists_parseChars? (cs : List Char) (hname : isGroupName name = true) (hnot : '>' ∉ name) :
    ∃ r, parseChars? ('^' :: (escapeLiteral cs ++
      ("(?P<".toList ++ (name ++ '>' :: (".*?".toList ++ ')' :: ['$']))))) = some r := by
  generalize hwhole : '^' :: (escapeLiteral cs ++
    ("(?P<".toList ++ (name ++ '>' :: (".*?".toList ++ ')' :: ['$'])))) = whole
  obtain ⟨fuel, hfuel⟩ : ∃ fuel, 4 * whole.length + 4 = fuel + 7 + cs.length + 1 + 1 := by
    have hlength : cs.length + 8 ≤ whole.length := by
      have hescaped := length_le_escapeLiteral cs
      rw [← hwhole]
      simp
      omega
    exact ⟨4 * whole.length + 4 - (cs.length + 9), by omega⟩
  have hstart : ∀ n rest, readSequence (n + 1) [] ⟨'^' :: rest, {}, 0, []⟩ =
      readSequence n [.piece (.look .textStart)] ⟨rest, {}, 0, []⟩ := fun _ _ => rfl
  have hopen : ∀ items tail, readSequence (fuel + 7) items ⟨"(?P<".toList ++ tail, {}, 0, []⟩ =
      (readGroup (fuel + 6) >>= fun item => readSequence (fuel + 6) (item :: items))
        ⟨"?P<".toList ++ tail, {}, 0, []⟩ := fun _ _ => readSequence_open
  have hend : ∀ items names, ∃ out, readSequence (fuel + 6) items ⟨['$'], {}, 1, names⟩ =
      some (out, ⟨[], {}, 1, names⟩) := fun _ _ => ⟨_, rfl⟩
  obtain ⟨out, hout⟩ := hend (.piece (.group 1 (some (String.ofList name)) remainderBody) ::
    pushed (literals cs) [.piece (.look .textStart)]) [String.ofList name]
  have hfirst : readSequence (fuel + 7 + cs.length + 1) [] ⟨whole, {}, 0, []⟩ =
      some (out, ⟨[], {}, 1, [String.ofList name]⟩) := by
    rw [← hwhole, hstart, readSequence_escapeLiteral, hopen,
      bind_eq_of_eq (readGroup_remainder hname hnot)]
    exact hout
  have hchoice : readChoice (fuel + 7 + cs.length + 1 + 1) ⟨whole, {}, 0, []⟩ =
      some (out, ⟨[], {}, 1, [String.ofList name]⟩) := by
    rw [readChoice, bind_eq_of_eq hfirst]
    rfl
  refine ⟨out, ?_⟩
  rw [parseChars?, hfuel, StateT.run, hchoice]
  rfl

end Regex

namespace Pattern

variable {p : Pattern} {start name path : String} {dict : MatchDict}

/-! ## A literal text and a remainder -/

def slashed (start : String) : String := String.ofList (withSlash start.toList)

/-- A literal text with a star and a name behind it is a pattern of these two. -/
theorem exists_compile (hstart : hasField start.toList = false)
    (hword : name.toList.all Text.isWordChar = true)
    (hname : Regex.isGroupName name.toList = true) :
    ∃ p, compile (start ++ "*" ++ name) = .ok p ∧ p.parts = [.literal (slashed start)] ∧
      p.remainder = some name := by
  have hsource : (start ++ "*" ++ name).toList = start.toList ++ '*' :: name.toList := by simp
  have hsplit : splitStar (start ++ "*" ++ name).toList = (start.toList, some name.toList) := by
    rw [hsource]
    exact splitStar_name hword
  have hne : name.toList ≠ [] := by
    intro hnil
    rw [hnil] at hname
    cases hname
  have hremainder : ((some name.toList).filter (!·.isEmpty)).map String.ofList = some name := by
    simp [Option.filter, hne]
  have hexpression : expressionText [.literal (slashed start)] (some name) =
      '^' :: (Regex.escapeLiteral (withSlash start.toList) ++
        ("(?P<".toList ++ (name.toList ++ '>' :: (".*?".toList ++ ')' :: ['$'])))) := by
    have hpart : partText (.literal (slashed start)) =
        Regex.escapeLiteral (withSlash start.toList) :=
      congrArg Regex.escapeLiteral String.toList_ofList
    rw [expressionText_some, List.flatMap_singleton, hpart]
  obtain ⟨r, hr⟩ := Regex.exists_parseChars? (withSlash start.toList) hname
    (notMem_of_isGroupName hname)
  rw [← hexpression] at hr
  refine ⟨⟨start ++ "*" ++ name, [.literal (slashed start)], some name, r⟩, ?_, rfl, rfl⟩
  unfold compile
  rw [hsplit]
  dsimp only
  rw [hremainder, gather_of_no_field hstart, ← slashed, hr]

theorem reads_literal_iff {text : String} {cs : List Char} {found : List (String × List Char)} :
    Reads (some name) [.literal text] cs found ↔
      ∃ rest, cs = text.toList ++ rest ∧ '\n' ∉ rest ∧ found = [(name, rest)] := by
  constructor
  · intro h
    cases h with
    | literal hrest =>
        cases hrest with
        | done hnone => cases hnone
        | rest hname hline =>
            obtain rfl := Option.some.inj hname
            exact ⟨_, rfl, hline, rfl⟩
  · rintro ⟨rest, rfl, hline, rfl⟩
    exact .literal (.rest rfl hline)

/-- **The rest of a path.** A literal text with a star and a name behind it is a pattern. It matches
the paths that begin with the text, with its first slash, and hold no line feed behind it, and what
the name captures are the segments of all that is behind it. -/
theorem captures_rest_iff (hstart : hasField start.toList = false)
    (hword : name.toList.all Text.isWordChar = true)
    (hname : Regex.isGroupName name.toList = true) :
    ∃ p, compile (start ++ "*" ++ name) = .ok p ∧ ∀ path dict,
      p.match? path = some dict ↔ ∃ rest, path = slashed start ++ rest ∧ '\n' ∉ rest.toList ∧
        dict = ⟨[(name, .segments (Path.segments rest))]⟩ := by
  obtain ⟨p, hcompile, hparts, hremainder⟩ := exists_compile hstart hword hname
  have hexpression : p.expression = Regex.anchored (wholePieces 0 p.parts p.remainder) := by
    apply (expression_eq hcompile _ _).2
    · rw [hparts]
      rfl
    · intro field hfield
      rw [hparts] at hfield
      cases hfield
  have hmatched : ∀ path dict, p.match? path = some dict →
      ∃ rest, path = slashed start ++ rest ∧ '\n' ∉ rest.toList ∧
        dict = ⟨[(name, .segments (Path.segments rest))]⟩ := by
    intro path dict hmatch
    obtain ⟨found, hreads, rfl, -⟩ := exists_reads_of_match? hexpression hmatch
    rw [hparts, hremainder] at hreads
    obtain ⟨rest, hpath, hline, rfl⟩ := reads_literal_iff.mp hreads
    refine ⟨String.ofList rest, ?_, ?_, ?_⟩
    · rw [← String.toList_inj, hpath]
      simp
    · rw [String.toList_ofList]
      exact hline
    · rw [← capturedValue_remainder hremainder]
      rfl
  refine ⟨p, hcompile, fun path dict => ⟨hmatched path dict, ?_⟩⟩
  rintro ⟨rest, rfl, hline, rfl⟩
  have hreads : Reads p.remainder p.parts (slashed start ++ rest).toList [(name, rest.toList)] := by
    rw [hparts, hremainder]
    exact reads_literal_iff.mpr ⟨rest.toList, String.toList_append, hline, rfl⟩
  obtain ⟨texts, htexts⟩ := exists_captures?_of_reads hexpression hreads
  obtain ⟨dict, hdict⟩ : ∃ dict, p.match? (slashed start ++ rest) = some dict := by
    rw [match?, htexts]
    exact ⟨_, rfl⟩
  -- what is behind the text is determined by the path
  obtain ⟨rest', hpath, -, rfl⟩ := hmatched _ _ hdict
  rw [String.append_right_inj] at hpath
  rw [hdict, hpath]

/-- Braces around a digit are no field. -/
theorem captures_rest_numbered :
    ∃ p, compile "files/{9}/*path" = .ok p ∧
      p.match? "/files/{9}/a//b/../é/" = some ⟨[("path", .segments ["a", "é"])]⟩ ∧
      p.match? "/files/9/a" = none := by
  obtain ⟨p, hcompile, hmatch⟩ :=
    @captures_rest_iff "files/{9}/" "path" (by decide) (by decide) (by decide)
  refine ⟨p, hcompile, (hmatch _ _).mpr ⟨"a//b/../é/", by decide, by decide, by decide⟩, ?_⟩
  rw [Option.eq_none_iff_forall_ne_some]
  intro dict hdict
  obtain ⟨rest, hpath, -⟩ := (hmatch _ _).mp hdict
  have hbegins : (slashed "files/{9}/").toList <+: "/files/9/a".toList := by
    rw [hpath, String.toList_append]
    exact List.prefix_append _ _
  revert hbegins
  decide

/-- A path may hold a line feed: then the rest is not captured, although the path begins as the
pattern does. -/
theorem not_captured_line_feed :
    ∃ p, compile "/static/*subpath" = .ok p ∧
      (Request.blank "/static/a%0Ab").pathInfo = slashed "/static/" ++ "a\nb" ∧
      p.match? (Request.blank "/static/a%0Ab").pathInfo = none := by
  have hcomputed : ((compile "/static/*subpath").toOption.map fun p =>
        decide ((Request.blank "/static/a%0Ab").pathInfo = slashed "/static/" ++ "a\nb") &&
          (p.match? (Request.blank "/static/a%0Ab").pathInfo).isNone) = some true := by
    decide +kernel
  obtain ⟨p, hcompile, hp⟩ := exists_compiled hcomputed
  rw [Bool.and_eq_true, decide_eq_true_eq, Option.isNone_iff_eq_none] at hp
  exact ⟨p, hcompile, hp⟩

end Pattern

end WebDispatch
