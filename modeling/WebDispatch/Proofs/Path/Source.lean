import Mathlib.Data.List.TakeWhile
import WebDispatch.Path.Pattern

/-!
# Patterns as they are written

The parts of a pattern, written one after the other with their braces, are its source again: with
the slash that a pattern begins with, and without a star at the end that has no name behind it
(`written_of_compile`). So the literal parts are the source outside the braces, character by
character.

* `partSource`, `written` — parts, and a pattern, as they are written;
* `hasField` — whether a field begins somewhere in a text; a text without one is one literal part
  (`gather_of_no_field`);
* `splitStar_name`, `splitStar_eq` — the star at the end and the name behind it.
-/

namespace WebDispatch

namespace Pattern

variable {source : String} {p : Pattern} {cs inner name body : List Char}

def Token.written : Token → List Char
  | .char c => [c]
  | .field inner => '{' :: (inner ++ ['}'])

def partSource : PatternPart → List Char
  | .literal text => text.toList
  | .field name none => '{' :: (name.toList ++ ['}'])
  | .field name (some expression) => '{' :: (name.toList ++ ':' :: expression.toList ++ ['}'])

def starSource : Option (List Char) → List Char
  | none => []
  | some name => '*' :: name

def written (p : Pattern) : List Char :=
  p.parts.flatMap partSource ++ starSource (p.remainder.map String.toList)

/-- The source of a pattern with its first slash, and without a star that names nothing. -/
def completed (source : List Char) : List Char :=
  withSlash (if source.getLast? = some '*' then source.dropLast else source)

/-! ## Fields -/

theorem exists_of_fieldBody? {nested : Bool} (h : fieldBody? nested cs = some inner) :
    ∃ rest, cs = inner ++ '}' :: rest := by
  induction cs generalizing nested inner with
  | nil => cases h
  | cons c cs ih =>
      have hlonger : ∀ nested', (fieldBody? nested' cs).map (c :: ·) = some inner →
          ∃ rest, c :: cs = inner ++ '}' :: rest := by
        intro nested' hmap
        obtain ⟨inner', hinner, rfl⟩ := Option.map_eq_some_iff.mp hmap
        obtain ⟨rest, rfl⟩ := ih hinner
        exact ⟨rest, rfl⟩
      rw [fieldBody?] at h
      split at h
      · next hclose =>
          split at h
          · exact hlonger false h
          · obtain rfl := Option.some.inj h
            exact ⟨cs, by rw [hclose]; rfl⟩
      · split at h
        · split at h
          · cases h
          · exact hlonger true h
        · exact hlonger nested h

theorem exists_of_fieldAt? (h : fieldAt? cs = some inner) : ∃ rest, cs = inner ++ '}' :: rest := by
  cases cs with
  | nil => cases h
  | cons c cs =>
      rw [fieldAt?] at h
      split at h
      · exact exists_of_fieldBody? h
      · cases h

theorem eq_of_cutChars? {sep : Char} {left right : List Char}
    (h : Text.cutChars? sep cs = some (left, right)) : cs = left ++ sep :: right := by
  induction cs generalizing left with
  | nil => cases h
  | cons c cs ih =>
      rw [Text.cutChars?] at h
      split at h
      · next hc =>
          obtain ⟨rfl, rfl⟩ := Prod.mk.inj (Option.some.inj h)
          rw [hc]
          rfl
      · obtain ⟨⟨left', right'⟩, hcut, hpair⟩ := Option.map_eq_some_iff.mp h
        obtain ⟨rfl, rfl⟩ := Prod.mk.inj hpair
        rw [ih hcut]
        rfl

/-! ## Tokens and parts -/

theorem flatMap_written_tokens (skip : Nat) (cs : List Char) :
    (tokens skip cs).flatMap Token.written = cs.drop skip := by
  induction cs generalizing skip with
  | nil => cases skip <;> simp [tokens]
  | cons c cs ih =>
      cases skip with
      | succ skip => simpa [tokens] using ih skip
      | zero =>
          have hchar : (Token.char c :: tokens 0 cs).flatMap Token.written = c :: cs := by
            simp [Token.written, ih]
          rw [tokens, List.drop_zero]
          split
          · next hopen =>
              split
              · next inner hinner =>
                  obtain ⟨rest, rfl⟩ := exists_of_fieldAt? hinner
                  simp [Token.written, ih, hopen]
              · exact hchar
          · exact hchar

theorem partSource_partOf (inner : List Char) :
    partSource (partOf inner) = '{' :: (inner ++ ['}']) := by
  unfold partOf
  cases hcut : Text.cutChars? ':' inner with
  | none => simp [partSource]
  | some sides =>
      obtain ⟨name, expression⟩ := sides
      rw [eq_of_cutChars? hcut]
      simp [partSource]

theorem flatMap_partSource_gather (chars : List Char) (ts : List Token) :
    (gather chars ts).flatMap partSource = chars.reverse ++ ts.flatMap Token.written := by
  have hliteral : ∀ chars, (literalPart chars).flatMap partSource = chars.reverse := by
    intro chars
    unfold literalPart
    cases chars with
    | nil => rfl
    | cons c chars => simp [partSource]
  induction ts generalizing chars with
  | nil => simp [gather, hliteral]
  | cons t ts ih =>
      cases t with
      | char c => simp [gather, ih, Token.written]
      | field inner => simp [gather, ih, hliteral, partSource_partOf, Token.written]

def hasField : List Char → Bool
  | [] => false
  | c :: rest => (c = '{' && (fieldAt? rest).isSome) || hasField rest

theorem hasField_withSlash (cs : List Char) : hasField (withSlash cs) = hasField cs := by
  unfold withSlash
  split
  · rfl
  · rfl

theorem tokens_of_no_field (h : hasField cs = false) : tokens 0 cs = cs.map Token.char := by
  induction cs with
  | nil => rfl
  | cons c cs ih =>
      rw [hasField, Bool.or_eq_false_iff] at h
      rw [tokens, ih h.2]
      split
      · next hopen =>
          cases hinner : fieldAt? cs with
          | none => rfl
          | some inner =>
              rw [hopen, hinner] at h
              cases h.1
      · rfl

/-- A text without fields is one literal part, with the slash that it begins with. -/
theorem gather_of_no_field (h : hasField cs = false) :
    gather [] (tokens 0 (withSlash cs)) = [.literal (String.ofList (withSlash cs))] := by
  have hchars : ∀ chars cs : List Char,
      gather chars (cs.map Token.char) = literalPart (cs.reverse ++ chars) := by
    intro chars cs
    induction cs generalizing chars with
    | nil => rfl
    | cons c cs ih => simp [gather, ih]
  have hne : withSlash cs ≠ [] := by
    unfold withSlash
    split <;> simp
  rw [tokens_of_no_field ((hasField_withSlash cs).trans h), hchars, literalPart]
  simp [hne]

/-! ## The star at the end -/

theorem splitStar_eq (cs : List Char) :
    (splitStar cs).1 ++ starSource (splitStar cs).2 = cs := by
  unfold splitStar
  generalize hname : cs.reverse.takeWhile (· ≠ '*') = name
  dsimp only
  split
  · next h =>
      rw [Bool.and_eq_true, decide_eq_true_eq] at h
      have hsplit : name ++ cs.reverse.dropWhile (· ≠ '*') = cs.reverse := by
        rw [← hname]
        exact List.takeWhile_append_dropWhile
      cases hrest : cs.reverse.dropWhile (· ≠ '*') with
      | nil =>
          rw [hrest, List.append_nil] at hsplit
          have hlength := congrArg List.length hsplit
          rw [List.length_reverse] at hlength
          omega
      | cons c rest =>
          have hstar : c = '*' := by
            have hhead := List.head?_dropWhile_not (fun d : Char => d ≠ '*') cs.reverse
            rw [hrest] at hhead
            simpa using hhead
          rw [hrest, hstar] at hsplit
          have hcs : cs = rest.reverse ++ '*' :: name.reverse := by
            rw [← List.reverse_reverse cs, ← hsplit]
            simp
          have htake : cs.take (cs.length - name.length - 1) = rest.reverse := by
            rw [hcs]
            apply List.take_left'
            simp
            omega
          rw [htake]
          exact hcs.symm
  · exact List.append_nil cs

/-- A name behind a star is found at the end of a text. -/
theorem splitStar_name (hname : name.all Text.isWordChar = true) :
    splitStar (body ++ '*' :: name) = (body, some name) := by
  have hstar : '*' ∉ name := by
    intro hmem
    have hword : Text.isWordChar '*' = false := by decide
    have hchar := List.all_eq_true.mp hname _ hmem
    rw [hword] at hchar
    cases hchar
  have htake : (body ++ '*' :: name).reverse.takeWhile (· ≠ '*') = name.reverse := by
    rw [List.reverse_append, List.reverse_cons, List.append_assoc,
      List.takeWhile_append_of_pos]
    · simp
    · intro c hc
      refine decide_eq_true fun hc' => hstar ?_
      rw [← hc']
      exact List.mem_reverse.mp hc
  unfold splitStar
  rw [htake]
  dsimp only
  rw [if_pos]
  · rw [List.reverse_reverse, Prod.mk.injEq]
    refine ⟨List.take_left' ?_, rfl⟩
    simp
    omega
  · rw [Bool.and_eq_true, decide_eq_true_eq, List.all_reverse]
    refine ⟨?_, hname⟩
    simp
    omega

theorem getLast?_ne_of_splitStar (h : (splitStar cs).2 = none) : cs.getLast? ≠ some '*' := by
  intro hlast
  obtain ⟨body, rfl⟩ := List.getLast?_eq_some_iff.mp hlast
  have hsplit : splitStar (body ++ ['*']) = (body, some []) := splitStar_name rfl
  rw [hsplit] at h
  cases h

theorem notMem_of_splitStar_eq_some (h : (splitStar cs).2 = some name) : '*' ∉ name := by
  unfold splitStar at h
  dsimp only at h
  split at h
  · obtain rfl := Option.some.inj h
    intro hmem
    have hne := List.mem_takeWhile_imp (List.mem_reverse.mp hmem)
    simp at hne
  · cases h

theorem withSlash_append (cs : List Char) {rest : List Char} (h : rest.head? ≠ some '/') :
    withSlash (cs ++ rest) = withSlash cs ++ rest := by
  cases cs with
  | nil =>
      cases rest with
      | nil => rfl
      | cons c rest =>
          have hc : c ≠ '/' := by simpa using h
          simp [withSlash, hc]
  | cons c cs =>
      by_cases hc : c = '/'
      · subst hc
        rfl
      · simp [withSlash, hc]

/-! ## The source of a pattern -/

theorem parts_of_compile (h : compile source = .ok p) :
    p.parts = gather [] (tokens 0 (withSlash (splitStar source.toList).1)) ∧
      p.remainder = ((splitStar source.toList).2.filter (!·.isEmpty)).map String.ofList := by
  unfold compile at h
  generalize splitStar source.toList = split at h ⊢
  obtain ⟨body, star⟩ := split
  dsimp only at h
  split at h
  · obtain rfl := Except.ok.inj h
    exact ⟨rfl, rfl⟩
  · cases h

/-- **A pattern as it is written** is its source, completed. -/
theorem written_of_compile (h : compile source = .ok p) : p.written = completed source.toList := by
  obtain ⟨hparts, hremainder⟩ := parts_of_compile h
  have hsource := splitStar_eq source.toList
  have hbody : p.parts.flatMap partSource = withSlash (splitStar source.toList).1 := by
    rw [hparts, flatMap_partSource_gather, flatMap_written_tokens]
    rfl
  rw [written, hbody, hremainder]
  rcases hstar : (splitStar source.toList).2 with _ | _ | ⟨c, name⟩
  · have hlast := getLast?_ne_of_splitStar hstar
    rw [hstar, starSource, List.append_nil] at hsource
    rw [completed, if_neg hlast, hsource]
    exact List.append_nil _
  · rw [hstar] at hsource
    have hlast : source.toList.getLast? = some '*' := by
      rw [← hsource]
      exact List.getLast?_concat
    have hdrop : source.toList.dropLast = (splitStar source.toList).1 :=
      (congrArg List.dropLast hsource).symm.trans List.dropLast_concat
    rw [completed, if_pos hlast, hdrop]
    exact List.append_nil _
  · have hnot := notMem_of_splitStar_eq_some hstar
    rw [hstar] at hsource
    have hlast : source.toList.getLast? ≠ some '*' := by
      rw [← hsource]
      intro hlast
      have hmem : '*' ∈ c :: name := by
        apply List.mem_of_getLast?
        rw [starSource, List.getLast?_append] at hlast
        simpa using hlast
      exact hnot hmem
    have hword : (starSource (some (c :: name))).head? ≠ some '/' := by simp [starSource]
    have hwhole := withSlash_append (splitStar source.toList).1 hword
    rw [hsource] at hwhole
    rw [completed, if_neg hlast, hwhole]
    simp [Option.filter]

end Pattern

end WebDispatch
