import WebDispatch.Predicate.Basic
import WebDispatch.Proofs.Path.RoundTrip
import WebDispatch.Proofs.Path.Source

/-!
# Generated paths

A path that is generated is made of characters that stand for themselves in a path and of escapes,
and of nothing else (`pathText_of_generate`): values cannot begin a query or a fragment. Whatever was
escaped, its bytes are those of the spelling of the pattern, so that the path which a route gives
its requests to traverse has the segments of the values as they are.

* `PathText` — texts of characters and escapes that a path may hold;
* `generated_faithful` — what can be generated, and what it stands for.
-/

namespace WebDispatch

namespace Text

variable {cs ds : List Char} {c : Char} {keep : Char → Bool}

/-! ## Characters of paths -/

/-- The characters that a path holds as they are. -/
def isPathChar (c : Char) : Bool := c.isAlphanum || "-._~!$&'()*+,;=:@/".toList.contains c

def isEscapeDigit (c : Char) : Bool := "0123456789ABCDEF".toList.contains c

/-- Texts of characters that a path may hold, and of escapes. -/
inductive PathText : List Char → Prop where
  | nil : PathText []
  | char {c : Char} {cs : List Char} (hc : isPathChar c = true) (h : PathText cs) :
      PathText (c :: cs)
  | escape {a b : Char} {cs : List Char} (ha : isEscapeDigit a = true)
      (hb : isEscapeDigit b = true) (h : PathText cs) : PathText ('%' :: a :: b :: cs)

/-- A printable ASCII character other than the blank and the signs that end a path. -/
def IsVisible (c : Char) : Prop := 0x20 < c.toNat ∧ c.toNat < 0x7F ∧ c ≠ '?' ∧ c ≠ '#'

instance : Decidable (IsVisible c) := inferInstanceAs (Decidable (_ ∧ _))

theorem isVisible_of_isAlphanum (h : c.isAlphanum = true) : IsVisible c := by
  have hkinds : c.isUpper = true ∨ c.isLower = true ∨ c.isDigit = true := by
    rw [← Bool.or_eq_true, ← Bool.or_eq_true, ← Bool.or_assoc]
    exact h
  have hrange : 0x41 ≤ c.toNat ∧ c.toNat ≤ 0x5A ∨ 0x61 ≤ c.toNat ∧ c.toNat ≤ 0x7A ∨
      0x30 ≤ c.toNat ∧ c.toNat ≤ 0x39 := by
    rcases hkinds with hupper | hlower | hdigit
    · have hbounds : 'A'.val ≤ c.val ∧ c.val ≤ 'Z'.val := of_decide_eq_true hupper
      exact Or.inl hbounds
    · obtain ⟨hlow, hhigh⟩ := (Bool.and_eq_true _ _).mp hlower
      exact Or.inr (Or.inl ⟨of_decide_eq_true hlow, of_decide_eq_true hhigh⟩)
    · obtain ⟨hlow, hhigh⟩ := (Bool.and_eq_true _ _).mp hdigit
      exact Or.inr (Or.inr ⟨of_decide_eq_true hlow, of_decide_eq_true hhigh⟩)
  have hquery : '?'.toNat = 0x3F := rfl
  have hfragment : '#'.toNat = 0x23 := rfl
  refine ⟨by omega, by omega, ?_, ?_⟩
  · rintro rfl
    omega
  · rintro rfl
    omega

theorem isVisible_of_isPathChar (h : isPathChar c = true) : IsVisible c := by
  have hpunctuation : ("-._~!$&'()*+,;=:@/".toList.all fun c => IsVisible c) = true := by decide
  rw [isPathChar, Bool.or_eq_true, List.contains_iff_mem] at h
  rcases h with h | h
  · exact isVisible_of_isAlphanum h
  · exact of_decide_eq_true (List.all_eq_true.mp hpunctuation c h)

theorem isVisible_of_isEscapeDigit (h : isEscapeDigit c = true) : IsVisible c := by
  have hdigits : ("0123456789ABCDEF".toList.all fun c => IsVisible c) = true := by decide
  rw [isEscapeDigit, List.contains_iff_mem] at h
  exact of_decide_eq_true (List.all_eq_true.mp hdigits c h)

namespace PathText

theorem append (h : PathText cs) (h' : PathText ds) : PathText (cs ++ ds) := by
  induction h with
  | nil => exact h'
  | char hc _ ih => exact ih.char hc
  | escape ha hb _ ih => exact ih.escape ha hb

theorem isVisible (h : PathText cs) : ∀ c ∈ cs, IsVisible c := by
  induction h with
  | nil => simp
  | char hc _ ih => exact List.forall_mem_cons.mpr ⟨isVisible_of_isPathChar hc, ih⟩
  | escape ha hb _ ih =>
      rw [List.forall_mem_cons, List.forall_mem_cons, List.forall_mem_cons]
      exact ⟨by decide, isVisible_of_isEscapeDigit ha, isVisible_of_isEscapeDigit hb, ih⟩

end PathText

theorem pathText_escapeByte (hkeep : ∀ c, keep c = true → isPathChar c = true) (b : UInt8) :
    PathText (escapeByte keep b) := by
  have hdigit : ∀ n < 16, isEscapeDigit (hexDigit n) = true := by decide
  have hb : b.toNat < 256 := b.toNat_lt
  rw [escapeByte]
  split
  · next h =>
      rw [Bool.and_eq_true] at h
      exact PathText.nil.char (hkeep _ h.2)
  · exact PathText.nil.escape (hdigit _ (by omega)) (hdigit _ (by omega))

theorem pathText_percentEncode (hkeep : ∀ c, keep c = true → isPathChar c = true) (s : String) :
    PathText (percentEncode keep s).toList := by
  rw [percentEncode, String.toList_ofList]
  induction encode s with
  | nil => exact PathText.nil
  | cons b bytes ih => exact (pathText_escapeByte hkeep b).append ih

theorem isPathChar_of_keptInSegment (h : keptInSegment c = true) : isPathChar c = true := by
  have hpunctuation : "-._~!$&'()*+,;=:@".toList.all isPathChar = true := by decide
  rw [keptInSegment, Bool.or_eq_true, List.contains_iff_mem] at h
  rcases h with h | h
  · rw [isPathChar, h, Bool.true_or]
  · exact List.all_eq_true.mp hpunctuation c h

theorem isPathChar_of_keptInPath (h : keptInPath c = true) : isPathChar c = true := by
  rw [keptInPath, Bool.or_eq_true, decide_eq_true_eq] at h
  rcases h with h | rfl
  · exact isPathChar_of_keptInSegment h
  · decide

theorem pathText_quotePath (s : String) : PathText (quotePath s).toList :=
  pathText_percentEncode (fun _ => isPathChar_of_keptInPath) s

theorem pathText_quoteSegment (s : String) : PathText (quoteSegment s).toList :=
  pathText_percentEncode (fun _ => isPathChar_of_keptInSegment) s

theorem pathText_joinWith_quoteSegment (pieces : List String) :
    PathText (joinWith "/" (pieces.map quoteSegment)).toList := by
  have hslash : PathText "/".toList := PathText.nil.char (by decide)
  refine joinWith_induction (P := fun s => PathText s.toList) PathText.nil hslash ?_ ?_
  · intro s t hs ht
    rw [String.toList_append]
    exact hs.append ht
  · intro piece hpiece
    obtain ⟨s, -, rfl⟩ := List.mem_map.mp hpiece
    exact pathText_quoteSegment s

end Text

namespace Pattern

open Text (PathText)

variable {source : String} {p : Pattern} {values : MatchDict} {parts : List PatternPart}
  {out : String}

/-! ## The text of a generated path -/

theorem pathText_partPath {part : PatternPart} (h : p.partPath values part = .ok out) :
    PathText out.toList := by
  cases part with
  | literal text =>
      obtain rfl := Except.ok.inj h
      exact Text.pathText_quotePath text
  | field name expression =>
      obtain ⟨v, -, rfl⟩ := Result.map_ok h
      exact Text.pathText_quoteSegment v.joined

theorem pathText_mapM_partPath {texts : List String}
    (h : parts.mapM (p.partPath values) = .ok texts) : PathText (String.join texts).toList := by
  induction parts generalizing texts with
  | nil =>
      obtain rfl := Except.ok.inj h
      exact PathText.nil
  | cons part parts ih =>
      obtain ⟨text, texts, htext, htexts, rfl⟩ := Result.mapM_cons_ok h
      rw [String.join_cons, String.toList_append]
      exact (pathText_partPath htext).append (ih htexts)

theorem pathText_remainderPath (v : MatchValue) : PathText (remainderPath v).toList := by
  cases v with
  | text s => exact Text.pathText_quotePath s
  | segments items => exact Text.pathText_joinWith_quoteSegment items

theorem pathText_of_generate (h : p.generate values = .ok out) : PathText out.toList := by
  obtain ⟨texts, htexts, ⟨-, rfl⟩ | ⟨name, v, -, -, rfl⟩⟩ := generate_eq_ok_iff.mp h
  · exact pathText_mapM_partPath htexts
  · rw [String.toList_append]
    exact (pathText_mapM_partPath htexts).append (pathText_remainderPath v)

end Pattern

namespace Predicate

variable {p : Pattern} {values d : MatchDict}

/-! ## The path to traverse -/

theorem holdsForRoute_traverse (p : Pattern) (values : MatchDict) (request : Request) :
    (traverse p).holdsForRoute values request =
      ((withTraverse p values).isSome, (withTraverse p values).getD values) := by
  simp only [holdsForRoute, holdsForRequest?]
  cases withTraverse p values with
  | none => rfl
  | some d => rfl

/-- A route is given the path to traverse where the values name one already, which is kept, and
where they give a value to every name of the pattern: then its segments are those of the spelling. -/
theorem holdsForRoute_traverse_iff (request : Request) :
    (traverse p).holdsForRoute values request = (true, d) ↔
      values.contains traverseKey = true ∧ d = values ∨
        values.contains traverseKey = false ∧ (∀ name ∈ p.names, (values.get? name).isSome) ∧
          d = values.insert traverseKey (.segments (Path.segments (p.spelling values))) := by
  rw [holdsForRoute_traverse, withTraverse]
  cases hkey : values.contains traverseKey with
  | true =>
      constructor
      · intro h
        exact Or.inl ⟨rfl, (Prod.mk.inj h).2.symm⟩
      · rintro (⟨-, rfl⟩ | ⟨hnone, -⟩)
        · rfl
        · cases hnone
  | false =>
      cases hgenerate : p.generate values with
      | ok out =>
          have hgiven := Pattern.isSome_of_generate hgenerate
          have hdecode : Text.percentDecode out = p.spelling values := by
            obtain ⟨out', hout', hstands⟩ := Pattern.exists_generate hgiven
            rw [hgenerate] at hout'
            obtain rfl := Except.ok.inj hout'
            exact hstands.percentDecode_eq
          rw [if_neg Bool.false_ne_true]
          dsimp only
          rw [hdecode]
          constructor
          · intro h
            exact Or.inr ⟨rfl, hgiven, (Prod.mk.inj h).2.symm⟩
          · rintro (⟨hsome, -⟩ | ⟨-, -, rfl⟩)
            · cases hsome
            · rfl
      | error e =>
          constructor
          · intro h
            cases (Prod.mk.inj h).1
          · rintro (⟨hsome, -⟩ | ⟨-, hgiven, -⟩)
            · cases hsome
            · obtain ⟨out, hout, -⟩ := Pattern.exists_generate hgiven
              rw [hgenerate] at hout
              cases hout

end Predicate

namespace Pattern

open Text (PathText IsVisible)

variable {source : String} {p : Pattern}

/-- **Generated paths.** From values for all of its names a pattern generates a path. It is made of
escapes and of characters that a path may hold, and holds no other. Its bytes are those of the
source of the pattern outside the braces, with the values in the place of the fields and segments
between slashes. So are the segments of the path to traverse that a pattern gives to a route. -/
theorem generate_spells (h : compile source = .ok p) :
    p.written = completed source.toList ∧
      (∀ values : MatchDict, (∀ name ∈ p.names, (values.get? name).isSome) →
        ∃ out, p.generate values = .ok out ∧ PathText out.toList ∧ (∀ c ∈ out.toList, IsVisible c) ∧
          Text.unescapeBytes (Text.encode out) = Text.encode (p.spelling values) ∧
          Text.percentDecode out = p.spelling values) ∧
      ∀ (values : MatchDict) request d, values.contains Predicate.traverseKey = false →
        ((Predicate.traverse p).holdsForRoute values request = (true, d) ↔
          (∀ name ∈ p.names, (values.get? name).isSome) ∧
            d = values.insert Predicate.traverseKey
              (.segments (Path.segments (p.spelling values)))) := by
  refine ⟨written_of_compile h, fun values hgiven => ?_, fun values request d hkey => ?_⟩
  · obtain ⟨out, hout, hstands⟩ := exists_generate hgiven
    have htext := pathText_of_generate hout
    have hbytes : Text.unescapeBytes (Text.encode out) = Text.encode (p.spelling values) := by
      have hends := hstands []
      rw [List.append_nil, Text.unescapeBytes, List.append_nil] at hends
      exact hends
    exact ⟨out, hout, htext, htext.isVisible, hbytes, hstands.percentDecode_eq⟩
  · rw [Predicate.holdsForRoute_traverse_iff, hkey]
    simp

/-- What a value would mean in a path is escaped, and is back when the path is traversed. -/
theorem generate_spells_signs :
    ∃ p out, compile "caf\u00e9/{name}/*path" = .ok p ∧
      p.generate ⟨[("name", .text "?/"), ("path", .segments ["#", "%2F"])]⟩ = .ok out ∧
      PathText out.toList ∧ Text.percentDecode out = "/caf\u00e9/?//#/%2F" ∧
      (Predicate.traverse p).holdsForRoute
          ⟨[("name", .text "?/"), ("path", .segments ["#", "%2F"])]⟩ (Request.blank "/") =
        (true, ⟨[("name", .text "?/"), ("path", .segments ["#", "%2F"]),
          ("traverse", .segments ["caf\u00e9", "?", "#", "%2F"])]⟩) := by
  have hcomputed : ((compile "caf\u00e9/{name}/*path").toOption.map fun p =>
        (p.parts, p.remainder)) =
      some ([.literal "/caf\u00e9/", .field "name" none, .literal "/"], some "path") := by
    decide +kernel
  obtain ⟨p, hcompile, hp⟩ := exists_compiled hcomputed
  obtain ⟨hparts, hremainder⟩ := Prod.mk.inj hp
  have hgiven : ∀ name ∈ p.names, (OrderedMap.get?
      (⟨[("name", .text "?/"), ("path", .segments ["#", "%2F"])]⟩ : MatchDict) name).isSome := by
    rw [names, hparts, hremainder]
    decide
  have hspelling : p.spelling ⟨[("name", .text "?/"), ("path", .segments ["#", "%2F"])]⟩ =
      "/caf\u00e9/?//#/%2F" := by
    rw [spelling, hparts, hremainder]
    decide
  obtain ⟨-, hgenerate, htraverse⟩ := generate_spells hcompile
  obtain ⟨out, hout, htext, -, -, hdecode⟩ := hgenerate _ hgiven
  refine ⟨p, out, hcompile, hout, htext, hdecode.trans hspelling, ?_⟩
  refine (htraverse _ _ _ (by decide)).mpr ⟨hgiven, ?_⟩
  rw [hspelling]
  decide

end Pattern

end WebDispatch
