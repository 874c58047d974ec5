import Mathlib.Data.List.Basic
import WebDispatch.Proofs.Path.Spelling

/-!
# Paths made from values, and values read off paths

A pattern of plain fields turns values into a path and a path into values. Each undoes the other
exactly when no name of a field holds an angle bracket: where one does, the expression of the pattern
has groups of other names, and what it captures is not what the generator asks for
(`notMem_of_mem_keys`).

* `regenerated_iff` — a path that matches, made again from what it gives the names;
* `recovered_iff` — values, read off the path made from them. The way of reading is unique where a
  slash stands between any two names, so that it must be the one that the values spell.
-/

namespace WebDispatch

namespace Pattern

variable {source path : String} {p : Pattern} {values dict : MatchDict} {name : String}
  {found : List (String × List Char)}

/-! ## What is captured -/

def readValues (p : Pattern) (found : List (String × List Char)) : MatchDict :=
  .ofList (found.map fun e => (e.1, p.capturedValue e.1 (String.ofList e.2)))

/-- A match of a plain pattern gives its names what was read off the path. -/
theorem exists_reads_of_match?
    (hexpression : p.expression = Regex.anchored (wholePieces 0 p.parts p.remainder))
    (h : p.match? path = some dict) :
    ∃ found, Reads p.remainder p.parts path.toList found ∧ dict = p.readValues found ∧
      p.captures? path = some (found.map fun e => (e.1, String.ofList e.2)) := by
  obtain ⟨texts, htexts, rfl⟩ := Option.map_eq_some_iff.mp h
  obtain ⟨found, hreads, rfl⟩ := exists_reads_of_captures? hexpression htexts
  refine ⟨found, hreads, ?_, htexts⟩
  rw [readValues, List.map_map]
  rfl

theorem mem_keys_readValues : name ∈ (p.readValues found).keys ↔ name ∈ found.map (·.1) := by
  rw [readValues, OrderedMap.mem_keys_ofList, List.map_map]
  rfl

theorem get?_readValues (hnodup : (found.map (·.1)).Nodup) {taken : List Char}
    (h : (name, taken) ∈ found) :
    (p.readValues found).get? name = some (p.capturedValue name (String.ofList taken)) := by
  unfold readValues
  rw [OrderedMap.get?_eq_some_iff (OrderedMap.nodup_keys_ofList _), OrderedMap.toList_ofList]
  · exact List.mem_map_of_mem h
  · rw [List.map_map]
    exact hnodup

/-- No pattern captures anything under a name with an angle bracket. -/
theorem notMem_of_mem_keys (h : compile source = .ok p) (hmatch : p.match? path = some dict)
    (hname : name ∈ dict.keys) : '>' ∉ name.toList := by
  obtain ⟨texts, htexts, rfl⟩ := Option.map_eq_some_iff.mp hmatch
  obtain ⟨place, -, rfl⟩ := Option.map_eq_some_iff.mp htexts
  rw [OrderedMap.mem_keys_ofList, List.map_map, List.map_map] at hname
  obtain ⟨group, hgroup, rfl⟩ := List.mem_map.mp hname
  exact notMem_of_mem_groupNames h hgroup

/-- The values of fields and of the remainder are told apart by their names. -/
theorem remainder_ne_of_mem (hnodup : p.names.Nodup) (hname : name ∈ fieldNames p.parts) :
    p.remainder ≠ some name := by
  intro hremainder
  rw [names, hremainder, List.nodup_append] at hnodup
  exact hnodup.2.2 name hname name (by simp) rfl

theorem capturedValue_field (hnodup : p.names.Nodup) (hname : name ∈ fieldNames p.parts)
    (text : String) : p.capturedValue name text = .text text :=
  if_neg (remainder_ne_of_mem hnodup hname)

theorem capturedValue_remainder (hremainder : p.remainder = some name) (text : String) :
    p.capturedValue name text = .segments (Path.segments text) :=
  if_pos hremainder

/-! ## Paths made again -/

/-- The text that a name captures from a path, empty if it captures none. -/
def capturedText (p : Pattern) (path name : String) : String :=
  ((p.captures? path).bind fun found => (OrderedMap.ofList found).get? name).getD ""

/-- A path with what the remainder captures at its end written as the segments of that. -/
def regularized (p : Pattern) (path : String) : String :=
  match p.remainder with
  | none => path
  | some name =>
    let tail := p.capturedText path name
    String.ofList (path.toList.take (path.length - tail.length)) ++
      Text.joinWith "/" (Path.segments tail)

theorem capturedText_of_mem
    (hcaptures : p.captures? path = some (found.map fun e => (e.1, String.ofList e.2)))
    (hnodup : (found.map (·.1)).Nodup) {taken : List Char} (h : (name, taken) ∈ found) :
    p.capturedText path name = String.ofList taken := by
  have hget : (OrderedMap.ofList (found.map fun e => (e.1, String.ofList e.2))).get? name =
      some (String.ofList taken) := by
    rw [OrderedMap.get?_eq_some_iff (OrderedMap.nodup_keys_ofList _), OrderedMap.toList_ofList]
    · exact List.mem_map_of_mem h
    · rw [List.map_map]
      exact hnodup
  rw [capturedText, hcaptures, Option.bind_some, hget]
  rfl

/-- What was read off a path spells the path again, its remainder in regular form. -/
theorem spelling_readValues (hnodup : p.names.Nodup)
    (hreads : Reads p.remainder p.parts path.toList found)
    (hcaptures : p.captures? path = some (found.map fun e => (e.1, String.ofList e.2))) :
    p.spelling (p.readValues found) = p.regularized path := by
  have hdistinct : (found.map (·.1)).Nodup := hreads.map_fst ▸ hnodup
  obtain ⟨fields, tail, hsplit, hfields, hnone, hfront⟩ := hreads.exists_front
  have hpath := hfront (p.readValues found) fun e he => by
    have hmem : e ∈ found := hsplit ▸ List.mem_append_left _ he
    have hname : e.1 ∈ fieldNames p.parts := hfields ▸ List.mem_map_of_mem he
    rw [valueText_of_get? (get?_readValues hdistinct hmem), capturedValue_field hnodup hname]
    rfl
  cases hremainder : p.remainder with
  | none =>
      rw [hnone hremainder, List.append_nil, String.toList_inj] at hpath
      rw [spelling, regularized, hremainder, hpath]
      exact String.append_empty
  | some name =>
      have hmem : (name, tail) ∈ found := by
        rw [hsplit, hremainder]
        simp
      have htext : valueText (p.readValues found) name =
          Text.joinWith "/" (Path.segments (String.ofList tail)) := by
        rw [valueText_of_get? (get?_readValues hdistinct hmem), capturedValue_remainder hremainder]
        rfl
      -- what the remainder captured is the end of the path
      have hlength : path.length - (String.ofList tail).length =
          (String.join (p.parts.map (partSpelling (p.readValues found)))).toList.length := by
        rw [← String.length_toList, hpath, List.length_append, ← String.length_toList,
          String.toList_ofList]
        exact Nat.add_sub_cancel _ _
      rw [spelling, regularized, hremainder]
      simp only [capturedText_of_mem hcaptures hdistinct hmem]
      rw [hlength, Option.map_some, Option.getD_some, htext, hpath, List.take_left,
        String.ofList_toList]

/-- **Paths made again.** A path that a pattern of plain fields matches can be made again from what it
gives the names, its remainder in regular form, exactly when no name of a field holds an angle
bracket. -/
theorem regenerated_iff (h : compile source = .ok p) (hplain : isPlain p.parts = true)
    (hmatch : p.match? path = some dict) :
    (∃ out, p.generate dict = .ok out ∧ Text.percentDecode out = p.regularized path) ↔
      ∀ name ∈ fieldNames p.parts, '>' ∉ name.toList := by
  constructor
  · rintro ⟨out, hout, -⟩ name hname
    apply notMem_of_mem_keys h hmatch
    rw [← OrderedMap.isSome_get?_iff]
    exact isSome_of_generate hout name (List.mem_append_left _ hname)
  · intro hfields
    obtain ⟨hnodup, hexpression⟩ := expression_eq h hplain hfields
    obtain ⟨found, hreads, rfl, hcaptures⟩ := exists_reads_of_match? hexpression hmatch
    have hgiven : ∀ name ∈ p.names, ((p.readValues found).get? name).isSome := by
      intro name hname
      rw [OrderedMap.isSome_get?_iff, mem_keys_readValues, hreads.map_fst]
      exact hname
    obtain ⟨out, hout, hstands⟩ := exists_generate hgiven
    refine ⟨out, hout, ?_⟩
    rw [hstands.percentDecode_eq]
    exact spelling_readValues hnodup hreads hcaptures

/-- What is computed from a pattern that compiles. -/
theorem exists_compiled {α : Type} {f : Pattern → α} {a : α}
    (h : (compile source).toOption.map f = some a) : ∃ p, compile source = .ok p ∧ f p = a := by
  cases hcompile : compile source with
  | error e =>
      rw [hcompile] at h
      cases h
  | ok p =>
      rw [hcompile] at h
      exact ⟨p, rfl, Option.some.inj h⟩

theorem regenerated_userFiles :
    ∃ p dict out, compile "users/{name}/*path" = .ok p ∧
      p.match? "/users/jo e/a//./b/" = some dict ∧ p.generate dict = .ok out ∧
      Text.percentDecode out = "/users/jo e/a/b" := by
  have hcomputed : ((compile "users/{name}/*path").toOption.map fun p =>
        (p.parts, p.match? "/users/jo e/a//./b/", p.regularized "/users/jo e/a//./b/")) =
      some ([.literal "/users/", .field "name" none, .literal "/"],
        some ⟨[("name", .text "jo e"), ("path", .segments ["a", "b"])]⟩, "/users/jo e/a/b") := by
    decide +kernel
  obtain ⟨p, hcompile, hp⟩ := exists_compiled hcomputed
  simp only [Prod.mk.injEq] at hp
  obtain ⟨hparts, hmatch, hregular⟩ := hp
  obtain ⟨out, hout, hdecode⟩ :=
    (regenerated_iff hcompile (by rw [hparts]; rfl) hmatch).mpr (by rw [hparts]; decide)
  exact ⟨p, _, out, hcompile, hmatch, hout, hdecode.trans hregular⟩

/-- A pattern with an angle bracket in the name of its field. Its expression has a group `a`, with
the rest of the name in the body. -/
theorem exists_angled : ∃ p, compile "{a>b}" = .ok p ∧
    p.parts = [.literal "/", .field "a>b" none] ∧ p.remainder = none ∧
    p.match? "/x" = none ∧ p.match? "/b>x" = some ⟨[("a", .text "b>x")]⟩ := by
  have hcomputed : ((compile "{a>b}").toOption.map fun p =>
        (p.parts, p.remainder, [p.match? "/x", p.match? "/b>x"])) =
      some ([.literal "/", .field "a>b" none], none, [none, some ⟨[("a", .text "b>x")]⟩]) := by
    decide +kernel
  obtain ⟨p, hcompile, hp⟩ := exists_compiled hcomputed
  simp only [Prod.mk.injEq, List.cons.injEq, and_true] at hp
  exact ⟨p, hcompile, hp⟩

/-- What this pattern captures gives no value to the name that the generator asks for. -/
theorem not_regenerated_angled :
    ∃ p dict, compile "{a>b}" = .ok p ∧ isPlain p.parts = true ∧
      p.match? "/b>x" = some dict ∧ ∀ out, p.generate dict ≠ .ok out := by
  obtain ⟨p, hcompile, hparts, -, -, hmatch⟩ := exists_angled
  refine ⟨p, _, hcompile, by rw [hparts]; rfl, hmatch, fun out hout => ?_⟩
  have hname : "a>b" ∈ p.names := by
    rw [names, hparts]
    exact List.mem_cons_self
  have hvalue := isSome_of_generate hout "a>b" hname
  revert hvalue
  decide

/-! ## Values recovered -/

/-- Values fit a pattern if each field has a text, not empty and without a slash, and the remainder
proper segments, without slashes and line feeds. -/
structure Fits (p : Pattern) (values : MatchDict) : Prop where
  field : ∀ name ∈ fieldNames p.parts,
    ∃ s, values.get? name = some (.text s) ∧ s ≠ "" ∧ '/' ∉ s.toList
  remainder : ∀ name ∈ p.remainder, ∃ items, values.get? name = some (.segments items) ∧
    ∀ item ∈ items, Path.isProper item = true ∧ '/' ∉ item.toList ∧ '\n' ∉ item.toList

/-- The values of the names of a pattern alone, in the order of the names. -/
def restricted (p : Pattern) (values : MatchDict) : MatchDict :=
  .ofList (p.names.filterMap fun name => (values.get? name).map (name, ·))

theorem notMem_joinWith {items : List String} (h : ∀ item ∈ items, '\n' ∉ item.toList) :
    '\n' ∉ (Text.joinWith "/" items).toList := by
  refine Text.joinWith_induction (P := fun s => '\n' ∉ s.toList) (by decide) (by decide) ?_ h
  intro s t hs ht
  rw [String.toList_append, List.mem_append, not_or]
  exact ⟨hs, ht⟩

namespace Fits

theorem isSome (h : p.Fits values) : ∀ name ∈ p.names, (values.get? name).isSome := by
  rw [names, List.forall_mem_append]
  constructor
  · intro name hname
    obtain ⟨s, hs, -⟩ := h.field name hname
    rw [hs]
    rfl
  · intro name hname
    obtain ⟨items, hitems, -⟩ := h.remainder name (Option.mem_toList.mp hname)
    rw [hitems]
    rfl

theorem reads (h : p.Fits values) : Reads p.remainder p.parts (p.spelling values).toList
    (p.names.map fun name => (name, (valueText values name).toList)) := by
  apply reads_spelling
  · intro name hname
    obtain ⟨s, hs, hproper⟩ := h.field name hname
    rw [valueText_of_get? hs]
    exact hproper
  · intro name hname
    obtain ⟨items, hitems, hproper⟩ := h.remainder name hname
    rw [valueText_of_get? hitems]
    exact notMem_joinWith fun item hitem => (hproper item hitem).2.2

/-- A value is what its name captures where the text of the value stands. -/
theorem get?_eq (h : p.Fits values) (hnodup : p.names.Nodup) (hname : name ∈ p.names) :
    values.get? name = some (p.capturedValue name (valueText values name)) := by
  rcases List.mem_append.mp hname with hfield | hremainder
  · obtain ⟨s, hs, -⟩ := h.field name hfield
    rw [capturedValue_field hnodup hfield, valueText_of_get? hs]
    exact hs
  · rw [Option.mem_toList] at hremainder
    obtain ⟨items, hitems, hproper⟩ := h.remainder name hremainder
    rw [capturedValue_remainder hremainder, valueText_of_get? hitems, MatchValue.joined,
      Path.segments_joinWith fun item hitem => ⟨(hproper item hitem).1, (hproper item hitem).2.1⟩]
    exact hitems

theorem readValues_eq (h : p.Fits values) (hnodup : p.names.Nodup) :
    p.readValues (p.names.map fun name => (name, (valueText values name).toList)) =
      p.restricted values := by
  rw [readValues, restricted, List.map_map]
  apply congrArg OrderedMap.ofList
  symm
  rw [List.filterMap_eq_map_iff_forall_eq_some]
  intro name hname
  rw [h.get?_eq hnodup hname]
  simp

end Fits

/-- **Values recovered.** From values that fit a pattern of plain fields, a slash between any two
names, a path can be made. It matches and gives the values back, those of the names of the pattern,
exactly when no name of a field holds an angle bracket. -/
theorem recovered_iff (h : compile source = .ok p) (hplain : isPlain p.parts = true)
    (hseparated : separated p.remainder false p.parts = true) (hfits : p.Fits values) :
    ∃ out, p.generate values = .ok out ∧
      (p.match? (Text.percentDecode out) = some (p.restricted values) ↔
        ∀ name ∈ fieldNames p.parts, '>' ∉ name.toList) := by
  obtain ⟨out, hout, hstands⟩ := exists_generate hfits.isSome
  refine ⟨out, hout, ?_⟩
  rw [hstands.percentDecode_eq]
  constructor
  · intro hmatch name hname
    apply notMem_of_mem_keys h hmatch
    rw [restricted, OrderedMap.mem_keys_ofList, List.mem_map]
    have hmem : name ∈ p.names := List.mem_append_left _ hname
    obtain ⟨v, hv⟩ := Option.isSome_iff_exists.mp (hfits.isSome name hmem)
    exact ⟨(name, v), List.mem_filterMap.mpr ⟨name, hmem, by rw [hv]; rfl⟩, rfl⟩
  · intro hfields
    obtain ⟨hnodup, hexpression⟩ := expression_eq h hplain hfields
    obtain ⟨texts, htexts⟩ := exists_captures?_of_reads hexpression hfits.reads
    have hmatch : ∃ dict, p.match? (p.spelling values) = some dict := by
      rw [match?, htexts]
      exact ⟨_, rfl⟩
    obtain ⟨dict, hmatch⟩ := hmatch
    obtain ⟨found, hreads, rfl, -⟩ := exists_reads_of_match? hexpression hmatch
    obtain rfl := hreads.unique hseparated hfits.reads
    rw [hmatch, hfits.readValues_eq hnodup]

theorem recovered_userFiles :
    ∃ p out, compile "users/{name}/*path" = .ok p ∧
      p.generate ⟨[("name", .text "jo e"), ("path", .segments ["a", "b?"])]⟩ = .ok out ∧
      p.match? (Text.percentDecode out) =
        some ⟨[("name", .text "jo e"), ("path", .segments ["a", "b?"])]⟩ := by
  have hcomputed : ((compile "users/{name}/*path").toOption.map fun p => (p.parts, p.remainder)) =
      some ([.literal "/users/", .field "name" none, .literal "/"], some "path") := by
    decide +kernel
  obtain ⟨p, hcompile, hp⟩ := exists_compiled hcomputed
  obtain ⟨hparts, hremainder⟩ := Prod.mk.inj hp
  have hfits : p.Fits ⟨[("name", .text "jo e"), ("path", .segments ["a", "b?"])]⟩ := by
    constructor
    · intro name hname
      rw [hparts] at hname
      obtain rfl : name = "name" := List.mem_singleton.mp hname
      exact ⟨"jo e", rfl, by decide, by decide⟩
    · intro name hname
      rw [hremainder] at hname
      obtain rfl : "path" = name := Option.some.inj hname
      exact ⟨["a", "b?"], rfl, by decide⟩
  obtain ⟨out, hout, hrecovered⟩ := recovered_iff hcompile (by rw [hparts]; rfl)
    (by rw [hparts, hremainder]; rfl) hfits
  refine ⟨p, out, hcompile, hout, (hrecovered.mpr (by rw [hparts]; decide)).trans ?_⟩
  rw [restricted, names, hparts, hremainder]
  rfl

/-- The path made from a value of the angled name does not even match. -/
theorem not_recovered_angled :
    ∃ p out, compile "{a>b}" = .ok p ∧ isPlain p.parts = true ∧
      separated p.remainder false p.parts = true ∧ p.Fits ⟨[("a>b", .text "x")]⟩ ∧
      p.generate ⟨[("a>b", .text "x")]⟩ = .ok out ∧ p.match? (Text.percentDecode out) = none := by
  obtain ⟨p, hcompile, hparts, hremainder, hother, -⟩ := exists_angled
  have hfits : p.Fits ⟨[("a>b", .text "x")]⟩ := by
    constructor
    · intro name hname
      rw [hparts] at hname
      obtain rfl : name = "a>b" := List.mem_singleton.mp hname
      exact ⟨"x", rfl, by decide, by decide⟩
    · intro name hname
      rw [hremainder] at hname
      cases hname
  have hspelling : p.spelling ⟨[("a>b", .text "x")]⟩ = "/x" := by
    rw [spelling, hparts, hremainder]
    decide
  obtain ⟨out, hout, hstands⟩ := exists_generate hfits.isSome
  refine ⟨p, out, hcompile, by rw [hparts]; rfl, by rw [hparts, hremainder]; rfl, hfits, hout, ?_⟩
  rw [hstands.percentDecode_eq, hspelling]
  exact hother

end Pattern

end WebDispatch
