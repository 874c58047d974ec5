import WebDispatch.Proofs.Effect
import WebDispatch.Proofs.Path.Names
import WebDispatch.Proofs.Path.Reading
import WebDispatch.Proofs.Text.Escapes

/-!
# What generated paths stand for

The spelling of a pattern is its text with values in the place of its names. A path can be generated
exactly when every name has a value, and it stands for the spelling, whatever was escaped on the way
(`exists_generate`, `isSome_of_generate`).

Reading a pattern off a text and spelling it meet at `Reads`: the values that were read spell the text
again (`Reads.exists_front`), and where a field has some characters but no slash and the remainder no
line feed, the spelling can be read (`reads_spelling`).
-/

namespace WebDispatch

namespace Pattern

open Text (StandsFor)

variable {p : Pattern} {values : MatchDict} {remainder : Option String} {parts : List PatternPart}
  {cs : List Char} {found : List (String × List Char)} {name out : String}

def valueText (values : MatchDict) (name : String) : String :=
  ((values.get? name).map MatchValue.joined).getD ""

def partSpelling (values : MatchDict) : PatternPart → String
  | .literal text => text
  | .field name _ => valueText values name

/-- The text of a pattern with values in the place of its names. -/
def spelling (p : Pattern) (values : MatchDict) : String :=
  String.join (p.parts.map (partSpelling values)) ++
    (p.remainder.map (valueText values)).getD ""

theorem valueText_of_get? {v : MatchValue} (h : values.get? name = some v) :
    valueText values name = v.joined := by
  rw [valueText, h]
  rfl

/-! ## Generating -/

theorem value_eq_ok_iff {v : MatchValue} :
    p.value values name = .ok v ↔ values.get? name = some v := by
  unfold value
  cases values.get? name with
  | none => simp
  | some w => simp

theorem exists_mapM_partPath (h : ∀ name ∈ fieldNames parts, (values.get? name).isSome) :
    ∃ texts, parts.mapM (p.partPath values) = .ok texts ∧
      StandsFor (String.join texts) (String.join (parts.map (partSpelling values))) := by
  induction parts with
  | nil => exact ⟨[], rfl, Text.standsFor_empty⟩
  | cons part parts ih =>
      have hpart : ∃ text, p.partPath values part = .ok text ∧
          StandsFor text (partSpelling values part) := by
        cases part with
        | literal text => exact ⟨_, rfl, Text.standsFor_quotePath text⟩
        | field name expression =>
            rw [fieldNames_field, List.forall_mem_cons] at h
            obtain ⟨v, hv⟩ := Option.isSome_iff_exists.mp h.1
            refine ⟨Text.quoteSegment v.joined, ?_, ?_⟩
            · rw [partPath, value_eq_ok_iff.mpr hv]
              rfl
            · rw [partSpelling, valueText_of_get? hv]
              exact Text.standsFor_quoteSegment _
      have hparts : ∀ name ∈ fieldNames parts, (values.get? name).isSome := by
        intro name hname
        cases part with
        | literal text => exact h name hname
        | field name' expression => exact h name (List.mem_cons_of_mem _ hname)
      obtain ⟨text, htext, hspelled⟩ := hpart
      obtain ⟨texts, htexts, hspelling⟩ := ih hparts
      refine ⟨text :: texts, ?_, ?_⟩
      · rw [List.mapM_cons, htext, htexts]
        rfl
      · rw [List.map_cons, String.join_cons, String.join_cons]
        exact hspelled.append hspelling

theorem isSome_of_mapM_partPath {texts : List String}
    (h : parts.mapM (p.partPath values) = .ok texts) :
    ∀ name ∈ fieldNames parts, (values.get? name).isSome := by
  induction parts generalizing texts with
  | nil => simp [fieldNames]
  | cons part parts ih =>
      obtain ⟨text, texts, htext, htexts, rfl⟩ := Result.mapM_cons_ok h
      cases part with
      | literal _ => exact ih htexts
      | field name expression =>
          obtain ⟨v, hv, -⟩ := Result.map_ok htext
          rw [fieldNames_field, List.forall_mem_cons]
          refine ⟨?_, ih htexts⟩
          rw [value_eq_ok_iff.mp hv]
          rfl

/-- A path is the texts of the parts and, behind them, that of the remainder. -/
theorem generate_eq_ok_iff :
    p.generate values = .ok out ↔ ∃ texts, p.parts.mapM (p.partPath values) = .ok texts ∧
      (p.remainder = none ∧ out = String.join texts ∨
        ∃ name v, p.remainder = some name ∧ values.get? name = some v ∧
          out = String.join texts ++ remainderPath v) := by
  unfold generate
  cases hparts : p.parts.mapM (p.partPath values) with
  | error e =>
      constructor
      · intro h
        cases h
      · rintro ⟨texts, htexts, -⟩
        cases htexts
  | ok texts =>
      cases hremainder : p.remainder with
      | none =>
          constructor
          · intro h
            exact ⟨texts, rfl, Or.inl ⟨rfl, (Except.ok.inj h).symm⟩⟩
          · rintro ⟨texts', htexts, ⟨-, rfl⟩ | ⟨name, v, hname, -⟩⟩
            · obtain rfl := Except.ok.inj htexts
              rfl
            · cases hname
      | some name =>
          change (do return String.join texts ++ remainderPath (← p.value values name) :
            Except Error String) = _ ↔ _
          constructor
          · intro h
            obtain ⟨v, hv, rfl⟩ := Result.map_ok h
            exact ⟨texts, rfl, Or.inr ⟨name, v, rfl, value_eq_ok_iff.mp hv, rfl⟩⟩
          · rintro ⟨texts', htexts, ⟨hnone, -⟩ | ⟨name', v, hname, hv, rfl⟩⟩
            · cases hnone
            · obtain rfl := Except.ok.inj htexts
              obtain rfl := Option.some.inj hname
              rw [value_eq_ok_iff.mpr hv]
              rfl

/-- **Generation succeeds** where every name has a value, and the path stands for the spelling. -/
theorem exists_generate (h : ∀ name ∈ p.names, (values.get? name).isSome) :
    ∃ out, p.generate values = .ok out ∧ StandsFor out (p.spelling values) := by
  rw [names, List.forall_mem_append] at h
  obtain ⟨texts, htexts, hspelling⟩ := exists_mapM_partPath (p := p) h.1
  cases hremainder : p.remainder with
  | none =>
      refine ⟨String.join texts, generate_eq_ok_iff.mpr ⟨texts, htexts, Or.inl ⟨hremainder, rfl⟩⟩, ?_⟩
      rw [spelling, hremainder, Option.map_none, Option.getD_none, String.append_empty]
      exact hspelling
  | some name =>
      obtain ⟨v, hv⟩ := Option.isSome_iff_exists.mp (h.2 name (by simp [hremainder]))
      refine ⟨String.join texts ++ remainderPath v, generate_eq_ok_iff.mpr
        ⟨texts, htexts, Or.inr ⟨name, v, hremainder, hv, rfl⟩⟩, ?_⟩
      rw [spelling, hremainder, Option.map_some, Option.getD_some, valueText_of_get? hv]
      refine hspelling.append ?_
      cases v with
      | text s => exact Text.standsFor_quotePath s
      | segments items => exact Text.standsFor_joinWith_quoteSegment items

/-- Generation fails where a name has none. -/
theorem isSome_of_generate (h : p.generate values = .ok out) :
    ∀ name ∈ p.names, (values.get? name).isSome := by
  obtain ⟨texts, htexts, hremainder⟩ := generate_eq_ok_iff.mp h
  rw [names, List.forall_mem_append]
  refine ⟨isSome_of_mapM_partPath htexts, fun name hname => ?_⟩
  rw [Option.mem_toList] at hname
  rcases hremainder with ⟨hnone, -⟩ | ⟨name', v, hname', hv, -⟩
  · rw [hnone] at hname
    cases hname
  · rw [hname'] at hname
    obtain rfl := Option.some.inj hname
    rw [hv]
    rfl

/-! ## Reading -/

/-- What fields have read spells the text up to what the remainder has read. -/
theorem Reads.exists_front (h : Reads remainder parts cs found) :
    ∃ fields tail, found = fields ++ remainder.toList.map (·, tail) ∧
      fields.map (·.1) = fieldNames parts ∧ (remainder = none → tail = []) ∧
      ∀ values, (∀ e ∈ fields, valueText values e.1 = String.ofList e.2) →
        cs = (String.join (parts.map (partSpelling values))).toList ++ tail := by
  induction h with
  | done hremainder =>
      subst hremainder
      exact ⟨[], [], rfl, rfl, fun _ => rfl, fun _ _ => by simp⟩
  | @rest name cs hremainder _ =>
      subst hremainder
      refine ⟨[], cs, rfl, rfl, fun hnone => ?_, fun _ _ => by simp⟩
      cases hnone
  | @literal text parts cs found _ ih =>
      obtain ⟨fields, tail, hfound, hnames, hnone, hspelled⟩ := ih
      refine ⟨fields, tail, hfound, hnames, hnone, fun values hvalues => ?_⟩
      rw [List.map_cons, String.join_cons, String.toList_append, List.append_assoc,
        ← hspelled values hvalues]
      rfl
  | @field name expression taken parts cs found _ _ _ ih =>
      obtain ⟨fields, tail, hfound, hnames, hnone, hspelled⟩ := ih
      refine ⟨(name, taken) :: fields, tail, ?_, ?_, hnone, fun values hvalues => ?_⟩
      · rw [hfound, List.cons_append]
      · rw [List.map_cons, hnames, fieldNames_field]
      · rw [List.forall_mem_cons] at hvalues
        rw [List.map_cons, String.join_cons, String.toList_append, List.append_assoc,
          ← hspelled values hvalues.2, partSpelling, hvalues.1, String.toList_ofList]

/-- The spelling can be read, and gives each name the text of its value. -/
theorem reads_spelling
    (hfields : ∀ name ∈ fieldNames parts,
      valueText values name ≠ "" ∧ '/' ∉ (valueText values name).toList)
    (hremainder : ∀ name ∈ remainder, '\n' ∉ (valueText values name).toList) :
    Reads remainder parts
      (String.join (parts.map (partSpelling values)) ++
        (remainder.map (valueText values)).getD "").toList
      ((fieldNames parts ++ remainder.toList).map fun name =>
        (name, (valueText values name).toList)) := by
  induction parts with
  | nil =>
      cases remainder with
      | none => exact Reads.done rfl
      | some name =>
          rw [List.map_nil, String.join_nil, String.empty_append]
          exact Reads.rest rfl (hremainder name rfl)
  | cons part parts ih =>
      rw [List.map_cons, String.join_cons, String.append_assoc, String.toList_append]
      cases part with
      | literal text => exact Reads.literal (ih hfields)
      | field name expression =>
          rw [fieldNames_field, List.forall_mem_cons] at hfields
          refine Reads.field ?_ hfields.1.2 (ih hfields.2)
          intro hnil
          exact hfields.1.1 (String.toList_eq_nil_iff.mp hnil)

end Pattern

end WebDispatch
