import WebDispatch.Proofs.View.Negotiation

/-!
# Refused media types

A client may name a media type with quality zero. Such a range is dropped when the list is read, so
that it accepts nothing; but nor does it take anything away from the other ranges. A type that is
refused so, and nowhere named with a positive quality, is accepted all the same where a range with
wildcards covers it, and nowhere else.

* `Preference.listed` — the ranges of a header, before any is dropped;
* `Preference.Refused`, `Preference.Covered` — named with quality zero; matched by a wildcard;
* `MultiView.refused_iff_covered` — what comes of a refused type.
-/

namespace WebDispatch

open WebDispatch.Http (MediaRange Preference)

namespace Http

namespace MediaRange

def Names (r : MediaRange) (type : String) : Prop := r.matchesOffer type = true ∧ r.wildcards = 0

def Covers (r : MediaRange) (type : String) : Prop := r.matchesOffer type = true ∧ 0 < r.wildcards

instance (r : MediaRange) (type : String) : Decidable (r.Names type) :=
  inferInstanceAs (Decidable (_ ∧ _))

instance (r : MediaRange) (type : String) : Decidable (r.Covers type) :=
  inferInstanceAs (Decidable (_ ∧ _))

theorem names_or_covers {r : MediaRange} {type : String} (h : r.matchesOffer type = true) :
    r.Names type ∨ r.Covers type :=
  (Nat.eq_zero_or_pos r.wildcards).imp (And.intro h) (And.intro h)

end MediaRange

namespace Preference

variable {header type : String} {offers : List String} {p : Preference}

/-- The ranges of a header, those with no positive quality among them. -/
def listed (header : String) : List MediaRange :=
  (Text.splitOn ',' header).filterMap fun s => MediaRange.parse? (Text.trim s)

/-- A client refuses a media type: it is named with quality zero, and never with a positive one. -/
structure Refused (header type : String) : Prop where
  named : ∃ r ∈ listed header, r.Names type ∧ Fraction.same r.quality (.finite false 0) = true
  unwanted : ∀ r ∈ listed header, r.Names type → ¬ r.quality.Positive

/-- A range of positive quality matches a media type by a wildcard. -/
def Covered (header type : String) : Prop :=
  ∃ r ∈ listed header, r.Covers type ∧ r.quality.Positive

instance (q : Fraction) : Decidable q.Positive :=
  inferInstanceAs (Decidable (Fraction.less (.finite false 0) q = true))

instance (header type : String) : Decidable (Refused header type) :=
  decidable_of_iff
    ((∃ r ∈ listed header, r.Names type ∧ Fraction.same r.quality (.finite false 0) = true) ∧
      ∀ r ∈ listed header, r.Names type → ¬ r.quality.Positive)
    ⟨fun h => ⟨h.1, h.2⟩, fun h => ⟨h.1, h.2⟩⟩

instance (header type : String) : Decidable (Covered header type) :=
  inferInstanceAs (Decidable (∃ r ∈ listed header, r.Covers type ∧ r.quality.Positive))

theorem accepts_parse_iff :
    (parse header).accepts type = true ↔
      ∃ r ∈ listed header, r.matchesOffer type = true ∧ r.quality.Positive := by
  change ((listed header).filter _).any _ = true ↔ _
  rw [List.any_eq_true]
  refine exists_congr fun r => ?_
  rw [List.mem_filter, and_assoc, and_comm (a := r.matchesOffer type = true)]
  rfl

/-- What is refused is accepted only where a wildcard covers it. -/
theorem Refused.accepts_iff (h : Refused header type) :
    (parse header).accepts type = true ↔ Covered header type := by
  rw [accepts_parse_iff]
  constructor
  · rintro ⟨r, hr, hmatch, hpositive⟩
    rcases MediaRange.names_or_covers hmatch with hnames | hcovers
    · exact absurd hpositive (h.unwanted r hr hnames)
    · exact ⟨r, hr, hcovers, hpositive⟩
  · rintro ⟨r, hr, ⟨hmatch, -⟩, hpositive⟩
    exact ⟨r, hr, hmatch, hpositive⟩

/-- An offer is the best of some exactly if it is accepted. -/
theorem exists_best?_iff (hp : p.Proper) :
    (∃ offers, p.best? offers = some type) ↔ p.accepts type = true := by
  constructor
  · rintro ⟨offers, hbest⟩
    obtain ⟨_, _, -, hrank, -⟩ := leads_of_best? hp hbest
    exact accepts_iff.mpr hrank
  · intro haccepts
    refine ⟨[type], ?_⟩
    cases hbest : p.best? [type] with
    | none =>
      exact absurd haccepts (not_accepts_of_best? hp hbest type (List.mem_singleton_self type))
    | some best => rw [List.mem_singleton.mp (mem_of_best? hbest)]

end Preference

end Http

namespace MultiView

open Http.Preference (Refused Covered)

/-- **A refusal takes nothing away.** A media type that is named with quality zero, and never with
a positive one, is accepted exactly if a range with a wildcard and a positive quality covers it.
Exactly then it may be the best of some offers, and the views that were added for it are tried. -/
theorem refused_iff_covered {header type : String} (h : Refused header type) :
    ((Preference.parse header).accepts type = true ↔ Covered header type) ∧
    ((∃ offers, (Preference.parse header).best? offers = some type) ↔ Covered header type) ∧
    ∀ name adds r, r.header? "accept" = some header →
      ∃ types : List String, (ofAdditions name adds).views r =
        (types.flatMap (fun type => (ofAdditions name adds).bucket (some type)) ++
          (ofAdditions name adds).bucket none).map Candidate.view ∧
        (type ∈ types ↔ type ∈ mediaTypes adds ∧ Covered header type) := by
  refine ⟨h.accepts_iff, ?_, ?_⟩
  · rw [Preference.exists_best?_iff (Preference.proper_parse header), h.accepts_iff]
  · intro name adds r hheader
    have haccept : r.accept = .parse header := by rw [Request.accept, hheader]
    have hnodup : (mediaTypes adds).Nodup := accepts_ofAdditions name adds ▸ nodup_accepts name adds
    have hperm := (negotiation_preferred r.accept (mediaTypes adds)).perm r.proper_accept hnodup
    refine ⟨preferred r.accept (mediaTypes adds), ?_, ?_⟩
    · rw [views, accepts_ofAdditions]
      rfl
    · rw [hperm.mem_iff, List.mem_filter, haccept, h.accepts_iff]

def textsOnly : String := "image/png;q=0, text/*;q=0.5, text/html;q=0.0"

theorem refused_iff_covered_textsOnly :
    Refused textsOnly "Text/HTML" ∧ (Preference.parse textsOnly).accepts "Text/HTML" = true ∧
      Refused textsOnly "image/png" ∧
        ¬ ∃ offers, (Preference.parse textsOnly).best? offers = some "image/png" := by
  have htext : Refused textsOnly "Text/HTML" := by decide
  have hpicture : Refused textsOnly "image/png" := by decide
  have hcovered : Covered textsOnly "Text/HTML" := by decide
  have huncovered : ¬ Covered textsOnly "image/png" := by decide
  refine ⟨htext, (refused_iff_covered htext).1.mpr hcovered, hpicture, ?_⟩
  exact (refused_iff_covered hpicture).2.1.not.mpr huncovered

/-- What is refused may be accepted all the same, by a wildcard. -/
theorem accepted_though_refused :
    ¬ ∀ header type, Refused header type → (Preference.parse header).accepts type = false := by
  intro hall
  have hrefused : Refused "text/*, text/html;q=0" "text/html" := by decide
  have haccepts : (Preference.parse "text/*, text/html;q=0").accepts "text/html" = true := by decide
  rw [hall _ _ hrefused] at haccepts
  cases haccepts

end MultiView

end WebDispatch
