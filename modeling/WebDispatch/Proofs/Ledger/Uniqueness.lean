import Mathlib.Data.List.Pairwise
import WebDispatch.Proofs.Ledger.Resolution

/-!
# The one resolution of a ledger

A ledger has at most one resolution: which actions are chosen is told by who governs, and in which
order they come by their numbers (`Resolution.eq_of_resolution`). A ledger in which no two actions
share a discriminator, and no action has a lower number than one before it, resolves to itself
(`resolve_of_distinct`).
-/

namespace WebDispatch

namespace Ledger

variable {actions : List Action} {chosen chosen' : List Recorded} {r s : Recorded}

theorem PrecedesStrictly.irrefl (r : Recorded) : ¬ PrecedesStrictly r r := by
  unfold PrecedesStrictly
  omega

theorem PrecedesStrictly.asymm (h : PrecedesStrictly r s) : ¬ PrecedesStrictly s r := by
  unfold PrecedesStrictly at h ⊢
  omega

/-- Actions in the order in which they are carried out are told by which they are. -/
theorem eq_of_precedesStrictly (h : chosen.Pairwise PrecedesStrictly)
    (h' : chosen'.Pairwise PrecedesStrictly) (hmem : ∀ r, r ∈ chosen ↔ r ∈ chosen') :
    chosen = chosen' :=
  eq_of_pairwise (fun _ _ hab => hab.asymm) h h' hmem

namespace Resolution

theorem mem_of_mem (h : Resolution actions chosen) (h' : Resolution actions chosen')
    (hr : r ∈ chosen) : r ∈ chosen' := by
  cases hd : r.action.discriminator with
  | none => exact h'.free r (h.recorded r hr) hd
  | some d =>
      obtain ⟨b, ⟨hb, hbd⟩, -⟩ := h'.unique r (h.recorded r hr) d hd
      -- both are the earliest action that governs the discriminator
      obtain ⟨hgoverns, hearliest⟩ := h.governing r hr d hd
      obtain ⟨hgoverns', hearliest'⟩ := h'.governing b hb d hbd
      have hindex := Nat.le_antisymm (hearliest b hgoverns') (hearliest' r hgoverns)
      rwa [record_inj (h.recorded r hr) (h'.recorded b hb) hindex]

/-- A ledger has no two resolutions. -/
theorem eq_of_resolution (h : Resolution actions chosen) (h' : Resolution actions chosen') :
    chosen = chosen' :=
  eq_of_precedesStrictly h.ordered h'.ordered fun _ => ⟨h.mem_of_mem h', h'.mem_of_mem h⟩

/-- The actions before a chosen one are those that precede it. -/
theorem mem_before_iff {before after : List Recorded}
    (h : Resolution actions (before ++ r :: after)) (w : Recorded) :
    w ∈ before ↔ w ∈ before ++ r :: after ∧ PrecedesStrictly w r := by
  obtain ⟨-, hrest, hacross⟩ := List.pairwise_append.mp h.ordered
  constructor
  · exact fun hw => ⟨List.mem_append_left _ hw, hacross w hw r List.mem_cons_self⟩
  · rintro ⟨hw, hprecedes⟩
    rcases List.mem_append.mp hw with hw | hw
    · exact hw
    · rcases List.mem_cons.mp hw with rfl | hw
      · exact absurd hprecedes (PrecedesStrictly.irrefl w)
      · exact absurd hprecedes ((List.pairwise_cons.mp hrest).1 w hw).asymm

end Resolution

theorem Resolution.exists_governs (h : Resolution actions chosen) {a : Action} (ha : a ∈ actions)
    {d : Discriminator} (hd : a.discriminator = some d) : ∃ b, Governs actions d b := by
  obtain ⟨r, hr, rfl⟩ := mem_record_of_mem ha
  obtain ⟨b, ⟨hb, hbd⟩, -⟩ := h.unique r hr d hd
  exact ⟨b, (h.governing b hb d hbd).1⟩

/-- What a ledger resolves to is its resolution. -/
theorem resolve_eq_ok_iff_resolution {out : List Action} :
    resolve actions = .ok out ↔
      ∃ chosen, Resolution actions chosen ∧ out = chosen.map Recorded.action := by
  rw [resolve_eq_ok_iff]
  constructor
  · rintro ⟨hs, rfl⟩
    exact ⟨_, resolution_winners hs, rfl⟩
  · rintro ⟨chosen, hchosen, rfl⟩
    have hs := settled_groups_iff.mpr fun a ha d hd => hchosen.exists_governs ha hd
    exact ⟨hs, by rw [hchosen.eq_of_resolution (resolution_winners hs)]⟩

/-! ## Ledgers without choice -/

def Distinct (actions : List Action) : Prop :=
  actions.Pairwise fun a b => ∀ d, a.discriminator = some d → b.discriminator ≠ some d

/-- No action has a lower number than one before it. -/
def InOrder (actions : List Action) : Prop := actions.Pairwise fun a b => a.order ≤ b.order

@[simp] theorem map_action_record (actions : List Action) :
    (record actions).map Recorded.action = actions := by
  rw [record, List.map_map]
  exact List.zipIdx_map_fst 0 actions

/-- A discriminator has one action only. -/
theorem eq_of_distinct (h : Distinct actions) (hr : r ∈ record actions) (hs : s ∈ record actions)
    {d : Discriminator} (hrd : r.action.discriminator = some d)
    (hsd : s.action.discriminator = some d) : r = s := by
  rw [Distinct, ← map_action_record actions, List.pairwise_map] at h
  have hsymm : Std.Symm fun a b : Recorded =>
      ∀ d, a.action.discriminator = some d → b.action.discriminator ≠ some d :=
    ⟨fun a b hab d hb ha => hab d ha hb⟩
  by_contra hne
  exact h.forall hr hs hne d hrd hsd

theorem precedesStrictly_record (h : InOrder actions) :
    (record actions).Pairwise PrecedesStrictly := by
  rw [InOrder, ← map_action_record actions, List.pairwise_map] at h
  refine (h.and (record_pairwise actions)).imp ?_
  rintro a b ⟨horder, hindex⟩
  unfold PrecedesStrictly
  omega

theorem governs_of_distinct (h : Distinct actions) (hr : r ∈ record actions) {d : Discriminator}
    (hd : r.action.discriminator = some d) : Governs actions d r where
  recorded := hr
  discriminator := hd
  yielding _ hs hsd hindex :=
    absurd (congrArg Recorded.index (eq_of_distinct h hs hr hsd hd)) hindex

theorem resolution_record (h : Distinct actions) (hin : InOrder actions) :
    Resolution actions (record actions) where
  recorded _ hr := hr
  distinct := by
    rw [map_index_record]
    exact List.nodup_range
  free _ hr _ := hr
  unique r hr d hd := ⟨r, ⟨hr, hd⟩, fun _ hb => eq_of_distinct h hb.1 hr hb.2 hd⟩
  governing b hb d hd := by
    refine ⟨governs_of_distinct h hb hd, fun r hr => Nat.le_of_eq ?_⟩
    rw [eq_of_distinct h hb hr.recorded hd hr.discriminator]
  ordered := precedesStrictly_record hin

/-- Where there is nothing to choose and nothing to sort, all actions are carried out as they
come. -/
theorem resolve_of_distinct (h : Distinct actions) (hin : InOrder actions) :
    resolve actions = .ok actions :=
  resolve_eq_ok_iff_resolution.mpr
    ⟨record actions, resolution_record h hin, (map_action_record actions).symm⟩

end Ledger

end WebDispatch
