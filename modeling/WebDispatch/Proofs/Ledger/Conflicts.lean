import WebDispatch.Proofs.Ledger.Resolution
import WebDispatch.Proofs.Text.Framing

/-!
# The report of conflicts

A discriminator is disputed when its winner is opposed, by an action that the winner does not
override and that does not repeat it. The disputes of a ledger come group by group, each with all
who take part in it. The report files the sites of a dispute under the discriminator as it is
written; what is written does not always tell the discriminator, since the parts of a discriminator
are framed by quotation marks and may hold some themselves.

* `Wins`, `Opposes`, `Dispute.ArisesIn` — who is in dispute about what;
* `mem_disputes_iff` — the ledger finds these disputes, and no others;
* `merged` — what becomes of disputes that are written alike;
* `Discriminator.text_inj` — what is written without further marks tells the discriminator;
* `report_complete_iff` — when the report has an entry of its own for each dispute.
-/

namespace WebDispatch

/-! ## Written discriminators -/

namespace Discriminator

theorem framed_part :
    Text.Framed fun p : { p : String // '\'' ∉ p.toList } => "'" ++ p.1 ++ "'" := by
  intro p q rest rest' h
  simp only [String.toList_append, List.append_assoc] at h
  obtain ⟨hpq, hrest⟩ := Text.append_cons_inj p.2 q.2 (List.append_cancel_left h)
  exact ⟨Subtype.ext (String.toList_inj.mp hpq), hrest⟩

/-- No part holds a quotation mark. -/
def Unmarked (d : Discriminator) : Prop := ∀ p ∈ d, '\'' ∉ p.toList

instance (d : Discriminator) : Decidable d.Unmarked :=
  inferInstanceAs (Decidable (∀ p ∈ d, '\'' ∉ p.toList))

/-- What is written of unmarked parts tells the parts. -/
theorem text_inj {d e : Discriminator} (hd : d.Unmarked) (he : e.Unmarked) (h : d.text = e.text) :
    d = e := by
  obtain ⟨ps, rfl⟩ : ∃ ps : List { p : String // '\'' ∉ p.toList }, ps.map Subtype.val = d :=
    ⟨d.attachWith _ hd, List.attachWith_map_subtype_val hd⟩
  obtain ⟨qs, rfl⟩ : ∃ qs : List { p : String // '\'' ∉ p.toList }, qs.map Subtype.val = e :=
    ⟨e.attachWith _ he, List.attachWith_map_subtype_val he⟩
  have hjoined : Text.joinWith ", " (ps.map fun p => "'" ++ p.1 ++ "'") =
      Text.joinWith ", " (qs.map fun p => "'" ++ p.1 ++ "'") := by
    rw [text, text, List.map_map, List.map_map, ← String.toList_inj] at h
    simpa [Function.comp_def, String.toList_inj] using h
  have hopen : ∀ (p : { p : String // '\'' ∉ p.toList }) (rest rest' : List Char),
      ("'" ++ p.1 ++ "'").toList ++ rest ≠ ']' :: rest' := by
    intro p rest rest'
    simp
  have hlisted : (Text.listed (ps.map fun p => "'" ++ p.1 ++ "'")).toList ++ [] =
      (Text.listed (qs.map fun p => "'" ++ p.1 ++ "'")).toList ++ [] := by
    rw [Text.listed, Text.listed, hjoined]
  rw [(Text.framed_listed framed_part hopen hlisted).1]

end Discriminator

namespace Ledger

/-! ## Disputes -/

/-- The action of a discriminator that all others come after, by scope and then in the ledger. -/
structure Wins (actions : List Action) (d : Discriminator) (b : Recorded) : Prop where
  recorded : b ∈ record actions
  discriminator : b.action.discriminator = some d
  first : ∀ r ∈ record actions, r.action.discriminator = some d → r.index ≠ b.index →
    ScopePrecedes b r

/-- Another action of the discriminator, which does not give way to the winner. -/
structure Opposes (actions : List Action) (d : Discriminator) (b r : Recorded) : Prop where
  recorded : r ∈ record actions
  discriminator : r.action.discriminator = some d
  other : r.index ≠ b.index
  unyielding : ¬ r.action.YieldsTo b.action

/-- The winner of a discriminator and those who oppose it. -/
structure Dispute where
  discriminator : Discriminator
  winner : Recorded
  opponents : List Recorded

namespace Dispute

def opposedSites (x : Dispute) : List Site := x.opponents.map fun r => r.action.site

/-- The sites of all who take part, that of the winner first. -/
def sites (x : Dispute) : List Site := x.winner.action.site :: x.opposedSites

/-- A dispute of a ledger, with everyone who takes part in it. -/
structure ArisesIn (x : Dispute) (actions : List Action) : Prop where
  wins : Wins actions x.discriminator x.winner
  opposed : x.opponents ≠ []
  mem_iff : ∀ r, r ∈ x.opponents ↔ Opposes actions x.discriminator x.winner r
  ordered : x.opponents.Pairwise ScopePrecedes

end Dispute

def opponents (base : Recorded) (rest : List Recorded) : List Recorded :=
  rest.filter fun r => r.action.conflictsWith base.action

def dispute? : Discriminator × List Recorded → Option Dispute
  | (_, []) => none
  | (d, base :: rest) =>
    if opponents base rest = [] then none else some ⟨d, base, opponents base rest⟩

def disputes (actions : List Action) : List Dispute := (groups actions).toList.filterMap dispute?

variable {actions : List Action} {d : Discriminator} {b base r : Recorded} {rest : List Recorded}

theorem dispute?_cons_eq_some_iff {x : Dispute} :
    dispute? (d, base :: rest) = some x ↔
      opponents base rest ≠ [] ∧ x = ⟨d, base, opponents base rest⟩ := by
  rw [dispute?]
  split
  · next hnone => simp [hnone]
  · next hsome => simp [hsome, eq_comm]

theorem discriminator_of_dispute? {g : Discriminator × List Recorded} {x : Dispute}
    (h : dispute? g = some x) : x.discriminator = g.1 := by
  obtain ⟨d, rs⟩ := g
  cases rs with
  | nil => cases h
  | cons base rest =>
      obtain ⟨-, rfl⟩ := dispute?_cons_eq_some_iff.mp h
      rfl

theorem wins_of_group
    (h : (ofDiscriminator actions d).mergeSort scopeComesBefore = base :: rest) :
    Wins actions d base := by
  obtain ⟨hrec, hdisc⟩ := (mem_group_iff h).mp List.mem_cons_self
  refine ⟨hrec, hdisc, ?_⟩
  intro r hr hrd hindex
  rcases List.mem_cons.mp ((mem_group_iff h).mpr ⟨hr, hrd⟩) with rfl | hrest
  · exact absurd rfl hindex
  · exact group_head h r hrest

theorem Wins.eq (hb : Wins actions d b) (hr : Wins actions d r) : b = r := by
  by_cases hindex : b.index = r.index
  · exact record_inj hb.recorded hr.recorded hindex
  · have hrb := hr.first b hb.recorded hb.discriminator hindex
    have hbr := hb.first r hr.recorded hr.discriminator (Ne.symm hindex)
    exact absurd hrb hbr.asymm

theorem Wins.exists_group (hb : Wins actions d b) :
    ∃ rest, (ofDiscriminator actions d).mergeSort scopeComesBefore = b :: rest := by
  obtain ⟨base, rest, h⟩ := Ledger.exists_group hb.recorded hb.discriminator
  obtain rfl := hb.eq (wins_of_group h)
  exact ⟨rest, h⟩

theorem opposes_iff
    (h : (ofDiscriminator actions d).mergeSort scopeComesBefore = base :: rest) :
    Opposes actions d base r ↔ r ∈ opponents base rest := by
  rw [opponents, List.mem_filter]
  constructor
  · intro hr
    refine ⟨?_, ?_⟩
    · rcases List.mem_cons.mp ((mem_group_iff h).mpr ⟨hr.recorded, hr.discriminator⟩) with rfl | hrest
      · exact absurd rfl hr.other
      · exact hrest
    · by_contra hyields
      exact hr.unyielding (Action.conflictsWith_eq_false_iff.mp (Bool.eq_false_iff.mpr hyields))
  · rintro ⟨hrest, hconflict⟩
    obtain ⟨hrec, hdisc⟩ := (mem_group_iff h).mp (List.mem_cons_of_mem base hrest)
    refine ⟨hrec, hdisc, ?_, ?_⟩
    · intro hindex
      have hsame := record_inj hrec ((mem_group_iff h).mp List.mem_cons_self).1 hindex
      have hprecedes := group_head h r hrest
      rw [hsame] at hprecedes
      exact hprecedes.asymm hprecedes
    · intro hyields
      rw [Action.conflictsWith_eq_false_iff.mpr hyields] at hconflict
      exact Bool.noConfusion hconflict

theorem opponents_pairwise
    (h : (ofDiscriminator actions d).mergeSort scopeComesBefore = base :: rest) :
    (opponents base rest).Pairwise ScopePrecedes := by
  have hpairwise := group_pairwise actions d
  rw [h] at hpairwise
  exact (List.pairwise_cons.mp hpairwise).2.filter _

/-- The groups of a ledger show its disputes. -/
theorem mem_disputes_iff {x : Dispute} : x ∈ disputes actions ↔ x.ArisesIn actions := by
  rw [disputes, List.mem_filterMap]
  constructor
  · rintro ⟨⟨d, rs⟩, hgroup, hx⟩
    cases rs with
    | nil => cases hx
    | cons base rest =>
        have hsorted := (mem_groups_iff.mp hgroup).2.symm
        obtain ⟨hopposed, rfl⟩ := dispute?_cons_eq_some_iff.mp hx
        exact ⟨wins_of_group hsorted, hopposed, fun r => (opposes_iff hsorted).symm,
          opponents_pairwise hsorted⟩
  · intro hx
    obtain ⟨rest, hsorted⟩ := hx.wins.exists_group
    have hopponents : x.opponents = opponents x.winner rest := by
      refine eq_of_pairwise (fun _ _ h => h.asymm) hx.ordered (opponents_pairwise hsorted) ?_
      intro r
      rw [hx.mem_iff, opposes_iff hsorted]
    refine ⟨_, mem_groups_of_eq hsorted, ?_⟩
    rw [dispute?_cons_eq_some_iff, ← hopponents]
    exact ⟨hx.opposed, rfl⟩

theorem disputes_pairwise (actions : List Action) :
    (disputes actions).Pairwise fun x y => x.discriminator ≠ y.discriminator := by
  have hkeys : (groups actions).toList.Pairwise fun g h => g.1 ≠ h.1 :=
    List.pairwise_map.mp (nodup_keys_groups actions)
  refine List.Pairwise.filterMap _ ?_ hkeys
  intro g h hne x hx y hy
  rwa [discriminator_of_dispute? hx, discriminator_of_dispute? hy]

/-! ## The report -/

def file (found : OrderedMap String (List Site)) (x : Dispute) : OrderedMap String (List Site) :=
  found.alter x.discriminator.text [x.winner.action.site] (· ++ x.opposedSites)

/-- What becomes of disputes that are filed in one place: the first has its winner listed. -/
def merged : List Dispute → Option (List Site)
  | [] => none
  | x :: xs => some (x.sites ++ xs.flatMap Dispute.opposedSites)

theorem addConflicts_eq (found : OrderedMap String (List Site))
    (group : Discriminator × List Recorded) :
    addConflicts found group = (dispute? group).elim found (file found) := by
  obtain ⟨d, rs⟩ := group
  cases rs with
  | nil => rfl
  | cons base rest =>
      show (if ((opponents base rest).map fun r => r.action.site).isEmpty then found else
        file found ⟨d, base, opponents base rest⟩) = _
      rw [List.isEmpty_map, dispute?]
      by_cases hnone : opponents base rest = []
      · rw [if_pos (List.isEmpty_iff.mpr hnone), if_pos hnone]
        rfl
      · rw [if_neg (fun h => hnone (List.isEmpty_iff.mp h)), if_neg hnone]
        rfl

theorem conflicts_eq (actions : List Action) :
    conflicts actions = (disputes actions).foldl file {} := by
  rw [conflicts, disputes, List.foldl_filterMap]
  congr 1
  funext found group
  rw [addConflicts_eq]
  cases dispute? group <;> rfl

theorem merged_snoc (xs : List Dispute) (x : Dispute) :
    merged (xs ++ [x]) = some ((merged xs).getD [x.winner.action.site] ++ x.opposedSites) := by
  cases xs with
  | nil => simp [merged, Dispute.sites]
  | cons y ys => simp [merged]

theorem get?_foldl_file (xs : List Dispute) (t : String) :
    (xs.foldl file {}).get? t = merged (xs.filter fun x => x.discriminator.text = t) := by
  induction xs using List.reverseRecOn with
  | nil => rfl
  | append_singleton xs x ih =>
      rw [List.foldl_append, List.foldl_cons, List.foldl_nil, file, OrderedMap.get?_alter,
        List.filter_append]
      by_cases ht : x.discriminator.text = t
      · rw [if_pos ht, ht, ih, List.filter_cons_of_pos (by simpa using ht), List.filter_nil,
          merged_snoc]
      · rw [if_neg ht, ih, List.filter_cons_of_neg (by simpa using ht), List.filter_nil,
          List.append_nil]

theorem nodup_keys_foldl_file (xs : List Dispute) : (xs.foldl file {}).keys.Nodup := by
  induction xs using List.reverseRecOn with
  | nil => exact List.nodup_nil
  | append_singleton xs x ih =>
      rw [List.foldl_append, List.foldl_cons, List.foldl_nil]
      exact OrderedMap.nodup_keys_alter ih _ _ _

/-- Disputes that are written differently are filed as they come. -/
theorem toList_foldl_file {xs : List Dispute}
    (h : (xs.map fun x => x.discriminator.text).Nodup) :
    (xs.foldl file {}).toList = xs.map fun x => (x.discriminator.text, x.sites) := by
  induction xs using List.reverseRecOn with
  | nil => rfl
  | append_singleton xs x ih =>
      rw [List.map_append, List.nodup_append] at h
      have hlist := ih h.1
      have hnew : x.discriminator.text ∉ (xs.foldl file {}).toList.map (·.1) := by
        rw [hlist, List.map_map]
        intro hmem
        exact h.2.2 _ hmem _ List.mem_cons_self rfl
      have habsent : (xs.foldl file {}).get? x.discriminator.text = none := by
        rw [← Option.not_isSome_iff_eq_none, OrderedMap.isSome_get?_iff]
        exact hnew
      rw [List.foldl_append, List.foldl_cons, List.foldl_nil, file, OrderedMap.alter, habsent,
        OrderedMap.insert, OrderedMap.insertEntry_of_notMem hnew, hlist, List.map_append]
      rfl

theorem resolve_eq_error_iff {e : Error} :
    resolve actions = .error e ↔ disputes actions ≠ [] ∧ e = .conflict (conflicts actions) := by
  have hempty : (conflicts actions).toList = [] ↔ disputes actions = [] := by
    constructor
    · intro hnil
      by_contra hsome
      obtain ⟨x, xs, hxs⟩ := List.exists_cons_of_ne_nil hsome
      have hget := get?_foldl_file (disputes actions) x.discriminator.text
      rw [← conflicts_eq, OrderedMap.get?, hnil, hxs, List.filter_cons_of_pos (by simp)] at hget
      cases hget
    · intro hnone
      rw [conflicts_eq, hnone]
      rfl
  rw [resolve]
  simp only [List.isEmpty_iff, hempty]
  split
  · next h => simp [h]
  · next h => simp [h, eq_comm]

/-! ## Complete reports -/

/-- All disputes of a ledger, each of them once. -/
structure AllDisputes (actions : List Action) (xs : List Dispute) : Prop where
  distinct : xs.Pairwise fun x y => x.discriminator ≠ y.discriminator
  mem_iff : ∀ x, x ∈ xs ↔ x.ArisesIn actions

/-- A report with an entry of its own for each dispute, which lists the sites of all who take
part. -/
def Complete (actions : List Action) (found : OrderedMap String (List Site)) : Prop :=
  ∃ xs, AllDisputes actions xs ∧ found.toList = xs.map fun x => (x.discriminator.text, x.sites)

/-- No two disputes of a ledger are written alike. -/
def WrittenApart (actions : List Action) : Prop :=
  ∀ x y : Dispute, x.ArisesIn actions → y.ArisesIn actions →
    x.discriminator.text = y.discriminator.text → x.discriminator = y.discriminator

theorem allDisputes (actions : List Action) : AllDisputes actions (disputes actions) :=
  ⟨disputes_pairwise actions, fun _ => mem_disputes_iff⟩

theorem AllDisputes.nodup_texts {xs : List Dispute} (hxs : AllDisputes actions xs)
    (h : WrittenApart actions) : (xs.map fun x => x.discriminator.text).Nodup := by
  refine List.pairwise_map.mpr (List.Pairwise.imp_of_mem ?_ hxs.distinct)
  intro x y hx hy hne htext
  exact hne (h x y ((hxs.mem_iff x).mp hx) ((hxs.mem_iff y).mp hy) htext)

theorem writtenApart_of_complete {found : OrderedMap String (List Site)} (hkeys : found.keys.Nodup)
    (h : Complete actions found) : WrittenApart actions := by
  obtain ⟨xs, hxs, hfound⟩ := h
  rw [OrderedMap.keys, hfound, List.map_map] at hkeys
  intro x y hx hy htext
  rw [← hxs.mem_iff] at hx hy
  rw [List.inj_on_of_nodup_map hkeys hx hy htext]

theorem complete_iff : Complete actions (conflicts actions) ↔ WrittenApart actions := by
  rw [conflicts_eq]
  constructor
  · exact writtenApart_of_complete (nodup_keys_foldl_file _)
  · intro h
    exact ⟨_, allDisputes actions, toList_foldl_file ((allDisputes actions).nodup_texts h)⟩

/-- **Reports of conflicts.** A report is complete exactly when no two disputes are written alike.
It then has an entry for each dispute; otherwise the disputes that are written alike share one
entry, in which of all sites only those of the later winners are missing. -/
theorem report_complete_iff {e : Error} (h : resolve actions = .error e) :
    ∃ found, e = .conflict found ∧
      (Complete actions found ↔ WrittenApart actions) ∧
      ((∀ x : Dispute, x.ArisesIn actions → x.discriminator.Unmarked) → Complete actions found) ∧
      ∃ xs, AllDisputes actions xs ∧ xs ≠ [] ∧
        ∀ t, found.get? t = merged (xs.filter fun x => x.discriminator.text = t) := by
  obtain ⟨hsome, rfl⟩ := resolve_eq_error_iff.mp h
  refine ⟨_, rfl, complete_iff, ?_, disputes actions, allDisputes actions, hsome, ?_⟩
  · intro hunmarked
    rw [complete_iff]
    intro x y hx hy htext
    exact Discriminator.text_inj (hunmarked x hx) (hunmarked y hy) htext
  · intro t
    rw [conflicts_eq]
    exact get?_foldl_file _ t

/-! ## Two disputes -/

def declared (d : Discriminator) (step : Nat) : Action :=
  { discriminator := some d, site := .step step }

def twice (d e : Discriminator) : List Action :=
  [declared d 1, declared d 2, declared e 3, declared e 4]

theorem arisesIn_of_pair {a b : Recorded} (ha : a ∈ record actions) (hb : b ∈ record actions)
    (had : a.action.discriminator = some d) (hbd : b.action.discriminator = some d)
    (honly : ∀ r ∈ record actions, r.action.discriminator = some d → r = a ∨ r = b)
    (hprecedes : ScopePrecedes a b) (hconflict : ¬ b.action.YieldsTo a.action) :
    Dispute.ArisesIn ⟨d, a, [b]⟩ actions := by
  have hother : b.index ≠ a.index := by
    intro hindex
    obtain rfl := record_inj hb ha hindex
    exact hprecedes.asymm hprecedes
  refine ⟨⟨ha, had, ?_⟩, List.cons_ne_nil _ _, ?_, List.pairwise_singleton _ _⟩
  · intro r hr hrd hindex
    rcases honly r hr hrd with rfl | rfl
    · exact absurd rfl hindex
    · exact hprecedes
  · intro r
    rw [List.mem_singleton]
    constructor
    · rintro rfl
      exact ⟨hb, hbd, hother, hconflict⟩
    · intro hr
      rcases honly r hr.recorded hr.discriminator with rfl | rfl
      · exact absurd rfl hr.other
      · rfl

theorem not_yieldsTo_declared {e : Discriminator} {m n : Nat} (h : m ≠ n) :
    ¬ (declared d m).YieldsTo (declared e n) := by
  rintro (⟨-, hpath⟩ | ⟨-, hsite⟩)
  · exact hpath rfl
  · exact h (Site.step.inj hsite)

theorem mem_record_twice {e : Discriminator} :
    r ∈ record (twice d e) ↔ r = ⟨0, declared d 1⟩ ∨ r = ⟨1, declared d 2⟩ ∨
      r = ⟨2, declared e 3⟩ ∨ r = ⟨3, declared e 4⟩ := by
  simp [record, twice]

theorem arisesIn_twice {e : Discriminator} (h : d ≠ e) :
    Dispute.ArisesIn ⟨d, ⟨0, declared d 1⟩, [⟨1, declared d 2⟩]⟩ (twice d e) ∧
      Dispute.ArisesIn ⟨e, ⟨2, declared e 3⟩, [⟨3, declared e 4⟩]⟩ (twice d e) := by
  have hmem := fun r => mem_record_twice (d := d) (e := e) (r := r)
  constructor
  · refine arisesIn_of_pair ((hmem _).mpr (by simp)) ((hmem _).mpr (by simp)) rfl rfl ?_
      ⟨rfl, fun _ => Nat.zero_lt_one⟩ (not_yieldsTo_declared (by decide))
    intro r hr hd
    rcases (hmem r).mp hr with rfl | rfl | rfl | rfl
    · exact Or.inl rfl
    · exact Or.inr rfl
    · exact absurd (Option.some.inj hd).symm h
    · exact absurd (Option.some.inj hd).symm h
  · refine arisesIn_of_pair ((hmem _).mpr (by simp)) ((hmem _).mpr (by simp)) rfl rfl ?_
      ⟨rfl, fun _ => Nat.lt_succ_self 2⟩ (not_yieldsTo_declared (by decide))
    intro r hr hd
    rcases (hmem r).mp hr with rfl | rfl | rfl | rfl
    · exact absurd (Option.some.inj hd) h
    · exact absurd (Option.some.inj hd) h
    · exact Or.inl rfl
    · exact Or.inr rfl

theorem resolve_twice {e : Discriminator} (h : d ≠ e) :
    resolve (twice d e) = .error (.conflict (conflicts (twice d e))) := by
  refine resolve_eq_error_iff.mpr ⟨?_, rfl⟩
  exact List.ne_nil_of_mem (mem_disputes_iff.mpr (arisesIn_twice h).1)

theorem report_complete_iff_plain :
    ∃ found, resolve (twice ["x"] ["y"]) = .error (.conflict found) ∧
      Complete (twice ["x"] ["y"]) found := by
  have herror := resolve_twice (d := ["x"]) (e := ["y"]) (by decide)
  obtain ⟨found, hfound, -, hcomplete, -⟩ := report_complete_iff herror
  refine ⟨found, hfound ▸ herror, hcomplete ?_⟩
  intro x hx
  have hd := hx.wins.discriminator
  rcases mem_record_twice.mp hx.wins.recorded with h | h | h | h <;>
    rw [h] at hd <;> rw [← Option.some.inj hd] <;> decide

/-- A part that holds what stands between two parts: both disputes are written `('x', 'y')`. -/
theorem not_complete_marked :
    ¬ ∀ (actions : List Action) (found : OrderedMap String (List Site)),
      resolve actions = .error (.conflict found) → Complete actions found := by
  intro h
  have hne : (["x", "y"] : Discriminator) ≠ ["x', 'y"] := by decide
  have hcomplete := h (twice ["x", "y"] ["x', 'y"]) _ (resolve_twice hne)
  have hdisputes := arisesIn_twice hne
  exact hne (complete_iff.mp hcomplete _ _ hdisputes.1 hdisputes.2 (by decide))

end Ledger

end WebDispatch
