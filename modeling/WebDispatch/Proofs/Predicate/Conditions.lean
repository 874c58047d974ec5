import WebDispatch.Predicate.Options
import WebDispatch.Proofs.Effect

/-!
# What predicate options come down to

Options are written in many ways: methods in any order, names with blanks around them, values to
match in any order. What they come down to are conditions. Compiling options writes these, category
by category, and makes predicates that ask them and the conditions of the application
(`compile_ok`).

* `Conditions` — the conditions themselves; `PredicateOptions.conditions` — those of options;
* `Conditions.text` — how an identity tells them;
* `Conditions.hold` — whether a request for a context meets them.
-/

namespace WebDispatch

open Predicate (matchesAll)

/-- What options ask for, whichever way they are written. Conditions of the application are told by
their hashes. -/
structure Conditions where
  xhr : Bool
  /-- In the order of texts. -/
  methods : Option (List String)
  path : Option String
  param : Option (String × Option String)
  header : Option (String × Option String)
  accept : Option String
  containment : Option Interface
  requestType : Option Interface
  /-- In the order of pairs. -/
  captured : Option (List (String × String))
  custom : List Nat
deriving DecidableEq

namespace Conditions

variable (c : Conditions)

/-- The words that an identity begins its parts with, one for each category. -/
def words : List String :=
  ["xhr:", "request_method:", "path_info:", "request_param:", "header:", "accept:", "containment:",
    "request_type:", "match_param:", "custom0:"]

def nameValueText (p : String × Option String) : String :=
  Text.quoted p.1 ++ "=" ++ Text.quotedOptional p.2

def pairText (p : String × String) : String :=
  "(" ++ Text.quoted p.1 ++ ", " ++ Text.quoted p.2 ++ ")"

def hashesText : Nat → List Nat → String
  | _, [] => ""
  | n, hash :: rest =>
    "custom" ++ toString n ++ ":" ++ toString hash ++ hashesText (n + 1) rest

def hashesText? : List Nat → Option String
  | [] => none
  | hash :: rest => some (toString hash ++ hashesText 1 rest)

def values : List (Option String) :=
  [if c.xhr then some "True" else none, c.methods.map Text.quotedList, c.path.map Text.quoted,
    c.param.map nameValueText, c.header.map nameValueText, c.accept.map Text.quoted,
    c.containment.map Interface.name, c.requestType.map Interface.name,
    c.captured.map fun pairs => Text.listed (pairs.map pairText),
    hashesText? c.custom]

def part (word : String) (value : Option String) : String := (value.map (word ++ ·)).getD ""

def written (words : List String) (values : List (Option String)) : String :=
  String.join (List.zipWith part words values)

/-- How an identity tells conditions. -/
def text : String := written words c.values

/-- Whether a request for a context meets the conditions, those of the application aside. -/
def hold (context : Resource) (r : Request) : Bool :=
  (!c.xhr || r.isXhr)
    && c.methods.all (fun names => names.contains r.method)
    && c.path.all (fun source => (Regex.parse? source).any fun e => e.isMatch r.pathInfo)
    && c.param.all (fun p => (r.param? p.1).any fun found => p.2.all fun v => found = v)
    && c.header.all (fun p =>
      (r.header? p.1).any fun found =>
        p.2.all fun source => (Regex.parse? source).any fun e => e.isMatch found)
    && c.accept.all r.accept.accepts
    && c.containment.all (fun i => (context.findInterface? i).isSome)
    && c.requestType.all (fun i => r.type.order.contains i)
    && c.captured.all (fun pairs => r.matchdict.any (matchesAll pairs))

end Conditions

namespace PredicateOptions

open Conditions (part)
open Result

variable {o : PredicateOptions} {s : PredicateSet} {g : Option PredicateGroup}

def conditions (o : PredicateOptions) : Conditions where
  xhr := o.xhr
  methods := o.requestMethod.map fun given => (withHead given).mergeSort Text.compareText
  path := o.pathInfo
  param := o.requestParam.map fun given =>
    (nameValue '=' given).map Text.trim (Option.map Text.trim)
  header := o.header.map (nameValue ':')
  accept := o.accept
  containment := o.containment
  requestType := o.requestType
  captured := o.matchParam.map fun given =>
    (given.filterMap fun pair => (matchPair pair).toOption).mergeSort comparePair
  custom := o.custom.map CustomPredicate.hash

/-! ## Category by category -/

/-- The group of a category, if there is one, adds a text to the identity, and its predicates give
a verdict. -/
structure Adds (g : Option PredicateGroup) (text : String) (verdict : Resource → Request → Bool) :
    Prop where
  text_eq : (g.map PredicateGroup.identity).getD "" = text
  verdict_eq : ∀ context r,
    (g.all fun g => g.predicates.all fun p => p.holds context r) = verdict context r

theorem adds_none (word : String) (verdict : Resource → Request → Bool)
    (h : ∀ context r, verdict context r = true) : Adds none (part word none) verdict :=
  ⟨rfl, fun context r => (h context r).symm⟩

/-- A group of one predicate. -/
theorem adds_singleton {category : PredicateCategory} {p : Predicate}
    {identity word value : String} {verdict : Resource → Request → Bool}
    (hidentity : identity = word ++ value)
    (h : ∀ context r, p.holds context r = verdict context r) :
    Adds (some ⟨category, [p], identity⟩) (part word (some value)) verdict := by
  refine ⟨hidentity, fun context r => ?_⟩
  rw [← h, Option.all_some, List.all_cons, List.all_nil, Bool.and_true]

theorem expression_ok {option source : String} {e : Expression}
    (h : expression option source = .ok e) : Regex.parse? source = some e.regex := by
  unfold expression at h
  split at h
  · next r hr =>
    cases h
    exact hr
  · cases h

theorem xhrGroup_adds (h : xhrGroup o = .ok g) :
    Adds g (part "xhr:" (if o.xhr then some "True" else none)) fun _ r => !o.xhr || r.isXhr := by
  obtain rfl := Except.ok.inj h
  cases o.xhr with
  | false => exact adds_none _ _ fun _ _ => rfl
  | true => exact adds_singleton (by decide) fun _ _ => rfl

theorem methodGroup_adds (h : methodGroup o = .ok g) :
    Adds g (part "request_method:" (o.conditions.methods.map Text.quotedList)) fun _ r =>
      o.conditions.methods.all fun names => names.contains r.method := by
  obtain rfl := Except.ok.inj h
  simp only [conditions]
  cases o.requestMethod with
  | none => exact adds_none _ _ fun _ _ => rfl
  | some given =>
      refine adds_singleton rfl fun _ r => ?_
      show (withHead given).contains r.method = _
      rw [Option.map_some, Option.all_some]
      -- sorting keeps the methods
      exact ((List.mergeSort_perm (withHead given) Text.compareText).contains_eq).symm

theorem pathGroup_adds (h : pathGroup o = .ok g) :
    Adds g (part "path_info:" (o.conditions.path.map Text.quoted)) fun _ r =>
      o.conditions.path.all fun source =>
        (Regex.parse? source).any fun e => e.isMatch r.pathInfo := by
  simp only [conditions]
  rcases mapM_option_ok h with ⟨hnone, rfl⟩ | ⟨source, group, hsome, hgroup, rfl⟩
  · rw [hnone]
    exact adds_none _ _ fun _ _ => rfl
  · rw [hsome]
    obtain ⟨e, he, rfl⟩ := map_ok hgroup
    refine adds_singleton rfl fun _ r => ?_
    rw [Option.all_some, expression_ok he, Option.any_some]
    rfl

theorem paramGroup_adds (h : paramGroup o = .ok g) :
    Adds g (part "request_param:" (o.conditions.param.map Conditions.nameValueText)) fun _ r =>
      o.conditions.param.all fun p =>
        (r.param? p.1).any fun found => p.2.all fun v => found = v := by
  obtain rfl := Except.ok.inj h
  simp only [conditions]
  cases o.requestParam with
  | none => exact adds_none _ _ fun _ _ => rfl
  | some given =>
      rcases hgiven : nameValue '=' given with ⟨name, value⟩
      simp only [Option.map_some, hgiven, Prod.map]
      refine adds_singleton (by simp only [Conditions.nameValueText, String.append_assoc]) ?_
      intro _ r
      rw [Option.all_some]
      cases value with
      | none =>
          show (r.param? (Text.trim name)).isSome = _
          cases r.param? (Text.trim name) <;> rfl
      | some v =>
          show decide (r.param? (Text.trim name) = some (Text.trim v)) = _
          cases r.param? (Text.trim name) with
          | none => rfl
          | some found => simp

theorem headerGroup_adds (h : headerGroup o = .ok g) :
    Adds g (part "header:" (o.conditions.header.map Conditions.nameValueText)) fun _ r =>
      o.conditions.header.all fun p =>
        (r.header? p.1).any fun found =>
          p.2.all fun source => (Regex.parse? source).any fun e => e.isMatch found := by
  simp only [conditions]
  rcases mapM_option_ok h with ⟨hnone, rfl⟩ | ⟨given, group, hsome, hgroup, rfl⟩
  · rw [hnone]
    exact adds_none _ _ fun _ _ => rfl
  · rcases hgiven : nameValue ':' given with ⟨name, source⟩
    rw [hgiven] at hgroup
    rw [hsome, Option.map_some, hgiven]
    obtain ⟨value, hvalue, rfl⟩ := map_ok hgroup
    refine adds_singleton (by simp only [Conditions.nameValueText, String.append_assoc]) ?_
    intro _ r
    rw [Option.all_some]
    rcases mapM_option_ok hvalue with ⟨rfl, rfl⟩ | ⟨source, e, rfl, he, rfl⟩
    · show (r.header? name).isSome = _
      cases r.header? name <;> rfl
    · show (r.header? name).any e.regex.isMatch = _
      simp only [Option.all_some, expression_ok he, Option.any_some]

theorem acceptGroup_adds (h : acceptGroup o = .ok g) :
    Adds g (part "accept:" (o.conditions.accept.map Text.quoted)) fun _ r =>
      o.conditions.accept.all r.accept.accepts := by
  simp only [conditions]
  rcases mapM_option_ok h with ⟨hnone, rfl⟩ | ⟨offer, group, hsome, hgroup, rfl⟩
  · rw [hnone]
    exact adds_none _ _ fun _ _ => rfl
  · rw [hsome]
    split at hgroup
    · cases hgroup
    · obtain rfl := Except.ok.inj hgroup
      exact adds_singleton rfl fun _ _ => (Option.all_some ..).symm

theorem containmentGroup_adds (h : containmentGroup o = .ok g) :
    Adds g (part "containment:" (o.conditions.containment.map Interface.name)) fun context _ =>
      o.conditions.containment.all fun i => (context.findInterface? i).isSome := by
  obtain rfl := Except.ok.inj h
  simp only [conditions]
  cases o.containment with
  | none => exact adds_none _ _ fun _ _ => rfl
  | some i => exact adds_singleton rfl fun _ _ => (Option.all_some ..).symm

theorem typeGroup_adds (h : typeGroup o = .ok g) :
    Adds g (part "request_type:" (o.conditions.requestType.map Interface.name)) fun _ r =>
      o.conditions.requestType.all fun i => r.type.order.contains i := by
  obtain rfl := Except.ok.inj h
  simp only [conditions]
  cases o.requestType with
  | none => exact adds_none _ _ fun _ _ => rfl
  | some i => exact adds_singleton rfl fun _ _ => (Option.all_some ..).symm

theorem matchGroup_adds (h : matchGroup o = .ok g) :
    Adds g (part "match_param:"
        (o.conditions.captured.map fun pairs => Text.listed (pairs.map Conditions.pairText)))
      fun _ r => o.conditions.captured.all fun pairs => r.matchdict.any (matchesAll pairs) := by
  simp only [conditions]
  rcases mapM_option_ok h with ⟨hnone, rfl⟩ | ⟨given, group, hsome, hgroup, rfl⟩
  · rw [hnone]
    exact adds_none _ _ fun _ _ => rfl
  · rw [hsome]
    obtain ⟨pairs, hpairs, rfl⟩ := map_ok hgroup
    simp only [Option.map_some, mapM_list_ok hpairs]
    exact adds_singleton rfl fun _ _ => (Option.all_some ..).symm

theorem customIdentity_eq (n : Nat) (custom : List CustomPredicate) :
    customIdentity n custom = Conditions.hashesText n (custom.map CustomPredicate.hash) := by
  induction custom generalizing n with
  | nil => rfl
  | cons p custom ih => rw [customIdentity, ih, List.map_cons, Conditions.hashesText]

theorem customGroup_adds (h : customGroup o = .ok g) :
    Adds g (part "custom0:" (Conditions.hashesText? o.conditions.custom)) fun context r =>
      o.custom.all fun p => p.holds context r := by
  obtain rfl := Except.ok.inj h
  simp only [conditions]
  cases o.custom with
  | nil => exact adds_none _ _ fun _ _ => rfl
  | cons p custom =>
      refine ⟨?_, fun context r => ?_⟩
      · show customIdentity 0 (p :: custom) = _
        rw [customIdentity_eq, List.map_cons, Conditions.hashesText, String.append_assoc]
        rfl
      · show (((p :: custom).map Predicate.custom).all fun q => q.holds context r) = _
        rw [List.all_map]
        rfl

/-- The path to traverse identifies nothing, and asks nothing of a view. -/
theorem traverseGroup_adds (h : traverseGroup o = .ok g) : Adds g "" fun _ _ => true := by
  rcases mapM_option_ok h with ⟨-, rfl⟩ | ⟨source, group, -, hgroup, rfl⟩
  · exact ⟨rfl, fun _ _ => rfl⟩
  · obtain ⟨p, -, rfl⟩ := map_ok hgroup
    exact ⟨rfl, fun _ _ => rfl⟩

/-! ## All categories -/

theorem join_identities (groups : List (Option PredicateGroup)) :
    String.join ((groups.filterMap id).map PredicateGroup.identity) =
      String.join (groups.map fun g => (g.map PredicateGroup.identity).getD "") := by
  induction groups with
  | nil => rfl
  | cons g groups ih =>
      apply String.toList_inj.mp
      have htail := congrArg String.toList ih
      simp only [String.toList_join] at htail ⊢
      cases g with
      | none => simpa using htail
      | some g => simpa using htail

theorem all_predicates (groups : List (Option PredicateGroup)) (p : Predicate → Bool) :
    ((groups.filterMap id).flatMap PredicateGroup.predicates).all p =
      groups.all fun g => g.all fun g => g.predicates.all p := by
  induction groups with
  | nil => rfl
  | cons g groups ih =>
      cases g with
      | none => simpa using ih
      | some g => simpa using congrArg (g.predicates.all p && ·) ih

/-- What compiled options identify themselves by, and what they ask. -/
theorem compile_ok (h : o.compile = .ok s) :
    s.identity = o.conditions.text ∧
      ∀ context r, (s.predicates.all fun p => p.holds context r) =
        (o.conditions.hold context r && o.custom.all fun p => p.holds context r) := by
  obtain ⟨groups, hgroups, rfl⟩ := map_ok h
  obtain ⟨found, hfound, rfl⟩ := map_ok hgroups
  -- category by category, in the order in which they are compiled
  obtain ⟨xhr, found₁, hxhr, hfound₁, rfl⟩ := mapM_cons_ok hfound
  obtain ⟨method, found₂, hmethod, hfound₂, rfl⟩ := mapM_cons_ok hfound₁
  obtain ⟨path, found₃, hpath, hfound₃, rfl⟩ := mapM_cons_ok hfound₂
  obtain ⟨param, found₄, hparam, hfound₄, rfl⟩ := mapM_cons_ok hfound₃
  obtain ⟨header, found₅, hheader, hfound₅, rfl⟩ := mapM_cons_ok hfound₄
  obtain ⟨accept, found₆, haccept, hfound₆, rfl⟩ := mapM_cons_ok hfound₅
  obtain ⟨containment, found₇, hcontainment, hfound₇, rfl⟩ := mapM_cons_ok hfound₆
  obtain ⟨type, found₈, htype, hfound₈, rfl⟩ := mapM_cons_ok hfound₇
  obtain ⟨captured, found₉, hcaptured, hfound₉, rfl⟩ := mapM_cons_ok hfound₈
  obtain ⟨custom, found₁₀, hcustom, hfound₁₀, rfl⟩ := mapM_cons_ok hfound₉
  obtain ⟨traverse, found₁₁, htraverse, hfound₁₁, rfl⟩ := mapM_cons_ok hfound₁₀
  obtain rfl := Except.ok.inj hfound₁₁
  constructor
  · show String.join ((List.filterMap id _).map PredicateGroup.identity) = _
    rw [join_identities]
    simp only [List.reverse_nil, List.map_cons, List.map_nil, (xhrGroup_adds hxhr).text_eq,
      (methodGroup_adds hmethod).text_eq, (pathGroup_adds hpath).text_eq,
      (paramGroup_adds hparam).text_eq, (headerGroup_adds hheader).text_eq,
      (acceptGroup_adds haccept).text_eq, (containmentGroup_adds hcontainment).text_eq,
      (typeGroup_adds htype).text_eq, (matchGroup_adds hcaptured).text_eq,
      (customGroup_adds hcustom).text_eq, (traverseGroup_adds htraverse).text_eq]
    apply String.toList_inj.mp
    simp only [Conditions.text, Conditions.written, Conditions.words, Conditions.values,
      String.toList_join, List.zipWith_cons_cons, List.zipWith_nil_left, List.flatMap_cons,
      List.flatMap_nil, String.toList_empty, List.append_nil]
    rfl
  · intro context r
    show ((List.filterMap id _).flatMap PredicateGroup.predicates).all _ = _
    rw [all_predicates]
    simp only [List.reverse_nil, List.all_cons, List.all_nil, (xhrGroup_adds hxhr).verdict_eq,
      (methodGroup_adds hmethod).verdict_eq, (pathGroup_adds hpath).verdict_eq,
      (paramGroup_adds hparam).verdict_eq, (headerGroup_adds hheader).verdict_eq,
      (acceptGroup_adds haccept).verdict_eq, (containmentGroup_adds hcontainment).verdict_eq,
      (typeGroup_adds htype).verdict_eq, (matchGroup_adds hcaptured).verdict_eq,
      (customGroup_adds hcustom).verdict_eq, (traverseGroup_adds htraverse).verdict_eq,
      Conditions.hold, Bool.and_true, Bool.and_assoc]
    rfl

end PredicateOptions

end WebDispatch
