import WebDispatch.Path.Pattern
import WebDispatch.Proofs.Regex.Ends

/-!
# The expressions of plain patterns

The name of a field is written into the expression of the pattern as it is, and the group there ends
its name at the first angle bracket. Where no name holds one, the expression of a pattern of plain
fields is what one expects of its parts: a text for each literal, a group for each field and for the
remainder (`expression_eq`). Reading it comes past the parts one by one (`readsOn_parts`).

Whatever its fields, no group of a pattern has an angle bracket in its name (`notMem_of_mem_groupNames`).
-/

namespace WebDispatch

namespace Pattern

open Regex (ReadsOn pushed pushed_append literals segmentBody remainderBody anchored isGroupName)

variable {source : String} {p : Pattern} {remainder : Option String} {parts : List PatternPart}
  {rest : List Char} {out : Regex × Regex.Reading} {items : List Regex.Item} {groups : Nat}
  {taken : List String}

/-! ## Plain parts -/

def isPlain (parts : List PatternPart) : Bool :=
  parts.all fun
    | .field _ (some _) => false
    | _ => true

def fieldNames (parts : List PatternPart) : List String :=
  parts.filterMap fun
    | .field name _ => some name
    | .literal _ => none

/-- The names that a pattern gives values to, the fields before the remainder. -/
def names (p : Pattern) : List String := fieldNames p.parts ++ p.remainder.toList

@[simp] theorem fieldNames_literal (text : String) :
    fieldNames (.literal text :: parts) = fieldNames parts := rfl

theorem fieldNames_field (name : String) (expression : Option String) :
    fieldNames (.field name expression :: parts) = name :: fieldNames parts := rfl

def pieces (groups : Nat) : List PatternPart → List Regex
  | [] => []
  | .literal text :: parts => literals text.toList ++ pieces groups parts
  | .field name _ :: parts =>
    .group (groups + 1) (some name) segmentBody :: pieces (groups + 1) parts

def remainderPieces (groups : Nat) : Option String → List Regex
  | none => []
  | some name => [.group (groups + 1) (some name) remainderBody]

def wholePieces (groups : Nat) (parts : List PatternPart) (remainder : Option String) :
    List Regex :=
  pieces groups parts ++ remainderPieces (groups + (fieldNames parts).length) remainder

@[simp] theorem wholePieces_literal (text : String) :
    wholePieces groups (.literal text :: parts) remainder =
      literals text.toList ++ wholePieces groups parts remainder :=
  List.append_assoc _ _ _

theorem wholePieces_field (name : String) (expression : Option String) :
    wholePieces groups (.field name expression :: parts) remainder =
      .group (groups + 1) (some name) segmentBody :: wholePieces (groups + 1) parts remainder := by
  rw [wholePieces, fieldNames_field, List.length_cons, Nat.add_comm _ 1, ← Nat.add_assoc]
  rfl

/-! ## Reading them -/

theorem partText_field_append (name : String) (rest : List Char) :
    partText (.field name none) ++ rest =
      "(?P<".toList ++ (name.toList ++ '>' :: ("[^/]+".toList ++ ')' :: rest)) := by
  have hgroup : ∀ opening name body : List Char,
      opening ++ name ++ ['>'] ++ body ++ [')'] ++ rest =
        opening ++ (name ++ '>' :: (body ++ ')' :: rest)) := by simp
  exact hgroup _ _ _

theorem nodup_append_singleton {name : String} (h : taken.Nodup) (hnew : name ∉ taken) :
    (taken ++ [name]).Nodup := by
  rw [List.nodup_append]
  refine ⟨h, List.pairwise_singleton _ name, ?_⟩
  rintro other hother _ hmem rfl
  exact hnew (List.mem_singleton.mp hmem ▸ hother)

/-- Reading the expression of plain parts comes past all of them, and takes their names. -/
theorem readsOn_parts (hplain : isPlain parts = true)
    (hnames : ∀ name ∈ fieldNames parts, '>' ∉ name.toList) (hnodup : taken.Nodup)
    (h : ReadsOn out items ⟨parts.flatMap partText ++ rest, {}, groups, taken⟩) :
    (taken ++ fieldNames parts).Nodup ∧
      ReadsOn out (pushed (pieces groups parts) items)
        ⟨rest, {}, groups + (fieldNames parts).length, taken ++ fieldNames parts⟩ := by
  induction parts generalizing groups taken items with
  | nil =>
      rw [fieldNames, List.filterMap_nil, List.append_nil]
      exact ⟨hnodup, h⟩
  | cons part parts ih =>
      rw [isPlain, List.all_cons, Bool.and_eq_true] at hplain
      rw [List.flatMap_cons, List.append_assoc] at h
      cases part with
      | literal text =>
          rw [fieldNames_literal] at hnames ⊢
          rw [pieces, pushed_append]
          exact ih hplain.2 hnames hnodup (ReadsOn.of_escapeLiteral h)
      | field name expression =>
          obtain rfl : expression = none := by
            cases expression with
            | none => rfl
            | some _ => cases hplain.1
          rw [fieldNames_field, List.forall_mem_cons] at hnames
          rw [partText_field_append] at h
          obtain ⟨hnew, h⟩ :=
            ReadsOn.of_group hnames.1 (fun _ _ _ hbody => hbody.eq_segmentBody) h
          rw [String.ofList_toList] at hnew h
          obtain ⟨hnodup', h⟩ := ih hplain.2 hnames.2 (nodup_append_singleton hnodup hnew) h
          rw [List.append_assoc, List.singleton_append] at hnodup' h
          rw [Nat.add_assoc, Nat.add_comm 1] at h
          rw [pieces, fieldNames_field]
          exact ⟨hnodup', (pushed_append [_] (pieces (groups + 1) parts) items).symm ▸ h⟩

theorem expressionText_none (parts : List PatternPart) :
    expressionText parts none = '^' :: (parts.flatMap partText ++ ['$']) := by
  unfold expressionText
  rw [List.append_nil, List.append_assoc]
  rfl

theorem expressionText_some (parts : List PatternPart) (name : String) :
    expressionText parts (some name) = '^' :: (parts.flatMap partText ++
      ("(?P<".toList ++ (name.toList ++ '>' :: (".*?".toList ++ ')' :: ['$'])))) := by
  unfold expressionText
  rw [List.append_assoc, List.append_assoc, List.append_assoc, List.append_assoc]
  rfl

/-- The expression that is read has the pieces of the parts, and the names are distinct. -/
theorem eq_anchored_of_parseChars? {r : Regex} (hplain : isPlain parts = true)
    (hfields : ∀ name ∈ fieldNames parts, '>' ∉ name.toList)
    (hremainder : ∀ name ∈ remainder, '>' ∉ name.toList)
    (h : Regex.parseChars? (expressionText parts remainder) = some r) :
    (fieldNames parts ++ remainder.toList).Nodup ∧ r = anchored (wholePieces 0 parts remainder) := by
  obtain ⟨out, h, hr⟩ := Regex.exists_of_parseChars? h
  cases remainder with
  | none =>
      rw [expressionText_none] at h
      obtain ⟨hnodup, h⟩ := readsOn_parts hplain hfields List.nodup_nil (ReadsOn.of_start h)
      rw [List.nil_append] at hnodup
      obtain rfl := ReadsOn.of_nil (ReadsOn.of_dollar h)
      refine ⟨by rwa [Option.toList_none, List.append_nil], ?_⟩
      rw [hr rfl]
      simp [anchored, pushed, wholePieces, remainderPieces]
  | some name =>
      rw [expressionText_some] at h
      obtain ⟨hnodup, h⟩ := readsOn_parts hplain hfields List.nodup_nil (ReadsOn.of_start h)
      obtain ⟨hnew, h⟩ := ReadsOn.of_group (hremainder name rfl)
        (fun _ _ _ hbody => hbody.eq_remainderBody) h
      rw [List.nil_append] at hnodup hnew
      rw [String.ofList_toList] at hnew h
      obtain rfl := ReadsOn.of_nil (ReadsOn.of_dollar h)
      constructor
      · exact nodup_append_singleton hnodup hnew
      · rw [hr rfl]
        simp [anchored, pushed, wholePieces, remainderPieces]

/-! ## The expression of a pattern -/

theorem notMem_of_splitStar {cs body name : List Char} (h : splitStar cs = (body, some name)) :
    '>' ∉ name := by
  have hword : Text.isWordChar '>' = false := by decide
  rw [splitStar] at h
  split at h
  · next hname =>
      obtain rfl := Option.some.inj (Prod.mk.inj h).2
      rw [Bool.and_eq_true, List.all_eq_true] at hname
      intro hmem
      have hchar := hname.2 _ (List.mem_reverse.mp hmem)
      rw [hword] at hchar
      cases hchar
  · cases (Prod.mk.inj h).2

/-- The expression of a pattern is read from its parts. The name of its remainder is a word. -/
theorem parseChars?_of_compile (h : compile source = .ok p) :
    Regex.parseChars? (expressionText p.parts p.remainder) = some p.expression ∧
      ∀ name ∈ p.remainder, '>' ∉ name.toList := by
  unfold compile at h
  generalize hsplit : splitStar source.toList = split at h
  obtain ⟨body, star⟩ := split
  dsimp only at h
  split at h
  · next r hr =>
      obtain rfl := Except.ok.inj h
      refine ⟨hr, fun name hname => ?_⟩
      obtain ⟨cs, hcs, rfl⟩ := Option.map_eq_some_iff.mp (Option.mem_def.mp hname)
      rw [(Option.filter_eq_some_iff.mp hcs).1] at hsplit
      rw [String.toList_ofList]
      exact notMem_of_splitStar hsplit
  · cases h

/-- **The expression of a plain pattern.** Where no field of a pattern of plain fields has an angle
bracket in its name, the names are distinct and the expression is made of the pieces of the parts. -/
theorem expression_eq (h : compile source = .ok p) (hplain : isPlain p.parts = true)
    (hfields : ∀ name ∈ fieldNames p.parts, '>' ∉ name.toList) :
    p.names.Nodup ∧ p.expression = anchored (wholePieces 0 p.parts p.remainder) := by
  obtain ⟨hparse, hremainder⟩ := parseChars?_of_compile h
  exact eq_anchored_of_parseChars? hplain hfields hremainder hparse

theorem notMem_of_isGroupName {name : List Char} (h : isGroupName name = true) : '>' ∉ name := by
  have hfirst : Regex.isNameChar true '>' = false := by decide
  have hlater : Regex.isNameChar false '>' = false := by decide
  cases name with
  | nil => simp
  | cons c rest =>
      rw [isGroupName, Bool.and_eq_true, List.all_eq_true] at h
      rw [List.mem_cons, not_or]
      constructor
      · rintro rfl
        rw [hfirst] at h
        cases h.1
      · intro hmem
        have hchar := h.2 _ hmem
        rw [hlater] at hchar
        cases hchar

/-- No name that a pattern captures for holds an angle bracket. -/
theorem notMem_of_mem_groupNames (h : compile source = .ok p) {group : Nat × String}
    (hgroup : group ∈ p.expression.groupNames) : '>' ∉ group.2.toList :=
  notMem_of_isGroupName
    (Regex.wellNamed_of_parseChars? (parseChars?_of_compile h).1 group hgroup)

end Pattern

end WebDispatch
