import WebDispatch.Proofs.Predicate.Conditions
import WebDispatch.Proofs.Text.Framing

/-!
# What an identity tells

An identity is written without separators: parts of quoted texts end by themselves, but the name of
an interface ends where the next word begins. So the conditions can be read off an identity
(`text_eq_iff`) as long as the names of interfaces do not run on into such a word, and sets with one
digest are interchangeable (`interchangeable_of_phash_eq`). There are interfaces of one name,
though, and names that hold a word.

* `Told` — values that are the same where the texts are, whichever parts follow;
* `written_inj` — values behind their words are told, if each is;
* `Conditions.NamesApart` — no confusion of the interfaces asked for.
-/

namespace WebDispatch

open Text (Framed)

namespace Conditions

variable {words : List String}

/-! ## Values behind their words -/

/-- What may stand behind a value: nothing, or what begins with a later word. -/
def Follows (words : List String) (rest : List Char) : Prop :=
  rest = [] ∨ ∃ word ∈ words, word.toList <+: rest

/-- Two values are the same if their texts are, with later parts behind them. -/
def Told (words : List String) (a b : String) : Prop :=
  ∀ rest rest', Follows words rest → Follows words rest' →
    a.toList ++ rest = b.toList ++ rest' → a = b

/-- Two texts neither of which begins the other. -/
def Differ (xs ys : List Char) : Prop := ¬ xs <+: ys ∧ ¬ ys <+: xs

instance (xs ys : List Char) : Decidable (Differ xs ys) :=
  inferInstanceAs (Decidable (¬ xs <+: ys ∧ ¬ ys <+: xs))

/-- Texts that begin one text do not differ. -/
theorem Differ.not_begin {xs ys zs : List Char} (h : Differ xs ys) (hx : xs <+: zs)
    (hy : ys <+: zs) : False := by
  rcases List.prefix_or_prefix_of_prefix hx hy with hxy | hyx
  · exact h.1 hxy
  · exact h.2 hyx

@[simp] theorem part_none (word : String) : part word none = "" := rfl

@[simp] theorem part_some (word value : String) : part word (some value) = word ++ value := rfl

@[simp] theorem toList_written_cons (word : String) (value : Option String)
    (values : List (Option String)) :
    (written (word :: words) (value :: values)).toList =
      (part word value).toList ++ (written words values).toList := by
  simp only [written, List.zipWith_cons_cons, String.toList_join, List.flatMap_cons]

theorem follows_written (words : List String) (values : List (Option String)) :
    Follows words (written words values).toList := by
  induction words generalizing values with
  | nil => exact Or.inl rfl
  | cons word words ih =>
      cases values with
      | nil => exact Or.inl rfl
      | cons value values =>
          rw [toList_written_cons]
          cases value with
          | none =>
              rcases ih values with hempty | ⟨later, hlater, hbegins⟩
              · exact Or.inl hempty
              · exact Or.inr ⟨later, List.mem_cons_of_mem word hlater, hbegins⟩
          | some value =>
              refine Or.inr ⟨word, List.mem_cons_self, ?_⟩
              rw [part_some, String.toList_append, List.append_assoc]
              exact List.prefix_append _ _

/-- Values side by side, each told from the one beside it with the later words behind them. -/
inductive Legible : List String → List (Option String) → List (Option String) → Prop where
  | nil : Legible [] [] []
  | cons {word : String} {words : List String} {x y : Option String} {xs ys : List (Option String)}
      (told : ∀ a ∈ x, ∀ b ∈ y, Told words a b) (rest : Legible words xs ys) :
      Legible (word :: words) (x :: xs) (y :: ys)

/-- A part that is there is not taken for later ones. -/
theorem part_ne_later {word a : String} {xs ys : List (Option String)} (hempty : word ≠ "")
    (hdiffer : ∀ later ∈ words, Differ word.toList later.toList) :
    (written (word :: words) (some a :: xs)).toList ≠ (written words ys).toList := by
  intro h
  have hbegins : word.toList <+: (written words ys).toList := by
    rw [← h, toList_written_cons, part_some, String.toList_append, List.append_assoc]
    exact List.prefix_append _ _
  rcases follows_written words ys with hnil | ⟨later, hlater, hbegins'⟩
  · rw [hnil, List.prefix_nil] at hbegins
    exact hempty (String.toList_inj.mp hbegins)
  · exact (hdiffer later hlater).not_begin hbegins hbegins'

theorem written_inj {xs ys : List (Option String)} (hlegible : Legible words xs ys)
    (hdiffer : words.Pairwise fun v w => Differ v.toList w.toList) (hempty : "" ∉ words)
    (h : (written words xs).toList = (written words ys).toList) : xs = ys := by
  induction hlegible with
  | nil => rfl
  | @cons word words x y xs ys told _ ih =>
      obtain ⟨hhead, htail⟩ := List.pairwise_cons.mp hdiffer
      have hne : word ≠ "" := fun heq => hempty (heq ▸ List.mem_cons_self)
      have hwords : "" ∉ words := fun hmem => hempty (List.mem_cons_of_mem word hmem)
      -- a part that is on one side only would have to be a later one of the other side
      cases x with
      | none =>
          cases y with
          | none =>
              rw [toList_written_cons, toList_written_cons] at h
              rw [ih htail hwords h]
          | some b =>
              rw [toList_written_cons, part_none] at h
              exact absurd h.symm (part_ne_later hne hhead)
      | some a =>
          cases y with
          | none =>
              rw [toList_written_cons word none, part_none] at h
              exact absurd h (part_ne_later hne hhead)
          | some b =>
              simp only [toList_written_cons, part_some, String.toList_append,
                List.append_assoc] at h
              have hvalues := List.append_cancel_left h
              obtain rfl := told a rfl b rfl _ _ (follows_written words xs)
                (follows_written words ys) hvalues
              rw [ih htail hwords (List.append_cancel_left hvalues)]

/-! ## Values that are told -/

theorem told_of_framed {α : Type} {write : α → String} (h : Framed write) (words : List String)
    {x y : Option α} : ∀ a ∈ x.map write, ∀ b ∈ y.map write, Told words a b := by
  intro a ha b hb rest rest' _ _ hab
  obtain ⟨v, -, rfl⟩ := Option.map_eq_some_iff.mp ha
  obtain ⟨w, -, rfl⟩ := Option.map_eq_some_iff.mp hb
  rw [(h hab).1]

/-- Behind the last word there is nothing. -/
theorem told_last (a b : String) : Told [] a b := by
  intro rest rest' hrest hrest' hab
  have hnil : ∀ {xs : List Char}, Follows [] xs → xs = [] := by
    rintro xs (hempty | ⟨word, hword, -⟩)
    · exact hempty
    · exact absurd hword List.not_mem_nil
  rw [hnil hrest, hnil hrest', List.append_nil, List.append_nil] at hab
  exact String.toList_inj.mp hab

def Separate (words : List String) : Prop :=
  ∀ v ∈ words, ∀ w ∈ words, ∀ k < v.toList.length, 0 < k → Differ (v.toList.drop k) w.toList

instance (words : List String) : Decidable (Separate words) := by
  unfold Separate
  infer_instance

/-- A text that does not run on into a word is told from a longer one. -/
theorem eq_of_longer (hseparate : Separate words) {a more rest rest' : List Char}
    (hrest : Follows words rest) (hrest' : Follows words rest')
    (hrun : ∀ word ∈ words, ¬ a ++ word.toList <+: a ++ more) (h : rest = more ++ rest') :
    more = [] := by
  rcases hrest with rfl | ⟨word, hword, tail, htail⟩
  · exact (List.append_eq_nil_iff.mp h.symm).1
  rcases List.append_eq_append_iff.mp (htail.trans h) with
    ⟨beyond, rfl, -⟩ | ⟨inside, hinside, hbehind⟩
  · -- the word lies within the longer text
    refine absurd ?_ (hrun word hword)
    rw [← List.append_assoc]
    exact List.prefix_append _ _
  rcases Classical.em (more = []) with hempty | hmore
  · exact hempty
  -- the longer text ends within the word
  have hpos : 0 < more.length := List.length_pos_iff.mpr hmore
  have hdrop : word.toList.drop more.length = inside := by rw [hinside, List.drop_left]
  by_cases hnil : inside = []
  · have hwhole : word.toList = more := by rw [hinside, hnil, List.append_nil]
    exact absurd ⟨[], by rw [hwhole, List.append_nil]⟩ (hrun word hword)
  have hinner : inside <+: rest' := ⟨tail, hbehind.symm⟩
  rcases hrest' with rfl | ⟨later, hlater, hbegins⟩
  · exact absurd (List.prefix_nil.mp hinner) hnil
  · have hshort : more.length < word.toList.length := by
      rw [hinside, List.length_append]
      exact Nat.lt_add_of_pos_right (List.length_pos_iff.mpr hnil)
    have hdiffer := hseparate word hword later hlater _ hshort hpos
    rw [hdrop] at hdiffer
    exact (hdiffer.not_begin hinner hbegins).elim

/-- Names of interfaces that are not confused with later parts behind them. -/
structure InterfacesApart (words : List String) (i j : Interface) : Prop where
  eq_of_name_eq : i.name = j.name → i = j
  left_stops : ∀ word ∈ words, ¬ (i.name ++ word).toList <+: j.name.toList
  right_stops : ∀ word ∈ words, ¬ (j.name ++ word).toList <+: i.name.toList

theorem InterfacesApart.told {i j : Interface} (h : InterfacesApart words i j)
    (hseparate : Separate words) : Told words i.name j.name := by
  intro rest rest' hrest hrest' hij
  rcases List.append_eq_append_iff.mp hij with ⟨more, hmore, hbehind⟩ | ⟨more, hmore, hbehind⟩
  · have hrun := h.left_stops
    simp only [String.toList_append, hmore] at hrun
    have hnil := eq_of_longer hseparate hrest hrest' hrun hbehind
    rw [hnil, List.append_nil] at hmore
    exact (String.toList_inj.mp hmore).symm
  · have hrun := h.right_stops
    simp only [String.toList_append, hmore] at hrun
    have hnil := eq_of_longer hseparate hrest' hrest hrun hbehind
    rw [hnil, List.append_nil] at hmore
    exact String.toList_inj.mp hmore

/-! ## Values from their texts -/

/-- Digits end where something else begins. -/
theorem digits_append_inj {xs ys rest rest' : List Char} (hx : ∀ c ∈ xs, c.isDigit = true)
    (hy : ∀ c ∈ ys, c.isDigit = true) (hrest : ∀ c ∈ rest.head?, c.isDigit = false)
    (hrest' : ∀ c ∈ rest'.head?, c.isDigit = false) (h : xs ++ rest = ys ++ rest') :
    xs = ys ∧ rest = rest' := by
  have htake : ∀ {zs tail : List Char}, (∀ c ∈ zs, c.isDigit = true) →
      (∀ c ∈ tail.head?, c.isDigit = false) → (zs ++ tail).takeWhile Char.isDigit = zs := by
    intro zs tail hzs htail
    rw [List.takeWhile_append_of_pos hzs]
    cases tail with
    | nil => rw [List.takeWhile_nil, List.append_nil]
    | cons c tail =>
        rw [List.takeWhile_cons_of_neg (by rw [htail c rfl]; decide), List.append_nil]
  have hxy : xs = ys := by rw [← htake hx hrest, h, htake hy hrest']
  subst hxy
  exact ⟨rfl, List.append_cancel_left h⟩

theorem hashesText_head (n : Nat) (hashes : List Nat) :
    ∀ c ∈ (hashesText n hashes).toList.head?, c.isDigit = false := by
  cases hashes with
  | nil => intro c hc; cases hc
  | cons hash hashes =>
      have hhead : (hashesText n (hash :: hashes)).toList.head? = some 'c' := by
        simp [hashesText]
      rw [hhead]
      rintro c ⟨⟩
      rfl

theorem hash_append_inj {m n k : Nat} {xs ys : List Nat}
    (h : toString m ++ hashesText k xs = toString n ++ hashesText k ys) :
    m = n ∧ hashesText k xs = hashesText k ys := by
  have hdigits : ∀ k : Nat, ∀ c ∈ Nat.toDigits 10 k, c.isDigit = true := fun k c hc =>
    Nat.isDigit_of_mem_toDigits (by decide) (by decide) hc
  have hlists := congrArg String.toList h
  simp only [String.toList_append, Nat.toString_eq_ofList_toDigits, String.toList_ofList] at hlists
  obtain ⟨hhash, hrest⟩ := digits_append_inj (hdigits m) (hdigits n) (hashesText_head k xs)
    (hashesText_head k ys) hlists
  exact ⟨Text.toDigits_inj (by decide) (by decide) hhash, String.toList_inj.mp hrest⟩

theorem hashesText_cons (n hash : Nat) (hashes : List Nat) :
    hashesText n (hash :: hashes) =
      ("custom" ++ toString n ++ ":") ++ (toString hash ++ hashesText (n + 1) hashes) := by
  rw [hashesText, String.append_assoc]

theorem hashesText_cons_ne_empty (n hash : Nat) (hashes : List Nat) :
    hashesText n (hash :: hashes) ≠ "" := by
  intro h
  have hlists := congrArg String.toList h
  simp [hashesText] at hlists

theorem hashesText_inj {n : Nat} {xs ys : List Nat} (h : hashesText n xs = hashesText n ys) :
    xs = ys := by
  induction xs generalizing n ys with
  | nil =>
      cases ys with
      | nil => rfl
      | cons y ys => exact absurd h.symm (hashesText_cons_ne_empty n y ys)
  | cons x xs ih =>
      cases ys with
      | nil => exact absurd h (hashesText_cons_ne_empty n x xs)
      | cons y ys =>
          rw [hashesText_cons, hashesText_cons, String.append_right_inj] at h
          obtain ⟨rfl, hrest⟩ := hash_append_inj h
          rw [ih hrest]

theorem hashesText?_inj {xs ys : List Nat} (h : hashesText? xs = hashesText? ys) : xs = ys := by
  cases xs with
  | nil =>
      cases ys with
      | nil => rfl
      | cons y ys => cases h
  | cons x xs =>
      cases ys with
      | nil => cases h
      | cons y ys =>
          obtain ⟨rfl, hrest⟩ := hash_append_inj (Option.some.inj h)
          rw [hashesText_inj hrest]

theorem framed_nameValueText : Framed nameValueText := by
  intro p q rest rest' h
  refine Text.framed_pair Text.framed_quoted Text.framed_quotedOptional "" "=" "" ?_
  simpa only [nameValueText, String.empty_append, String.append_empty] using h

theorem framed_pairsText :
    Framed fun pairs : List (String × String) => Text.listed (pairs.map pairText) := by
  refine Text.framed_listed (Text.framed_pair Text.framed_quoted Text.framed_quoted "(" ", " ")") ?_
  intro p rest rest' h
  simp at h

theorem framed_quotedList : Framed Text.quotedList := by
  refine Text.framed_listed Text.framed_quoted ?_
  intro s rest rest' h
  simp [Text.toList_quoted] at h

/-- Two ways to be written that are framed are injective on what may be absent. -/
theorem map_inj_of_framed {α : Type} {write : α → String} (h : Framed write) {x y : Option α}
    (hxy : x.map write = y.map write) : x = y := by
  refine Option.map_injective ?_ hxy
  intro a b hab
  exact (h (congrArg (String.toList · ++ []) hab)).1

/-! ## Conditions from their text -/

/-- The interfaces that two conditions ask for are not confused with each other, nor with parts
behind them. -/
structure NamesApart (c d : Conditions) : Prop where
  containment : ∀ i ∈ c.containment, ∀ j ∈ d.containment,
    InterfacesApart ["request_type:", "match_param:", "custom0:"] i j
  requestType : ∀ i ∈ c.requestType, ∀ j ∈ d.requestType,
    InterfacesApart ["match_param:", "custom0:"] i j

variable {c d : Conditions}

theorem told_xhr (words : List String) (x y : Bool) :
    ∀ a ∈ (if x then some "True" else none), ∀ b ∈ (if y then some "True" else none),
      Told words a b := by
  cases x <;> cases y <;> simp [Told]

theorem told_interfaces (hseparate : Separate words) {x y : Option Interface}
    (hapart : ∀ i ∈ x, ∀ j ∈ y, InterfacesApart words i j) :
    ∀ a ∈ x.map Interface.name, ∀ b ∈ y.map Interface.name, Told words a b := by
  intro a ha b hb
  obtain ⟨i, hi, rfl⟩ := Option.map_eq_some_iff.mp ha
  obtain ⟨j, hj, rfl⟩ := Option.map_eq_some_iff.mp hb
  exact (hapart i hi j hj).told hseparate

theorem NamesApart.legible (h : NamesApart c d) : Legible Conditions.words c.values d.values := by
  -- all values end by themselves but the names of interfaces, and the hashes, which come last
  refine .cons (told_xhr _ _ _) ?_
  refine .cons (told_of_framed framed_quotedList _) ?_
  refine .cons (told_of_framed Text.framed_quoted _) ?_
  refine .cons (told_of_framed framed_nameValueText _) ?_
  refine .cons (told_of_framed framed_nameValueText _) ?_
  refine .cons (told_of_framed Text.framed_quoted _) ?_
  refine .cons (told_interfaces (by decide) h.containment) ?_
  refine .cons (told_interfaces (by decide) h.requestType) ?_
  refine .cons (told_of_framed framed_pairsText _) ?_
  exact .cons (fun a _ b _ => told_last a b) .nil

theorem map_name_inj {words : List String} {x y : Option Interface}
    (hapart : ∀ i ∈ x, ∀ j ∈ y, InterfacesApart words i j)
    (h : x.map Interface.name = y.map Interface.name) : x = y := by
  cases x with
  | none => exact (Option.map_eq_none_iff.mp h.symm).symm
  | some i =>
      obtain ⟨j, rfl, hname⟩ := Option.map_eq_some_iff.mp h.symm
      rw [(hapart i rfl j rfl).eq_of_name_eq hname.symm]

theorem NamesApart.eq_of_values_eq (h : NamesApart c d) (hvalues : c.values = d.values) :
    c = d := by
  simp only [values, List.cons.injEq, and_true] at hvalues
  obtain ⟨hxhr, hmethods, hpath, hparam, hheader, haccept, hcontainment, htype, hcaptured,
    hcustom⟩ := hvalues
  have hxhr' : c.xhr = d.xhr := by
    cases hc : c.xhr <;> cases hd : d.xhr <;> simp [hc, hd] at hxhr ⊢
  cases c with
  | mk =>
    cases d with
    | mk =>
      congr 1
      · exact map_inj_of_framed framed_quotedList hmethods
      · exact map_inj_of_framed Text.framed_quoted hpath
      · exact map_inj_of_framed framed_nameValueText hparam
      · exact map_inj_of_framed framed_nameValueText hheader
      · exact map_inj_of_framed Text.framed_quoted haccept
      · exact map_name_inj h.containment hcontainment
      · exact map_name_inj h.requestType htype
      · exact map_inj_of_framed framed_pairsText hcaptured
      · exact hashesText?_inj hcustom

/-- Conditions can be read off their text. -/
theorem NamesApart.text_eq_iff (h : NamesApart c d) : c.text = d.text ↔ c = d := by
  constructor
  · intro htext
    refine h.eq_of_values_eq (written_inj h.legible (by decide) (by decide) ?_)
    exact congrArg String.toList htext
  · rintro rfl
    rfl

end Conditions

namespace PredicateOptions

variable {o p : PredicateOptions} {s t : PredicateSet}

/-- Conditions of the application that have one hash give one verdict. -/
def HashesTell (xs ys : List CustomPredicate) : Prop :=
  ∀ x ∈ xs, ∀ y ∈ ys, x.hash = y.hash → ∀ context r, x.holds context r = y.holds context r

theorem HashesTell.all_eq {xs ys : List CustomPredicate} (h : HashesTell xs ys)
    (hhash : xs.map CustomPredicate.hash = ys.map CustomPredicate.hash) (context : Resource)
    (r : Request) : (xs.all fun x => x.holds context r) = ys.all fun y => y.holds context r := by
  induction xs generalizing ys with
  | nil =>
      obtain rfl := List.map_eq_nil_iff.mp hhash.symm
      rfl
  | cons x xs ih =>
      cases ys with
      | nil => cases hhash
      | cons y ys =>
          obtain ⟨hhead, htail⟩ := List.cons.inj hhash
          have hrest : HashesTell xs ys := fun x hx y hy =>
            h x (List.mem_cons_of_mem _ hx) y (List.mem_cons_of_mem _ hy)
          rw [List.all_cons, List.all_cons, ih hrest htail,
            h x List.mem_cons_self y List.mem_cons_self hhead]

/-- Two sets of predicates give one verdict, whatever is asked. -/
def Interchangeable (s t : PredicateSet) : Prop :=
  ∀ context r, (s.predicates.all fun q => q.holds context r) =
    t.predicates.all fun q => q.holds context r

/-- Compiled options whose interfaces are told apart have one digest exactly if they come down to
the same conditions, and then they are interchangeable. -/
theorem interchangeable_of_phash_eq (ho : o.compile = .ok s) (hp : p.compile = .ok t)
    (hdigest : Text.hexDigest s.identity = Text.hexDigest t.identity → s.identity = t.identity)
    (hcustom : HashesTell o.custom p.custom) (hapart : o.conditions.NamesApart p.conditions) :
    (s.phash = t.phash ↔ o.conditions = p.conditions) ∧
      (s.phash = t.phash → Interchangeable s t) := by
  obtain ⟨hs, hsverdict⟩ := compile_ok ho
  obtain ⟨ht, htverdict⟩ := compile_ok hp
  have hiff : s.phash = t.phash ↔ o.conditions = p.conditions := by
    rw [← hapart.text_eq_iff, ← hs, ← ht]
    exact ⟨hdigest, congrArg Text.hexDigest⟩
  refine ⟨hiff, fun hphash context r => ?_⟩
  have hconditions := hiff.mp hphash
  have hhashes : o.custom.map CustomPredicate.hash = p.custom.map CustomPredicate.hash :=
    congrArg Conditions.custom hconditions
  rw [hsverdict, htverdict, hconditions, hcustom.all_eq hhashes]

def folderPage (param text : String) : PredicateOptions :=
  { requestParam := some param, containment := some (.type "Folder")
    requestType := some (.named "Api")
    custom := [{ text := text, hash := 7, holds := fun _ r => r.isXhr
                 holdsForRoute := fun _ r => r.isXhr }] }

/-- Blanks in an option and texts of conditions of the application make no difference. -/
theorem interchangeable_folderPage :
    ∃ s t, (folderPage "page=1" "by a script").compile = .ok s ∧
      (folderPage " page = 1 " "scripted").compile = .ok t ∧ s.phash = t.phash ∧
      Interchangeable s t := by
  have hcustom : HashesTell (folderPage "page=1" "by a script").custom
      (folderPage " page = 1 " "scripted").custom := by
    intro x hx y hy _ context r
    obtain rfl := List.mem_singleton.mp hx
    obtain rfl := List.mem_singleton.mp hy
    rfl
  have hapart : (folderPage "page=1" "by a script").conditions.NamesApart
      (folderPage " page = 1 " "scripted").conditions := by
    constructor
    · rintro i ⟨⟩ j ⟨⟩
      exact ⟨fun _ => rfl, by decide, by decide⟩
    · rintro i ⟨⟩ j ⟨⟩
      exact ⟨fun _ => rfl, by decide, by decide⟩
  have hconditions : (folderPage "page=1" "by a script").conditions =
      (folderPage " page = 1 " "scripted").conditions := by decide
  obtain ⟨s, hs⟩ : ∃ s, (folderPage "page=1" "by a script").compile = .ok s := ⟨_, rfl⟩
  obtain ⟨t, ht⟩ : ∃ t, (folderPage " page = 1 " "scripted").compile = .ok t := ⟨_, rfl⟩
  have hidentity : s.identity = t.identity := by
    rw [(compile_ok hs).1, (compile_ok ht).1, hconditions]
  have hboth := interchangeable_of_phash_eq hs ht (fun _ => hidentity) hcustom hapart
  have hphash := hboth.1.mpr hconditions
  exact ⟨s, t, hs, ht, hphash, hboth.2 hphash⟩

/-- A name given at run time may be that of a type. -/
theorem not_interchangeable_named_like_type :
    ∃ s t, ({ containment := some (.type "Folder") } : PredicateOptions).compile = .ok s ∧
      ({ containment := some (.named "Folder") } : PredicateOptions).compile = .ok t ∧
      s.phash = t.phash ∧ ¬ Interchangeable s t := by
  refine ⟨_, _, rfl, rfl, ?_, fun h => ?_⟩
  · exact congrArg Text.hexDigest rfl
  · have hverdict := h (.ofTree (.leaf (.type "Folder"))) {}
    revert hverdict
    decide

/-- A name that runs on into the word of a later category may be taken for a shorter one and a part
of that category. -/
theorem not_interchangeable_run_on :
    ∃ s t, ({ containment := some (.named "Shelf"), requestType := some (.named "Api") } :
        PredicateOptions).compile = .ok s ∧
      ({ containment := some (.named "Shelfrequest_type:Api") } :
        PredicateOptions).compile = .ok t ∧
      s.phash = t.phash ∧ ¬ Interchangeable s t := by
  refine ⟨_, _, rfl, rfl, ?_, fun h => ?_⟩
  · refine congrArg Text.hexDigest ?_
    decide
  · have hverdict := h (.ofTree (.leaf (.named "Shelfrequest_type:Api"))) {}
    revert hverdict
    decide

end PredicateOptions

end WebDispatch
