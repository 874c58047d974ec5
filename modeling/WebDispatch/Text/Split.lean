import WebDispatch.Text.Property

/-!
# Cutting text

Texts are cut at single characters and trimmed at both ends.

* `splitOn` — the pieces between separators; a text with `n` separators has `n + 1` pieces;
* `cut?` — the two sides of the first separator;
* `trim` — without the leading and trailing characters that satisfy a test;
* `words` — the pieces between blanks, none of them empty;
* `joinWith` — pieces with a separator between any two, the other direction of `splitOn`.

The pieces between separators hold none (`not_mem_of_mem_splitOn`), and a text is cut at a
separator by cutting what stands before and after it (`splitOn_append`). The pieces of a text make
it up again (`joinWith_splitOn`), and pieces that hold no separator come back from the text that
they make up (`splitOn_joinWith`).
-/

namespace WebDispatch.Text

def splitChars (sep : Char) : List Char → List (List Char)
  | [] => [[]]
  | c :: rest =>
    match splitChars sep rest with
    | [] => [[c]]
    | piece :: pieces => if c = sep then [] :: piece :: pieces else (c :: piece) :: pieces

theorem splitChars_ne_nil (sep : Char) (cs : List Char) : splitChars sep cs ≠ [] := by
  cases cs with
  | nil => simp [splitChars]
  | cons c rest =>
    rw [splitChars]
    split
    · simp
    · split <;> simp

/-- One character more begins a new piece, if it is a separator, or the first piece. -/
theorem splitChars_cons (sep c : Char) (cs : List Char) :
    ∃ piece pieces, splitChars sep cs = piece :: pieces ∧
      splitChars sep (c :: cs) =
        if c = sep then [] :: piece :: pieces else (c :: piece) :: pieces := by
  cases h : splitChars sep cs with
  | nil => exact absurd h (splitChars_ne_nil sep cs)
  | cons piece pieces => exact ⟨piece, pieces, rfl, by rw [splitChars, h]⟩

/-- No piece holds the separator. -/
theorem not_mem_of_mem_splitChars {sep : Char} {cs piece : List Char}
    (h : piece ∈ splitChars sep cs) : sep ∉ piece := by
  induction cs generalizing piece with
  | nil =>
    rw [splitChars, List.mem_singleton] at h
    simp [h]
  | cons c rest ih =>
    obtain ⟨first, others, hrest, hcons⟩ := splitChars_cons sep c rest
    rw [hrest] at ih
    rw [hcons] at h
    split at h
    · rcases List.mem_cons.1 h with rfl | h
      · simp
      · exact ih h
    · next hc =>
      rcases List.mem_cons.1 h with rfl | h
      · simp only [List.mem_cons, not_or]
        exact ⟨fun he => hc he.symm, ih List.mem_cons_self⟩
      · exact ih (List.mem_cons_of_mem first h)

/-- A text without separators is one piece. -/
theorem splitChars_eq_singleton {sep : Char} {cs : List Char} (h : sep ∉ cs) :
    splitChars sep cs = [cs] := by
  induction cs with
  | nil => rfl
  | cons c rest ih =>
    rw [List.mem_cons, not_or] at h
    rw [splitChars, ih h.2]
    exact if_neg fun hc => h.1 hc.symm

/-- The pieces on the two sides of a separator. -/
theorem splitChars_append (sep : Char) (xs ys : List Char) :
    splitChars sep (xs ++ sep :: ys) = splitChars sep xs ++ splitChars sep ys := by
  induction xs with
  | nil =>
    obtain ⟨piece, pieces, hys, hcons⟩ := splitChars_cons sep sep ys
    rw [List.nil_append, hcons, hys]
    simp [splitChars]
  | cons c rest ih =>
    obtain ⟨piece, pieces, hrest, hcons⟩ := splitChars_cons sep c rest
    rw [List.cons_append, splitChars, ih, hrest, hcons]
    simp only [List.cons_append]
    split <;> rfl

def splitOn (sep : Char) (s : String) : List String := (splitChars sep s.toList).map String.ofList

theorem splitOn_ne_nil (sep : Char) (s : String) : splitOn sep s ≠ [] :=
  mt List.map_eq_nil_iff.1 (splitChars_ne_nil sep s.toList)

theorem not_mem_of_mem_splitOn {sep : Char} {s piece : String} (h : piece ∈ splitOn sep s) :
    sep ∉ piece.toList := by
  obtain ⟨cs, hcs, rfl⟩ := List.mem_map.1 h
  rw [String.toList_ofList]
  exact not_mem_of_mem_splitChars hcs

theorem splitOn_eq_singleton {sep : Char} {s : String} (h : sep ∉ s.toList) :
    splitOn sep s = [s] := by
  rw [splitOn, splitChars_eq_singleton h, List.map_singleton, String.ofList_toList]

theorem splitOn_append (sep : Char) (s t : String) :
    splitOn sep (s ++ sep.toString ++ t) = splitOn sep s ++ splitOn sep t := by
  have hchars : (s ++ sep.toString ++ t).toList = s.toList ++ sep :: t.toList := by simp
  rw [splitOn, hchars, splitChars_append, List.map_append]
  rfl

def cutChars? (sep : Char) : List Char → Option (List Char × List Char)
  | [] => none
  | c :: rest =>
    if c = sep then some ([], rest)
    else (cutChars? sep rest).map fun (left, right) => (c :: left, right)

def cut? (sep : Char) (s : String) : Option (String × String) :=
  (cutChars? sep s.toList).map fun (left, right) => (String.ofList left, String.ofList right)

def trimEndChars (p : Char → Bool) (cs : List Char) : List Char :=
  (cs.reverse.dropWhile p).reverse

def trimStartBy (p : Char → Bool) (s : String) : String := String.ofList (s.toList.dropWhile p)

def trimEndBy (p : Char → Bool) (s : String) : String := String.ofList (trimEndChars p s.toList)

def trimBy (p : Char → Bool) (s : String) : String :=
  String.ofList (trimEndChars p (s.toList.dropWhile p))

def trim (s : String) : String := trimBy isBlank s

/-- The words of a list of characters: `word` is the one being read, last character first. -/
def wordsFrom (word : List Char) : List Char → List String
  | [] => if word.isEmpty then [] else [String.ofList word.reverse]
  | c :: rest =>
    if isBlank c then
      if word.isEmpty then wordsFrom [] rest
      else String.ofList word.reverse :: wordsFrom [] rest
    else wordsFrom (c :: word) rest

def words (s : String) : List String := wordsFrom [] s.toList

/-- The pieces one after the other, with a separator between any two. -/
def joinWith (sep : String) : List String → String
  | [] => ""
  | [piece] => piece
  | piece :: next :: pieces => piece ++ sep ++ joinWith sep (next :: pieces)

/-- What holds of the separator and of all pieces, and of two texts one after the other, holds of what
the pieces make up. -/
theorem joinWith_induction {P : String → Prop} {sep : String} {pieces : List String} (hempty : P "")
    (hsep : P sep) (happend : ∀ s t, P s → P t → P (s ++ t)) (h : ∀ piece ∈ pieces, P piece) :
    P (joinWith sep pieces) := by
  induction pieces with
  | nil => exact hempty
  | cons piece pieces ih =>
    rw [List.forall_mem_cons] at h
    cases pieces with
    | nil => exact h.1
    | cons next pieces => exact happend _ _ (happend _ _ h.1 hsep) (ih h.2)

theorem joinWith_append_cons (sep s piece : String) (pieces : List String) :
    joinWith sep ((s ++ piece) :: pieces) = s ++ joinWith sep (piece :: pieces) := by
  cases pieces with
  | nil => rfl
  | cons next pieces => simp only [joinWith, String.append_assoc]

theorem joinWith_concat {sep piece : String} {pieces : List String} (h : pieces ≠ []) :
    joinWith sep (pieces ++ [piece]) = joinWith sep pieces ++ sep ++ piece := by
  induction pieces with
  | nil => exact absurd rfl h
  | cons first pieces ih =>
    cases pieces with
    | nil => rfl
    | cons next pieces =>
      have hnext := ih (List.cons_ne_nil next pieces)
      change first ++ sep ++ joinWith sep ((next :: pieces) ++ [piece]) =
        first ++ sep ++ joinWith sep (next :: pieces) ++ sep ++ piece
      rw [hnext]
      simp only [String.append_assoc]

theorem joinWith_splitChars (sep : Char) (cs : List Char) :
    joinWith sep.toString ((splitChars sep cs).map String.ofList) = String.ofList cs := by
  induction cs with
  | nil => rfl
  | cons c rest ih =>
    obtain ⟨piece, pieces, hrest, hcons⟩ := splitChars_cons sep c rest
    rw [hrest, List.map_cons] at ih
    rw [hcons]
    split
    · next hc =>
      -- a separator stands behind an empty first piece
      rw [List.map_cons, List.map_cons, joinWith, ih, hc]
      apply String.toList_inj.1
      simp
    · have hfirst : String.ofList (c :: piece) = String.ofList [c] ++ String.ofList piece := by
        rw [← String.ofList_append, List.singleton_append]
      rw [List.map_cons, hfirst, joinWith_append_cons, ih, ← String.ofList_append,
        List.singleton_append]

/-- The pieces of a text make it up again. -/
@[simp] theorem joinWith_splitOn (sep : Char) (s : String) :
    joinWith sep.toString (splitOn sep s) = s := by
  rw [splitOn, joinWith_splitChars, String.ofList_toList]

/-- Pieces without the separator come back when what they make up is split. -/
theorem splitOn_joinWith {sep : Char} {pieces : List String} (hne : pieces ≠ [])
    (h : ∀ piece ∈ pieces, sep ∉ piece.toList) :
    splitOn sep (joinWith sep.toString pieces) = pieces := by
  induction pieces with
  | nil => exact absurd rfl hne
  | cons piece pieces ih =>
    rw [List.forall_mem_cons] at h
    cases pieces with
    | nil => rw [joinWith, splitOn_eq_singleton h.1]
    | cons next pieces =>
      rw [joinWith, splitOn_append, splitOn_eq_singleton h.1, ih (List.cons_ne_nil next pieces) h.2,
        List.singleton_append]

def startsWith (s start : String) : Bool := start.toList.isPrefixOf s.toList

def dropStart? (start s : String) : Option String :=
  if startsWith s start then some (String.ofList (s.toList.drop start.length)) else none

def endsWith (s ending : String) : Bool := ending.toList.isSuffixOf s.toList

def hasChar (s : String) (c : Char) : Bool := s.toList.contains c

def asciiLower (s : String) : String := String.ofList (s.toList.map Char.toLower)

def compareText (a b : String) : Bool := decide (a ≤ b)

end WebDispatch.Text
