import WebDispatch.Text.CaseMap

/-!
# Sets of characters

A set of characters is a list of ranges of code points in ascending order that neither overlap
nor touch.

* `CharSet.ofRanges` — brings any ranges into that form;
* `union`, `complement`, `inter`, `diff`, `symmDiff` — the operations of bracket expressions;
* `foldCase` — with every character all that differ from it in case only.
-/

namespace WebDispatch.Regex

/-- Ranges of code points, both ends included. -/
structure CharSet where
  ranges : List (Nat × Nat)
deriving DecidableEq, Repr, Inhabited

namespace CharSet

def lastCode : Nat := 0x10FFFF

/-- Joins neighbouring ranges of an ascending list; `lo` and `hi` are the range being built. -/
def joinFrom (lo hi : Nat) : List (Nat × Nat) → List (Nat × Nat)
  | [] => [(lo, hi)]
  | (a, b) :: rest =>
    if a ≤ hi + 1 then joinFrom lo (max hi b) rest else (lo, hi) :: joinFrom a b rest

def ofRanges (rs : List (Nat × Nat)) : CharSet :=
  match (rs.filter fun r => r.1 ≤ r.2).mergeSort (fun a b => a.1 ≤ b.1) with
  | [] => ⟨[]⟩
  | (lo, hi) :: rest => ⟨joinFrom lo hi rest⟩

def single (c : Char) : CharSet := ⟨[(c.toNat, c.toNat)]⟩

def all : CharSet := ⟨[(0, lastCode)]⟩

def contains (s : CharSet) (c : Char) : Bool :=
  s.ranges.any fun r => r.1 ≤ c.toNat && c.toNat ≤ r.2

def union (s t : CharSet) : CharSet := ofRanges (s.ranges ++ t.ranges)

/-- The gaps of an ascending list of ranges from some code point on. -/
def gapsFrom (start : Nat) : List (Nat × Nat) → List (Nat × Nat)
  | [] => if start ≤ lastCode then [(start, lastCode)] else []
  | (a, b) :: rest => (if start < a then [(start, a - 1)] else []) ++ gapsFrom (b + 1) rest

def complement (s : CharSet) : CharSet := ⟨gapsFrom 0 s.ranges⟩

def inter (s t : CharSet) : CharSet :=
  ofRanges (s.ranges.flatMap fun r => t.ranges.map fun q => (max r.1 q.1, min r.2 q.2))

def diff (s t : CharSet) : CharSet := s.inter t.complement

def symmDiff (s t : CharSet) : CharSet := (s.diff t).union (t.diff s)

def foldCase (s : CharSet) : CharSet :=
  let holds (n : Nat) : Bool := s.ranges.any fun r => r.1 ≤ n && n ≤ r.2
  let pairs := Text.casePairs.filterMap fun (a, b) =>
    if holds a then some (b, b) else if holds b then some (a, a) else none
  let groups := (Text.foldGroups.filter (·.any holds)).flatMap fun g => g.map fun n => (n, n)
  ofRanges (s.ranges ++ pairs ++ groups)

end CharSet

end WebDispatch.Regex
