import WebDispatch.Regex.CharSet

/-!
# Regular expressions

Expressions over characters with captured groups, and how they match. Matching prefers, at every
choice, the branch written first and the longer of two greedy repetitions (the shorter of two lazy
ones): the first match in this order is the one reported.

* `Regex` — the expressions;
* `Regex.ends` — from a place in a text, the places where a match can end, best first, each once;
* `Regex.search?` — the match that begins earliest, and of those the preferred one;
* `Regex.isMatch` — whether there is a match anywhere.

A place is listed once, for the best way to reach it: what follows depends on the place alone, so
a second way could only lead to what the first has tried already. This bounds every list of ends
by the length of the text.
-/

namespace WebDispatch.Regex

/-- Conditions on a place in the text that consume nothing. -/
inductive Look where
  | textStart
  | textEnd
  | lineStart (crlf : Bool)
  | lineEnd (crlf : Bool)
  | wordBoundary (ascii : Bool)
  | notWordBoundary (ascii : Bool)
  | wordStart (ascii : Bool)
  | wordEnd (ascii : Bool)
  | wordStartHalf (ascii : Bool)
  | wordEndHalf (ascii : Bool)
deriving DecidableEq, Repr, Inhabited

end WebDispatch.Regex

namespace WebDispatch

open Regex (CharSet Look)

inductive Regex where
  | empty
  | chars (set : CharSet)
  | look (condition : Look)
  | seq (first second : Regex)
  | either (first second : Regex)
  | group (index : Nat) (name : Option String) (body : Regex)
  /-- At least `least` and, if given, at most `most` repetitions. -/
  | loop (least : Nat) (most : Option Nat) (greedy : Bool) (body : Regex)
deriving Repr, Inhabited

namespace Regex

/-- A place in a text, reached with some captured groups. -/
structure Place where
  /-- The number of characters before it. -/
  pos : Nat
  /-- The character before it. -/
  before : Option Char
  /-- The characters behind it. -/
  rest : List Char
  /-- The texts of the groups passed, the latest capture of a group first. -/
  captures : List (Nat × List Char)
deriving Repr, Inhabited

namespace Place

def start (cs : List Char) : Place := ⟨0, none, cs, []⟩

def next? (p : Place) : Option Place :=
  match p.rest with
  | [] => none
  | c :: rest => some { p with pos := p.pos + 1, before := some c, rest := rest }

def isWord (ascii : Bool) (c : Option Char) : Bool :=
  match c with
  | none => false
  | some c => if ascii then c.isAlphanum || c = '_' else Text.isWordChar c

def satisfies (p : Place) : Look → Bool
  | .textStart => p.before.isNone
  | .textEnd => p.rest.isEmpty
  | .lineStart crlf =>
    p.before.isNone || p.before = some '\n'
      || (crlf && p.before = some '\r' && p.rest.head? ≠ some '\n')
  | .lineEnd crlf =>
    p.rest.isEmpty
      || (if crlf then p.rest.head? = some '\r' || (p.rest.head? = some '\n' && p.before ≠ some '\r')
          else p.rest.head? = some '\n')
  | .wordBoundary a => isWord a p.before != isWord a p.rest.head?
  | .notWordBoundary a => isWord a p.before == isWord a p.rest.head?
  | .wordStart a => !isWord a p.before && isWord a p.rest.head?
  | .wordEnd a => isWord a p.before && !isWord a p.rest.head?
  | .wordStartHalf a => !isWord a p.before
  | .wordEndHalf a => !isWord a p.rest.head?

end Place

/-- Keeps the first of all places at one position. -/
def distinct : List Place → List Place
  | [] => []
  | p :: rest => p :: (distinct rest).filter fun q => q.pos ≠ p.pos

def times (step : Place → List Place) : Nat → Place → List Place
  | 0, p => [p]
  | n + 1, p => distinct ((step p).flatMap (times step n))

/-- At most `n` repetitions of a step, more before fewer if greedy. -/
def upTo (step : Place → List Place) (greedy : Bool) : Nat → Place → List Place
  | 0, p => [p]
  | n + 1, p =>
    let more := (step p).flatMap (upTo step greedy n)
    distinct (if greedy then more ++ [p] else p :: more)

/-- How far an unbounded repetition has got. -/
structure Loop where
  /-- Positions from which a repetition has been begun. -/
  entered : List Nat := []
  /-- Positions at which a repetition has ended. -/
  passed : List Nat := []
  /-- The ends found so far, the latest first. -/
  found : List Place := []

def Loop.find (l : Loop) (p : Place) : Loop := { l with found := p :: l.found }

/-- One or more repetitions of a step. Every position is entered once, so nesting stays within
the length of the text. -/
def oneOrMore (step : Place → List Place) (greedy : Bool) : Nat → Place → Loop → Loop
  | 0, _, l => l
  | fuel + 1, p, l =>
    if l.entered.contains p.pos then l
    else
      (step p).foldl (fun l q =>
          if l.passed.contains q.pos then l
          else
            let l := { l with passed := q.pos :: l.passed }
            if greedy then (oneOrMore step greedy fuel q l).find q
            else oneOrMore step greedy fuel q (l.find q))
        { l with entered := p.pos :: l.entered }

def oneOrMoreEnds (step : Place → List Place) (greedy : Bool) (p : Place) : List Place :=
  (oneOrMore step greedy (p.rest.length + 2) p {}).found.reverse

/-- The ends of a repetition, best first. -/
def loopEnds (step : Place → List Place) (least : Nat) (most : Option Nat) (greedy : Bool)
    (p : Place) : List Place :=
  match most, least with
  | some n, _ => distinct ((times step least p).flatMap (upTo step greedy (n - least)))
  | none, 0 =>
    distinct (if greedy then oneOrMoreEnds step greedy p ++ [p]
      else p :: oneOrMoreEnds step greedy p)
  | none, n + 1 => distinct ((times step n p).flatMap (oneOrMoreEnds step greedy))

/-- The places where a match that begins at `p` can end, best first, each once. -/
def ends : Regex → Place → List Place
  | .empty, p => [p]
  | .chars set, p =>
    match p.rest with
    | [] => []
    | c :: rest =>
      if set.contains c then [{ p with pos := p.pos + 1, before := some c, rest := rest }] else []
  | .look condition, p => if p.satisfies condition then [p] else []
  | .seq a b, p => distinct ((ends a p).flatMap (ends b))
  | .either a b, p => distinct (ends a p ++ ends b p)
  | .group index _ body, p =>
    (ends body p).map fun q =>
      { q with captures := (index, p.rest.take (q.pos - p.pos)) :: q.captures }
  | .loop least most greedy body, p => loopEnds (ends body) least most greedy p

/-- The preferred match among those that begin at the first place where one begins; `n` places
are left to try. -/
def searchFrom (r : Regex) : Nat → Place → Option Place
  | 0, p => (ends r p).head?
  | n + 1, p =>
    match ends r p with
    | q :: _ => some q
    | [] => p.next?.bind (searchFrom r n)

def search? (r : Regex) (s : String) : Option Place :=
  searchFrom r s.toList.length (Place.start s.toList)

def isMatch (r : Regex) (s : String) : Bool := (search? r s).isSome

def groupNames : Regex → List (Nat × String)
  | .empty | .chars _ | .look _ => []
  | .seq a b | .either a b => groupNames a ++ groupNames b
  | .group index name body => (name.map fun n => (index, n)).toList ++ groupNames body
  | .loop _ _ _ body => groupNames body

/-- The text that a group captured last. -/
def Place.captured? (p : Place) (index : Nat) : Option String :=
  (p.captures.find? fun c => c.1 = index).map fun c => String.ofList c.2

end Regex

end WebDispatch
