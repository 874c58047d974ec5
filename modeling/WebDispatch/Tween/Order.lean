import WebDispatch.Error

/-!
# The order of tweens

Tweens stand between the outside, the ingress, and the application itself, the main handler. Each
may be placed under others, nearer to the application, and over others. A list of others is a
list of alternatives: what names nothing present is passed over, but one of them must be present.

* `TweenOrder.place` — adds a tween with its placement;
* `TweenOrder.resolve` — the names from the outside in, or why there is no order.

The order is found by taking away nodes that nothing left stands before. Nodes that become free
go to the front of those that wait, so that of tweens without placement the last added is the
outermost.
-/

namespace WebDispatch

/-- A placement: its two ends, the outer one first. -/
structure TweenEdge where
  outer : String
  inner : String
deriving DecidableEq, Repr, Inhabited

/-- Tweens by name and alias, and their placements. -/
structure TweenOrder where
  /-- The names as they were added. -/
  names : List String := []
  aliasOfName : OrderedMap String String := {}
  nameOfAlias : OrderedMap String String := {}
  edges : List TweenEdge := []
  /-- The aliases of tweens placed over others. -/
  placedOver : List String := []
  /-- The aliases of tweens placed under others. -/
  placedUnder : List String := []
deriving Repr, Inhabited

namespace TweenOrder

/-- The outside. -/
def ingress : String := "INGRESS"

/-- The application itself. -/
def mainHandler : String := "MAIN"

def addOnce (names : List String) (n : String) : List String :=
  if names.contains n then names else names ++ [n]

/-- Adds a tween. One that is placed nowhere is under the ingress. -/
def place (t : TweenOrder) (name : String) (knownAs : Option String)
    (below above : Option (List String)) : TweenOrder :=
  let node := knownAs.getD name
  let below := if below.isNone && above.isNone then some [ingress] else below
  { names := t.names ++ [name]
    aliasOfName := t.aliasOfName.insert name node
    nameOfAlias := t.nameOfAlias.insert node name
    edges := t.edges ++ (below.getD []).map (fun u => ⟨u, node⟩)
      ++ (above.getD []).map (fun o => ⟨node, o⟩)
    placedOver := if above.isSome then addOnce t.placedOver node else t.placedOver
    placedUnder := if below.isSome then addOnce t.placedUnder node else t.placedUnder }

/-- What is present: the two ends, and the tweens by their aliases. -/
def nodes (t : TweenOrder) : List String :=
  (t.names.filterMap t.aliasOfName.get?).foldl addOnce [ingress, mainHandler]

def node? (t : TweenOrder) (n : String) : Option String :=
  if t.nodes.contains n then some n
  else (t.aliasOfName.get? n).filter t.nodes.contains

def presentEdge? (t : TweenOrder) (e : TweenEdge) : Option TweenEdge :=
  match t.node? e.outer, t.node? e.inner with
  | some a, some b => some ⟨a, b⟩
  | _, _ => none

/-- The placements between nodes; the application is inside the ingress. -/
def presentEdges (t : TweenOrder) : List TweenEdge :=
  ⟨ingress, mainHandler⟩ :: t.edges.filterMap t.presentEdge?

/-- Tweens placed over others, of which none is present. -/
def missingOver (t : TweenOrder) : List String :=
  t.placedOver.filter fun n => !t.presentEdges.any fun e => e.outer = n

def missingUnder (t : TweenOrder) : List String :=
  t.placedUnder.filter fun n => !t.presentEdges.any fun e => e.inner = n

/-- The nodes directly inside a node, once for each placement. -/
def successors (edges : List TweenEdge) (n : String) : List String :=
  (edges.filter fun e => e.outer = n).map TweenEdge.inner

def arcs (edges : List TweenEdge) (n : String) : Nat :=
  (edges.filter fun e => e.inner = n).length

/-- What is left of a graph: nodes with the number of placements that hold them back, and the
free nodes that wait. -/
structure Sorting where
  held : OrderedMap String Nat
  waiting : List String
deriving Repr, Inhabited

/-- Takes one placement away from a node, which goes to the front of those that wait when
nothing holds it back any more. -/
def release (s : Sorting) (n : String) : Sorting :=
  match s.held.get? n with
  | none => s
  | some k =>
    { held := s.held.insert n (k - 1)
      waiting := if k - 1 = 0 then n :: s.waiting else s.waiting }

/-- Takes the nodes that wait out of the graph, at most `fuel` of them: the nodes in order and
those that are left. -/
def sortNodes (edges : List TweenEdge) : Nat → Sorting → List String × OrderedMap String Nat
  | 0, s => ([], s.held)
  | fuel + 1, s =>
    match s.waiting with
    | [] => ([], s.held)
    | n :: rest =>
      let next :=
        if s.held.contains n then
          (successors edges n).foldl release ⟨s.held.erase n, rest⟩
        else ⟨s.held, rest⟩
      let (sorted, left) := sortNodes edges fuel next
      (n :: sorted, left)

/-- The nodes in order, and those that cannot be ordered. -/
def sorted (t : TweenOrder) : List String × OrderedMap String Nat :=
  let edges := t.presentEdges
  let free := t.nodes.filter fun n => arcs edges n = 0
  sortNodes edges t.nodes.length
    ⟨.ofList (t.nodes.map fun n => (n, arcs edges n)), free⟩

def nameAt (t : TweenOrder) (node : String) : String := (t.nameOfAlias.get? node).getD node

/-- A failure that names tweens in alphabetical order. -/
def unplaced (side : String) (nodes : List String) : Error :=
  .configuration ("Detected tweens with no satisfied " ++ side ++ " dependencies: "
    ++ Text.joinWith ", " (nodes.mergeSort Text.compareText))

/-- The names of the tweens from the outside in. -/
def resolve (t : TweenOrder) : Except Error (List String) :=
  if !t.missingOver.isEmpty then .error (unplaced "over" t.missingOver)
  else if !t.missingUnder.isEmpty then .error (unplaced "under" t.missingUnder)
  else
    let (order, left) := t.sorted
    if left.toList.isEmpty then .ok ((order.map t.nameAt).filter t.names.contains)
    else .error (.cycle (.ofList (left.keys.map fun n => (n, successors t.presentEdges n))))

end TweenOrder

end WebDispatch
