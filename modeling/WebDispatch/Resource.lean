import WebDispatch.Error
import WebDispatch.Path.MatchDict

/-!
# Resources

What views are registered for and what a request is resolved to. An application gives its
resources as trees; besides, there is the root used where none is configured, and the resource
that an exception view receives in place of the context.

* `Node` — a place in a tree: the tree there and those that enclose it, the nearest first;
* `Resource` — any of the three kinds;
* `lineage`, `root`, `pathSegments`, `path` — the way to the root and back;
* `provided`, `findInterface` — what a resource, or the nearest on the way to its root, provides.
-/

namespace WebDispatch

/-- A tree of an application's resources. -/
inductive Tree where
  /-- A resource of a type, found under a key, with the name it gives itself, further interfaces
  that it provides, and what lies below it. -/
  | mk (type : Interface) (key : String) (name : Option String) (interfaces : List Interface)
    (children : List Tree)
deriving Repr, Inhabited

namespace Tree

def type : Tree → Interface
  | mk type _ _ _ _ => type

def key : Tree → String
  | mk _ key _ _ _ => key

def name : Tree → Option String
  | mk _ _ name _ _ => name

/-- The interfaces it provides itself, which come before that of its type. -/
def interfaces : Tree → List Interface
  | mk _ _ _ interfaces _ => interfaces

def children : Tree → List Tree
  | mk _ _ _ _ children => children

def leaf (type : Interface) : Tree := mk type "" none [] []

end Tree

structure Node where
  tree : Tree
  /-- The enclosing trees, the nearest first. -/
  above : List Tree := []
deriving Repr, Inhabited

namespace Node

def parent? (n : Node) : Option Node :=
  match n.above with
  | [] => none
  | t :: rest => some ⟨t, rest⟩

def child? (n : Node) (key : String) : Option Node :=
  (n.tree.children.find? fun t => t.key = key).map fun t => ⟨t, n.tree :: n.above⟩

end Node

inductive Resource where
  | node (n : Node)
  /-- The root used where none is configured, with what the matched route captured. -/
  | defaultRoot (matchdict : Option MatchDict)
  /-- Stands for the context while an exception view runs. -/
  | failure (e : Error)
deriving Repr, Inhabited

namespace Resource

def ofTree (t : Tree) : Resource := node { tree := t }

def name : Resource → Option String
  | node n => n.tree.name
  | defaultRoot _ => some ""
  | failure _ => none

def parent? : Resource → Option Resource
  | node n => n.parent?.map node
  | defaultRoot _ | failure _ => none

def child? (r : Resource) (key : String) : Option Resource :=
  match r with
  | node n => (n.child? key).map node
  | defaultRoot _ | failure _ => none

/-- All that a resource provides, the most specific first. -/
def provided : Resource → List Interface
  | node n => n.tree.interfaces ++ [n.tree.type, Interface.any]
  | defaultRoot _ => [Interface.defaultRoot, Interface.any]
  | failure e => e.provided

def provides (r : Resource) (i : Interface) : Bool := r.provided.contains i

/-- A tree and the trees around it as places, the nearest first. -/
def places (t : Tree) : List Tree → List Resource
  | [] => [node ⟨t, []⟩]
  | p :: rest => node ⟨t, p :: rest⟩ :: places p rest

/-- A resource and all that enclose it, the nearest first. -/
def lineage : Resource → List Resource
  | node n => places n.tree n.above
  | r => [r]

def findInterface? (r : Resource) (i : Interface) : Option Resource :=
  r.lineage.find? fun s => s.provides i

def root (r : Resource) : Resource := r.lineage.getLast?.getD r

/-- The names from below the root down to a resource. -/
def pathSegments (r : Resource) : List String :=
  ((r.lineage.filter fun s => s.parent?.isSome).map fun s => s.name.getD "").reverse

def path (r : Resource) : String := "/" ++ Text.joinWith "/" r.pathSegments

def descend (r : Resource) : List String → Except String Resource
  | [] => .ok r
  | key :: rest =>
    match r.child? key with
    | some c => descend c rest
    | none => .error key

def kind : Resource → String
  | node n => n.tree.type.shortName
  | defaultRoot _ => "DefaultRoot"
  | failure _ => "Exception"

/-- A resource as text: its kind and its path. -/
def label (r : Resource) : String := r.kind ++ ":" ++ r.path

end Resource

end WebDispatch
