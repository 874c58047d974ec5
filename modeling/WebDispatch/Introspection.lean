import WebDispatch.OrderedMap
import WebDispatch.Site
import WebDispatch.Value

/-!
# Introspection

A record of what has been configured, for those who want to look at it. Each thing is described
under a category and a discriminator; two descriptions may be related, in either order.

* `Introspector.add` — stores a description, in place of one under the same key;
* `Introspector.register` — stores it with its site and carries out its relations;
* `Introspector.remove` — removes a description and all relations of its key;
* `get?`, `category`, `related`, `listing` — what is stored.
-/

namespace WebDispatch

structure IntrospectionKey where
  category : String
  discriminator : String
deriving DecidableEq, Repr, Inhabited

/-- A change of a relation that is carried out on registration. -/
inductive RelationChange where
  | relate (other : IntrospectionKey)
  | unrelate (other : IntrospectionKey)
deriving DecidableEq, Repr

structure Introspectable where
  key : IntrospectionKey
  title : String
  typeName : String
  attributes : OrderedMap String Value := {}
  /-- Where the thing was declared. -/
  site : Option Site := none
  /-- How many descriptions were stored before this one. -/
  order : Nat := 0
  /-- Changes of relations that are still to be carried out. -/
  pending : List RelationChange := []
deriving Inhabited

namespace Introspectable

def of (category discriminator title typeName : String) : Introspectable :=
  { key := ⟨category, discriminator⟩, title := title, typeName := typeName }

def withAttribute (i : Introspectable) (name : String) (v : Value) : Introspectable :=
  { i with attributes := i.attributes.insert name v }

/-- Relates to another description, once stored. -/
def relate (i : Introspectable) (category discriminator : String) : Introspectable :=
  { i with pending := i.pending ++ [.relate ⟨category, discriminator⟩] }

def unrelate (i : Introspectable) (category discriminator : String) : Introspectable :=
  { i with pending := i.pending ++ [.unrelate ⟨category, discriminator⟩] }

end Introspectable

structure Introspector where
  categories : OrderedMap String (OrderedMap String Introspectable) := {}
  /-- For each key those related to it. -/
  relations : OrderedMap IntrospectionKey (List IntrospectionKey) := {}
  /-- How many descriptions have been stored so far. -/
  counter : Nat := 0
deriving Inhabited

namespace Introspector

/-- Stores a description, numbered in order of storing. -/
def add (s : Introspector) (i : Introspectable) : Introspector :=
  { s with
    categories := s.categories.alter i.key.category {} fun items =>
      items.insert i.key.discriminator { i with order := s.counter }
    counter := s.counter + 1 }

def addTarget (source target : IntrospectionKey) (s : Introspector) : Introspector :=
  { s with relations := s.relations.alter source [] fun targets =>
      if targets.contains target then targets else targets ++ [target] }

def dropTarget (source target : IntrospectionKey) (s : Introspector) : Introspector :=
  match s.relations.get? source with
  | some targets =>
    { s with relations := s.relations.insert source (targets.filter (· ≠ target)) }
  | none => s

/-- Carries out a change of a relation, in both directions. -/
def change (source : IntrospectionKey) (s : Introspector) : RelationChange → Introspector
  | .relate target => addTarget target source (addTarget source target s)
  | .unrelate target => dropTarget target source (dropTarget source target s)

/-- Stores a description with its site and carries out the changes it brings. -/
def register (s : Introspector) (i : Introspectable) (site : Option Site) : Introspector :=
  i.pending.foldl (change i.key) (s.add { i with site := site, pending := [] })

def get? (s : Introspector) (k : IntrospectionKey) : Option Introspectable :=
  (s.categories.get? k.category).bind (·.get? k.discriminator)

def compareOrder (i j : Introspectable) : Bool := decide (i.order ≤ j.order)

def category (s : Introspector) (name : String) : List Introspectable :=
  (((s.categories.get? name).getD {}).values).mergeSort compareOrder

def remove (s : Introspector) (k : IntrospectionKey) : Option Introspectable × Introspector :=
  match s.get? k with
  | none => (none, s)
  | some i =>
    (some i,
      { s with
        categories := s.categories.alter k.category {} (·.erase k.discriminator)
        relations := (s.relations.erase k).mapValues fun targets => targets.filter (· ≠ k) })

def related (s : Introspector) (k : IntrospectionKey) : List Introspectable :=
  ((s.relations.get? k).getD []).filterMap s.get?

/-- All stored descriptions by category, each with those related to it. -/
def listing (s : Introspector) : List (String × List (Introspectable × List Introspectable)) :=
  s.categories.keys.map fun name =>
    (name, (s.category name).map fun i => (i, s.related i.key))

end Introspector

end WebDispatch
