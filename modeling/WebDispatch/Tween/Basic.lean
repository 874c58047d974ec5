import WebDispatch.Handling
import WebDispatch.Tween.Order

/-!
# Tweens

A tween stands around a handler: it sees the request before and the response after it. The tweens
of an application are in the order that the settings name, or else in the one that their
placements give.

* `Tweens.add`, `Tweens.addExplicit` — adds a tween by its placement, or at the end of the named
  order;
* `Tweens.resolved` — the order that is in effect;
* `Tweens.wrap` — a handler with all tweens around it.
-/

namespace WebDispatch

/-- Puts a tween around a handler, for the application of a name. -/
abbrev TweenFactory : Type := String → Handler → StateM Journal Handler

structure Tweens where
  /-- The order that the settings name, from the outside in. -/
  explicit : List (String × TweenFactory) := []
  order : TweenOrder := {}
  /-- The tweens that are placed, by name. -/
  factories : OrderedMap String TweenFactory := {}
deriving Inhabited

namespace Tweens

/-- Adds a tween at the end of the named order. -/
def addExplicit (t : Tweens) (name : String) (factory : TweenFactory) : Tweens :=
  { t with explicit := t.explicit ++ [(name, factory)] }

def add (t : Tweens) (name : String) (factory : TweenFactory) (knownAs : Option String)
    (below above : Option (List String)) : Tweens :=
  { t with
    order := t.order.place name knownAs below above
    factories := t.factories.insert name factory }

/-- The tweens in the order that their placements give, from the outside in. -/
def implicit (t : Tweens) : Except Error (List (String × TweenFactory)) :=
  t.order.resolve.map fun names =>
    names.filterMap fun n => (t.factories.get? n).map fun f => (n, f)

/-- The tweens in the order in effect, from the outside in. -/
def resolved (t : Tweens) : Except Error (List (String × TweenFactory)) :=
  if t.explicit.isEmpty then t.implicit else .ok t.explicit

/-- Puts tweens around a handler, the last of them first. -/
def wrapAll (registry : String) (core : Handler) :
    List (String × TweenFactory) → StateM Journal Handler
  | [] => pure core
  | (_, factory) :: rest => do
    let inner ← wrapAll registry core rest
    modify (· ++ [.diagnostic .debug "cornice::tweens" "wrapping handler"])
    factory registry inner

def wrap (t : Tweens) (registry : String) (core : Handler) : Effect Journal Handler := do
  let order ← Effect.ofExcept t.resolved
  wrapAll registry core order

end Tweens

end WebDispatch
