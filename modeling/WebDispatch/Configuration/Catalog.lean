import WebDispatch.Configuration.DottedName
import WebDispatch.Configuration.Directive

/-!
# Catalogs

What dotted names stand for. A configuration has its own definitions; behind them are those that
come with the program.

* `Catalog.define`, `Catalog.lookup?` — enters a definition, and finds one;
* `Catalog.resolve` — finds a definition of a kind by a name that may be relative.
-/

namespace WebDispatch

/-- Definitions by name. -/
structure Catalog where
  /-- Those of the configuration, by canonical name. -/
  entries : OrderedMap String Definition := {}
  /-- Those that come with the program, of which the first of a name counts. -/
  submitted : List (String × Definition) := []

/-- A kind of thing, with the way to get it from a definition. -/
structure DefinitionKind (α : Type) where
  name : String
  select : Definition → Option α

namespace DefinitionKind

def inclusion : DefinitionKind IncludeBody :=
  ⟨"include", fun | .inclusion b => some b | _ => none⟩

def view : DefinitionKind Callable := ⟨"view", fun | .view c => some c | _ => none⟩

def tween : DefinitionKind TweenFactory :=
  ⟨"tween factory", fun | .tween f => some f | _ => none⟩

def rootFactory : DefinitionKind RootFactory :=
  ⟨"root factory", fun | .rootFactory f => some f | _ => none⟩

def renderer : DefinitionKind RendererFactory :=
  ⟨"renderer factory", fun | .renderer f => some f | _ => none⟩

def subscriber : DefinitionKind Subscriber :=
  ⟨"subscriber", fun | .subscriber s => some s | _ => none⟩

end DefinitionKind

namespace Catalog

variable {α : Type}

def define (c : Catalog) (name : String) (d : Definition) : Catalog :=
  { c with entries := c.entries.insert (DottedName.canonical name) d }

/-- The definition of an absolute name. -/
def lookup? (c : Catalog) (name : String) : Option Definition :=
  let wanted := DottedName.canonical name
  c.entries.get? wanted
    <|> (c.submitted.find? fun e => DottedName.canonical e.1 = wanted).map (·.2)

def contains (c : Catalog) (name : String) : Bool := (c.lookup? name).isSome

/-- What a name stands for, which may be relative to a package. -/
def resolve (c : Catalog) (k : DefinitionKind α) (name : String) (package : Option String) :
    Except Error α := do
  let absolute ← DottedName.absolute name package
  match c.lookup? absolute with
  | none =>
    throw (.configuration ("The dotted name " ++ Text.quoted absolute ++ " cannot be resolved"))
  | some d =>
    match k.select d with
    | some a => return a
    | none =>
      throw (.configuration ("The dotted name " ++ Text.quoted absolute ++ " refers to a "
        ++ d.kind ++ ", not a " ++ k.name))

def resolveReference (c : Catalog) (k : DefinitionKind α) (package : Option String) :
    Reference α → Except Error α
  | .named name => c.resolve k name package
  | .value a => .ok a

end Catalog

end WebDispatch
