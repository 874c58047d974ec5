import WebDispatch.Renderer
import WebDispatch.Scripted.Callback

/-!
# Scripted renderers

Renderer factories that note what they are asked for, and then make a renderer that shows all it
gets, make one that fails, or make none.
-/

namespace WebDispatch.Scripted

inductive RendererScript where
  /-- A renderer that shows the value and all that it gets besides. -/
  | show
  /-- A renderer that fails. -/
  | fail
  /-- No renderer: the factory itself fails. -/
  | refuse
deriving DecidableEq, Repr

def showAll : Renderer := fun v system => do
  let x ← get
  return (Value.object [
    ("value", v),
    ("renderer_name", .text system.rendererName),
    ("view_name", .text system.viewName),
    ("context", .ofText? (system.context.map Resource.label)),
    ("path", .text x.toRequest.pathInfo),
    ("values", .array (system.values.toList.map fun (k, v) => .array [.text k, v]))]).compact

def creationNote (factory : String) (wanted : RendererRequest) : String :=
  "create " ++ factory ++ " for " ++ wanted.name ++ " package " ++ wanted.package.getD "-"
    ++ " registry " ++ wanted.registry

def RendererScript.factory (s : RendererScript) (name : String) : RendererFactory := fun wanted => do
  Effect.report (.note (creationNote name wanted))
  match s with
  | .show => return showAll
  | .fail => return fun v _ => throw (.invalidResponse ("cannot render " ++ v.compact))
  | .refuse => throw (.configuration ("refused " ++ wanted.name))

end WebDispatch.Scripted
