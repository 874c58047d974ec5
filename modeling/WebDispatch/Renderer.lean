import WebDispatch.Exchange

/-!
# Renderers

A renderer turns the value that a view returned into the body of the response. Views name their
renderers; the kind of the name, its file extension or else the name itself, tells which factory
makes the renderer.

* `RendererRequest.kind` — the kind of a name;
* `Renderer.json`, `Renderer.string` — the renderers that every application has.
-/

namespace WebDispatch

structure RendererRequest where
  name : String
  /-- The package of the configuration that declared the view. -/
  package : Option String := none
  /-- The name of the application. -/
  registry : String
deriving DecidableEq, Repr, Inhabited

/-- The last extension of a file name, with its dot. -/
def lastExtension? (file : List Char) : Option (List Char) :=
  let letters := file.reverse.takeWhile (· ≠ '.')
  if letters.length < file.length then some ('.' :: letters.reverse) else none

/-- The extension of a renderer name that has one in its last part, else the name itself. -/
def rendererKind (name : String) : String :=
  let file := (name.toList.reverse.takeWhile (· ≠ '/')).reverse
  match lastExtension? file with
  | some ext => String.ofList ext
  | none => name

namespace RendererRequest

def kind (r : RendererRequest) : String := rendererKind r.name

end RendererRequest

structure RenderSystem where
  rendererName : String
  viewName : String
  context : Option Resource
  /-- Values that subscribers may have changed. -/
  values : OrderedMap String Value
deriving Inhabited

/-- Turns a value into a body; the response in preparation may be changed on the way. -/
abbrev Renderer : Type := Value → RenderSystem → Effect Exchange String

abbrev RendererFactory : Type := RendererRequest → Effect Journal Renderer

namespace Renderer

def defaultType (type : String) : Effect Exchange Unit :=
  modify fun x => x.prepare fun r => r.defaultContentType type

/-- Writes values as compact text with all their structure. -/
def json : Renderer := fun v _ => do
  defaultType "application/json"
  return v.compact

/-- Writes a text as it is and other values like `json`. -/
def string : Renderer := fun v _ => do
  defaultType Http.Response.plainText
  return match v with
    | .text s => s
    | other => other.compact

def standard : List (String × RendererFactory) :=
  [("json", fun _ => pure json), ("string", fun _ => pure string)]

/-- The content type of a rendered response that sets none. -/
def defaultContentType : String := "text/html; charset=UTF-8"

end Renderer

end WebDispatch
