import WebDispatch.Configuration.Declaration

/-!
# Directives

A configuration is a list of directives: declarations, definitions of dotted names, and includes,
which are configurations of their own and may be carried out only once.
-/

namespace WebDispatch

mutual

inductive Directive where
  /-- Declares something; the site is given by the number of directives counted before. -/
  | declare (site : Nat → Site) (d : Declaration)
  /-- Declares something at a fixed place of the program; this directive is not counted. -/
  | declareAt (site : Site) (d : Declaration)
  /-- Gives a name to a thing of the program. -/
  | define (name : String) (d : Definition)
  /-- Carries out a configuration under a name, its routes below a further prefix. -/
  | inclusion (name : String) (body : IncludeBody) (routePrefix : Option String)
  /-- Carries out the configuration that a name stands for. -/
  | inclusionNamed (name : String) (routePrefix : Option String)
  /-- Carries out directives up to the first that fails, which is no failure here. -/
  | attempt (body : List Directive)

inductive IncludeBody where
  /-- What it reports about the package and the route prefix it is included with, and its
  directives. -/
  | mk (opening : Option String → Option String → Journal) (directives : List Directive)

/-- A thing of the program that a name may stand for. -/
inductive Definition where
  | inclusion (body : IncludeBody)
  | view (c : Callable)
  | tween (f : TweenFactory)
  | rootFactory (f : RootFactory)
  | renderer (f : RendererFactory)
  | subscriber (s : Subscriber)

end

instance : Inhabited Directive := ⟨.attempt []⟩

instance : Inhabited Definition := ⟨.inclusion (.mk (fun _ _ => []) [])⟩

namespace IncludeBody

/-- What it reports about the scope it is included with. -/
def opening : IncludeBody → Option String → Option String → Journal
  | mk opening _ => opening

def directives : IncludeBody → List Directive
  | mk _ directives => directives

end IncludeBody

namespace Definition

def kind : Definition → String
  | inclusion _ => "include"
  | view _ => "view"
  | tween _ => "tween factory"
  | rootFactory _ => "root factory"
  | renderer _ => "renderer factory"
  | subscriber _ => "subscriber"

def description (d : Definition) : String := "<Dotted " ++ d.kind ++ ">"

end Definition

def includeDescription (name : String) : String :=
  Text.openRecord "Include" [("name", Text.quoted name)]

def includeTargetDescription (name : String) : String :=
  "Include(" ++ includeDescription name ++ ")"

end WebDispatch
