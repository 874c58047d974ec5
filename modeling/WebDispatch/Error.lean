import WebDispatch.Http.Response
import WebDispatch.Interface
import WebDispatch.OrderedMap
import WebDispatch.Site
import WebDispatch.Text.Quoted

/-!
# Errors

Everything that can go wrong while an application is configured or while it answers a request,
by its cause.

* `Error.kind`, `Error.message` — the kind in a word, and the wording;
* `Error.description` — the cause with what it carries, for debugging;
* `Error.provided` — the interfaces under which exception views are looked up, the most specific
  first;
* `Error.response` — the plain answer where no exception view gives another.
-/

namespace WebDispatch

open WebDispatch.Http (Response)

inductive Error where
  /-- A declaration that cannot be right. -/
  | configuration (text : String)
  /-- Declarations of one thing of which none overrides the others; the sites by discriminator. -/
  | conflict (sites : OrderedMap String (List Site))
  /-- Tweens that cannot be ordered: the nodes that are left, with what each sorts before. -/
  | cycle (successors : OrderedMap String (List String))
  /-- An action that failed when it was carried out. -/
  | execution (site : Site) (cause : Error)
  /-- No resource or view for the request. -/
  | notFound (text : String)
  /-- The predicates of a view refused the request. -/
  | predicateMismatch (text : String)
  /-- Access was denied. -/
  | forbidden (text : String)
  /-- A view returned what cannot become a response. -/
  | invalidResponse (text : String)
  /-- An error of the application, of a type of its own. -/
  | application (type : Interface) (text : String)
  /-- Anything else. -/
  | internal (text : String)
deriving Repr, Inhabited, DecidableEq

namespace Error

/-- The discriminators in conflict, each with its sites on lines of their own. -/
def conflictText (sites : OrderedMap String (List Site)) : String :=
  "Conflicting configuration actions"
    ++ String.join (sites.toList.map fun (discriminator, infos) =>
      "\n  For: " ++ discriminator ++ String.join (infos.map fun s => "\n    " ++ s.text))

def cycleText (successors : OrderedMap String (List String)) : String :=
  "Implicit ordering cycle: "
    ++ Text.joinWith "; " (successors.toList.map fun (node, next) =>
      Text.quoted node ++ " sorts before " ++ Text.quotedList next)

def kind : Error → String
  | configuration _ => "Configuration"
  | conflict _ => "Conflict"
  | cycle _ => "CyclicDependency"
  | execution _ _ => "ConfigurationExecution"
  | notFound _ => "NotFound"
  | predicateMismatch _ => "PredicateMismatch"
  | forbidden _ => "Forbidden"
  | invalidResponse _ => "InvalidViewResponse"
  | application _ _ => "Application"
  | internal _ => "Internal"

def message : Error → String
  | configuration text => "Configuration error: " ++ text
  | conflict sites => conflictText sites
  | cycle successors => cycleText successors
  | execution site cause =>
    "Error executing configuration action at " ++ site.text ++ ": " ++ cause.message
  | notFound text => "Not found: " ++ text
  | predicateMismatch text => "Predicate mismatch: " ++ text
  | forbidden text => "Forbidden: " ++ text
  | invalidResponse text => "Invalid view response: " ++ text
  | application _ text => text
  | internal text => "Internal error: " ++ text

def description : Error → String
  | configuration text => "Configuration(" ++ Text.quoted text ++ ")"
  | conflict sites =>
    "Conflict(" ++ Text.record "ConflictError" [("conflicts", Text.mapping
      (sites.toList.map fun (k, infos) =>
        (Text.quoted k, Text.listed (infos.map Site.description))))] ++ ")"
  | cycle successors =>
    "CyclicDependency(" ++ Text.record "CyclicDependencyError" [("cycles", Text.mapping
      (successors.toList.map fun (node, next) =>
        (Text.quoted node, Text.quotedList next)))] ++ ")"
  | execution site cause =>
    Text.record "ConfigurationExecution"
      [("info", site.description), ("source", cause.description)]
  | notFound text => "NotFound(" ++ Text.quoted text ++ ")"
  | predicateMismatch text => "PredicateMismatch(" ++ Text.quoted text ++ ")"
  | forbidden text => Text.record "Forbidden" [("message", Text.quoted text)]
  | invalidResponse text => "InvalidViewResponse(" ++ Text.quoted text ++ ")"
  | application type text =>
    "Application(" ++ Text.record "ApplicationError"
      [("interface", type.description),
       ("inner", type.shortName ++ "(" ++ Text.quoted text ++ ")")] ++ ")"
  | internal text => "Internal(" ++ Text.quoted text ++ ")"

/-- The interfaces that an error provides besides those of all errors. -/
def ownInterfaces : Error → List Interface
  | predicateMismatch _ =>
    [Interface.predicateMismatch, Interface.notFound, Interface.httpException]
  | notFound _ => [Interface.notFound, Interface.httpException]
  | forbidden _ => [Interface.forbidden, Interface.httpException]
  | configuration _ | conflict _ | cycle _ | execution _ _ => [Interface.configurationError]
  | application type _ => [type]
  | invalidResponse _ | internal _ => []

/-- The interfaces that an error provides, the most specific first. -/
def provided (e : Error) : List Interface :=
  e.ownInterfaces ++ [Interface.exception, Interface.any]

def isNotFound : Error → Bool
  | notFound _ | predicateMismatch _ => true
  | _ => false

def isMismatch : Error → Bool
  | predicateMismatch _ => true
  | _ => false

def status : Error → Nat
  | notFound _ | predicateMismatch _ => 404
  | forbidden _ => 403
  | _ => 500

def response (e : Error) : Response :=
  let body := match Http.reason? e.status with
    | some reason => toString e.status ++ " " ++ reason ++ "\n\n" ++ e.message
    | none => e.message
  ((Response.ofStatus e.status).setContentType Response.plainText).setText body

end Error

end WebDispatch
