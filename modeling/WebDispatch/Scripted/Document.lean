import WebDispatch.Predicate.Options
import WebDispatch.Scripted.Condition
import WebDispatch.Scripted.Policy
import WebDispatch.Scripted.Renderer
import WebDispatch.Scripted.Subscriber
import WebDispatch.Scripted.Tween
import WebDispatch.Scripted.View

/-!
# Scripts as documents

Reads scripted parts and the data they are made of from structured values, so that applications
can be written down as text. A member that is absent leaves the usual value.

* `Vocabulary` — what the names in a document stand for;
* `Vocabulary.error`, `tree`, `context`, `predicateOptions` — data;
* `Vocabulary.callable`, `rawView`, `subscriber`, `tween` — scripted parts.
-/

namespace WebDispatch.Scripted

open WebDispatch.Http (Response)

/-- What a document may name besides the interfaces of the library. -/
structure Vocabulary where
  /-- The interface of a type of the program. -/
  typed : String → Interface
  /-- The type of the resources of trees. -/
  resource : String
  /-- The type of a resource that has neither name nor children. -/
  bare : String
  /-- The types of errors. -/
  errors : List String

def matchDict (v : Value) : MatchDict :=
  .ofList (v.asList.map fun p =>
    ((p.item 0).asText, match p.item 1 with
      | .array items => .segments (items.map Value.asText)
      | other => .text other.asText))

def sourceSite (v : Value) : Site :=
  .source (v.item 0).asText ((v.item 1).asNat?.getD 0) ((v.item 2).asNat?.getD 0)

/-- A status code; what is none counts as 200. -/
def statusCode (v : Value) : Nat := (v.asNat?.filter fun n => 100 ≤ n && n ≤ 999).getD 200

def response (v : Value) : Response :=
  let r := Response.ofStatus (((v.get? "status").map statusCode).getD 200)
  ((v.pairs "headers").foldl (fun r (name, value) => r.setField name value) r).setText (v.str "body")

def exchange (v : Value) : Except Error Exchange := do
  let r ← match v.str? "blank" with
    | some path => pure (Request.blank path)
    | none =>
      Request.build ((v.str? "method").getD "GET") ((v.str? "uri").getD "/") (v.pairs "headers")
        (v.str "body")
  let routeType (t : Value) : RequestType := .ofRoute (t.str "route") (t.flag "global")
  let r := { r with
    matchdict := (v.get? "matchdict").map matchDict
    type := ((v.get? "route_type").map routeType).getD r.type
    subpath := v.strs "subpath"
    renderer := v.str? "override_renderer"
    viewName := v.str "view_name" }
  return (v.strs "finished").foldl (fun x label => addFinished label x) { toRequest := r }

def accessRules (v : Value) (name : String) : List AccessRule :=
  (v.list name).map fun rule => ⟨(rule.item 0).asText, (rule.item 1).asText, (rule.item 2).asText?⟩

def rendererFactory (name : String) : RendererFactory :=
  match name with
  | "json" => fun _ => pure Renderer.json
  | "string" => fun _ => pure Renderer.string
  | "refusing" => RendererScript.refuse.factory name
  | "failing" => RendererScript.fail.factory name
  | _ => RendererScript.show.factory name

def eventKind (name : String) : EventKind :=
  match name with
  | "ContextFound" => .contextFound
  | "NewResponse" => .newResponse
  | "ApplicationCreated" => .applicationCreated
  | "BeforeRender" => .beforeRender
  | _ => .newRequest

/-- An instruction, the only member of an object. -/
def instruction? (v : Value) : Option Instruction :=
  let text (name : String) (make : String → Instruction) : Option Instruction :=
    (v.get? name).map fun a => make a.asText
  let pair (name : String) (make : String → Value → Instruction) : Option Instruction :=
    (v.get? name).map fun a => make (a.item 0).asText (a.item 1)
  text "log" .note
  <|> (v.get? "set_status").map (fun a => .setStatus (statusCode a))
  <|> pair "set_header" (fun name value => .setField name value.asText)
  <|> text "set_content_type" .setContentType
  <|> text "response_callback" .onResponse
  <|> text "finished" .onFinished
  <|> text "override_renderer" .chooseRenderer
  <|> pair "session_set" .remember
  <|> text "session_remove" .forget
  <|> (v.get? "session_invalidate").map (fun _ => .forgetAll)
  <|> pair "render" (fun name secure => .render name secure.isTrue)
  <|> pair "render_body" (fun name secure => .renderBody name secure.isTrue)

namespace Vocabulary

variable (voc : Vocabulary)

def builtinNames : List String :=
  ["IRequest", "IException", "IHttpException", "INotFound", "IForbidden", "IPredicateMismatch",
    "IConfigurationError"]

def interface (name : String) : Interface :=
  if name = "any" then .any
  else if builtinNames.contains name then .builtin name
  else if name = "DefaultRoot" then .defaultRoot
  else if name = voc.resource || voc.errors.contains name then voc.typed name
  else ((Text.dropStart? "route:" name).map Interface.ofRoute).getD (.named name)

def interface? (v : Value) (name : String) : Option Interface := (v.str? name).map voc.interface

def interfaces (v : Value) (name : String) : List Interface := (v.strs name).map voc.interface

def errorWithin : Nat → Value → Error
  | 0, _ => .internal ""
  | fuel + 1, v =>
    let message := v.str "message"
    match v.str "kind" with
    | "Configuration" => .configuration message
    | "NotFound" => .notFound message
    | "PredicateMismatch" => .predicateMismatch message
    | "Forbidden" => .forbidden message
    | "InvalidViewResponse" => .invalidResponse message
    | "Conflict" =>
      .conflict (.ofList ((v.list "conflicts").map fun c =>
        ((c.item 0).asText, (c.item 1).asList.map sourceSite)))
    | "CyclicDependency" =>
      .cycle (.ofList ((v.list "cycles").map fun c => ((c.item 0).asText, (c.item 1).asTexts)))
    | "ConfigurationExecution" =>
      .execution (sourceSite (v.get "info")) (errorWithin fuel (v.get "source"))
    | kind =>
      if voc.errors.contains kind then .application (voc.typed kind) message
      else .internal message

def error (v : Value) : Error := voc.errorWithin (v.depth + 1) v

def error? (v : Value) : Option Error := (v.get? "error").map voc.error

/-- A tree of resources, read at most so many levels deep. -/
def treeWithin : Nat → Value → Tree
  | 0, _ => .leaf (voc.typed voc.resource)
  | fuel + 1, v =>
    .mk (voc.typed voc.resource) (v.str "key")
      (if v.has "name" then v.str? "name" else some (v.str "key"))
      (voc.interfaces v "ifaces") ((v.list "children").map (treeWithin fuel))

def tree (v : Value) : Tree := voc.treeWithin (v.depth + 1) v

def context (v : Value) : Resource :=
  match v with
  | .null => .defaultRoot none
  | .text _ => .ofTree (.leaf (voc.typed voc.bare))
  | _ => ((voc.error? v).map Resource.failure).getD (.ofTree (voc.tree v))

def rootFactory (v : Value) : RootFactory :=
  let result : Except Error Resource := match voc.error? v with
    | some e => .error e
    | none => .ok (.ofTree (voc.tree v))
  fun _ => result

/-- A custom predicate. One with a text of its own and no hash is known by its number. -/
def customPredicate (v : Value) : CustomPredicate :=
  let check := v.get "check"
  let condition : Condition :=
    match check.str? "path_prefix", voc.interface? check "provides", check.str? "has_match" with
    | some start, _, _ => .pathStarts start
    | _, some i, _ => .provides i
    | _, _, some name => .captured name
    | _, _, _ => .always check.isTrue
  let unique := 18446744073709551616 + (v.nat? "number").getD 0
  { condition.predicate with
    text := (v.str? "text").getD "<unknown custom predicate>"
    hash := (v.nat? "hash").getD (if v.has "text" then unique else 0) }

def predicateOptions (v : Value) : PredicateOptions where
  xhr := v.flag "xhr"
  requestMethod := v.strs? "request_method"
  pathInfo := v.str? "path_info"
  requestParam := v.str? "request_param"
  header := v.str? "header"
  accept := v.str? "accept"
  matchParam := v.strs? "match_param"
  containment := voc.interface? v "containment"
  requestType := voc.interface? v "request_type"
  custom := (v.list "custom").map voc.customPredicate
  traverse := v.str? "traverse"

/-- How a view concludes: the first of what the document gives, else with a text. -/
def conclusion (v : Value) : Conclusion :=
  let first : Option Conclusion :=
    (voc.error? v).map .fail
    <|> (if v.flag "reraise" then some .failAgain else none)
    <|> (v.get? "echo").map (fun a => .tell a.asTexts)
    <|> (v.get? "response").map (fun a => .respond (response a))
    <|> (v.get? "value").map .give
    <|> (v.get? "value_echo").map (fun a => .giveFacts a.asTexts)
  first.getD (.respond (Response.ofText (v.str "text")))

def script (v : Value) : ViewScript where
  instructions := (v.list "do").filterMap instruction?
  conclusion := voc.conclusion v

def callable (v : Value) : Callable :=
  let s := voc.script v
  let made (object : ViewObject) : Except Error ViewObject :=
    (v.get? "construct_error").elim (.ok object) fun e => .error (voc.error e)
  match v.str "shape" with
  | "function" => .function fun c => s.run (some c) none
  | "method" => .method fun attr => s.run none attr
  | "class" => .ofRequest fun _ => made fun attr => s.run none attr
  | "class_ctx" => .ofContext fun c _ => made fun attr => s.run (some c) attr
  | "described" => Signature.callable (Signature.parse (v.str "signature")) fun c => s.run c none
  | _ => .requestFunction (s.run none none)

def rawView (v : Value) : View :=
  RawView.toView {
    label := v.str "label"
    script := voc.script v
    permitted := !v.has "permitted" || v.flag "permitted"
    predicatesHold := (v.get? "matches").map Value.isTrue }

def subscriber (v : Value) : Subscriber :=
  SubscriberScript.subscriber {
    label := v.str? "label"
    viewName := v.str? "view_name"
    method := v.str? "method"
    requestField := (v.get? "request_header").map Value.asPair
    finished := v.str? "finished"
    responseCallback := v.str? "response_callback"
    status := (v.get? "status").map statusCode
    field := (v.get? "header").map Value.asPair
    values := v.entries "system"
    value := v.get? "value"
    wraps := v.flag "wrap"
    error := voc.error? v }

def tween (label : String) (v : Value) : TweenFactory :=
  TweenScript.factory {
    error := voc.error? v
    response := (v.get? "response").map response
    method := v.str? "method"
    retries := v.flag "retry"
    catches := v.flag "catch"
    field := (v.get? "header").map Value.asPair } label

/-- A session factory that notes each session, which is empty. -/
def sessionFactory (v : Value) : SessionFactory := fun _ => do
  Effect.report (.note "session created")
  (voc.error? v).elim (pure {}) throw

end Vocabulary

end WebDispatch.Scripted
