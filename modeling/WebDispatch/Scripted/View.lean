import WebDispatch.Scripted.Callback
import WebDispatch.View.Basic
import WebDispatch.View.Callable

/-!
# Scripted views

Views given by a script: some things to do in order, and how to conclude.

* `fact` — something about a request, by its name;
* `Instruction.run`, `ViewScript.run` — carries out a script;
* `RawView.toView` — a view that stands by itself.
-/

namespace WebDispatch.Scripted

open WebDispatch.Http (Response)

/-- Something that may be absent, shown by a dash. -/
def shown (s : Option String) : String := s.getD "-"

def resultText (act : Handling String) : Handling String := do
  match ← act.outcome with
  | .ok s => return s
  | .error e => return e.message

def matchValue (d : MatchDict) : Value :=
  .array (d.toList.map fun (k, v) => .array [.text k,
    match v with
    | .text s => .text s
    | .segments ss => .texts ss])

/-- Facts whose names are a kind and an argument; none if the name is of another form. -/
def factOfArgument? (name : String) : Option (Handling String) :=
  let argument? (kind : String) : Option String := Text.dropStart? kind name
  (argument? "param:").map (fun n => return shown ((← Handling.request).param? n))
  <|> (argument? "header:").map (fun n => return shown ((← Handling.request).header? n))
  <|> (argument? "match:").map (fun n => return shown ((← Handling.request).matchText? n))
  <|> (argument? "session:").map (fun k => resultText do
        return shown (((← Handling.session).get? k).map Value.compact))
  <|> (argument? "route_path:").map (fun n => resultText do
        Handling.routePath n ((← Handling.request).matchdict.getD {}))

/-- Something about a request, the context that a view is called for and the name of its method.
What is absent is shown by a dash, and a name that means nothing by itself. -/
def fact (context : Option Resource) (attr : Option String) (name : String) : Handling String := do
  let r ← Handling.request
  match name with
  | "path" => return r.pathInfo
  | "method" => return r.method
  | "query" => return r.query
  | "view_name" => return r.viewName
  | "subpath" => return Text.joinWith "/" r.subpath
  | "traversed" => return Text.joinWith "/" r.traversed
  | "matchdict" => return shown (r.matchdict.map fun d => (matchValue d).compact)
  | "route" => return shown r.route
  | "context" => return shown (context.map Resource.label)
  | "root_matchdict" =>
    return shown (match context with
      | some (.defaultRoot (some d)) => some (matchValue d).compact
      | _ => none)
  | "error" =>
    return shown (match context with
      | some (.failure e) => some e.message
      | _ => none)
  | "exception" => return shown (r.exception.map Error.message)
  | "wrapped_body" => return shown (r.wrappedBody.map Text.decodeLossy)
  | "wrapped_status" => return shown (r.wrapped.map fun s => toString s.status)
  | "attr" => return shown attr
  | "locale" => Handling.localeName
  | "instance" => return Text.truth r.hasInstance
  | "has_response" => return Text.truth r.prepared.isSome
  | "authdebug" => return shown r.accessReason
  | _ => (factOfArgument? name).getD (return name)

inductive Instruction where
  | note (text : String)
  /-- Changes the status code of the response being prepared. -/
  | setStatus (status : Nat)
  | setField (name value : String)
  | setContentType (type : String)
  | onResponse (label : String)
  | onFinished (label : String)
  /-- Has the value of the view rendered by another renderer. -/
  | chooseRenderer (name : String)
  | remember (key : String) (v : Value)
  | forget (key : String)
  | forgetAll
  /-- Calls the view of a name, its permission checked or not, and notes its answer. -/
  | render (name : String) (secure : Bool)
  /-- Calls the view of a name and notes the body of its answer. -/
  | renderBody (name : String) (secure : Bool)

/-- Calls the view of a name for a context, or for that of the request. -/
def renderNamed (context : Option Resource) (name : String) (secure : Bool) :
    Handling (Option Response) := do
  let c := (context <|> (← Handling.request).context).getD (.defaultRoot none)
  let env ← read
  fun _ => env.renderNamed c name secure

def Instruction.run (context : Option Resource) : Instruction → Handling Unit
  | note text => Handling.note text
  | setStatus status => modify fun x => x.prepare fun r => { r with status := status }
  | setField name value => modify fun x => x.prepare fun r => r.setField name value
  | setContentType type => modify fun x => x.prepare fun r => r.setContentType type
  | onResponse label => modify (addResponse label)
  | onFinished label => modify (addFinished label)
  | chooseRenderer name => Handling.modifyRequest fun r => { r with renderer := some name }
  | remember key v => Handling.modifySession fun s => s.insert key v
  | forget key => do
    let old := (← Handling.session).get? key
    Handling.modifySession fun s => s.erase key
    Handling.note ("removed " ++ shown (old.map Value.compact))
  | forgetAll => Handling.modifySession fun _ => {}
  | render name secure => do
    Handling.note ("render " ++ (match ← (renderNamed context name secure).outcome with
      | .ok (some r) => toString r.status ++ " " ++ r.text
      | .ok none => "none"
      | .error e => e.message))
  | renderBody name secure => do
    Handling.note ("body " ++ (match ← renderNamed context name secure with
      | some r => r.text
      | none => "none"))

inductive Conclusion where
  | fail (e : Error)
  /-- Fails with the error that the view was called for. -/
  | failAgain
  | respond (r : Response)
  | give (v : Value)
  /-- Answers with facts, by their names. -/
  | tell (facts : List String)
  /-- Gives facts to the renderer. -/
  | giveFacts (facts : List String)

def Conclusion.run (context : Option Resource) (attr : Option String) :
    Conclusion → Handling ViewOutput
  | fail e => throw e
  | failAgain =>
    match context with
    | some (.failure e) => throw e
    | _ => throw (.internal "nothing to raise")
  | respond r => return .response r
  | give v => return .value v
  | tell facts => do
    return .response (Response.ofText (Text.joinWith "|" (← facts.mapM (fact context attr))))
  | giveFacts facts => do
    let fields ← facts.mapM fun name => do return (name, Value.text (← fact context attr name))
    return .value (.object fields)

structure ViewScript where
  instructions : List Instruction := []
  conclusion : Conclusion := .respond (Response.ofText "")

def ViewScript.run (s : ViewScript) (context : Option Resource) (attr : Option String) :
    Handling ViewOutput := do
  s.instructions.forM (Instruction.run context)
  s.conclusion.run context attr

/-- A view that stands by itself, without what is usually derived around a callable. -/
structure RawView where
  label : String
  script : ViewScript := {}
  permitted : Bool := true
  /-- The verdict of the predicates, if there are any. -/
  predicatesHold : Option Bool := none

/-- The view; a value that is not a response becomes its text. -/
def RawView.toView (v : RawView) : View :=
  let call : ViewFunction := fun context => do
    match ← v.script.run (some context) none with
    | .response r => return r
    | .value value => return Response.ofText value.compact
  { description := v.label
    call := call
    callPermissive := fun context => do
      Handling.note ("permissive " ++ v.label)
      call context
    permitted := fun _ _ => v.permitted
    predicatesHold := fun _ _ => v.predicatesHold }

/-- A decorator that notes when the view is entered and left, and marks its response. -/
def decorator (label : String) (view : ViewFunction) : ViewFunction := fun context => do
  Handling.note ("decorator " ++ label ++ " in")
  let r ← view context
  Handling.note ("decorator " ++ label ++ " out")
  return r.setHeader "x-decorator" label

/-- The usual reading of a callable's shape, noted on each call. -/
def mapper (c : Callable) (attr : Option String) : Except Error MappedView :=
  (c.mapped attr).map fun view context => do
    Handling.note "mapper"
    view context

end WebDispatch.Scripted
