import WebDispatch.Handling

/-!
# View callables

What an application gives as a view: a function of the context and the request or of the request
alone, an object with methods, or a class that makes such an object for each request. It returns
a response or a value to be rendered.

* `Callable.mapped` — any shape as a function of the context;
* `Signature.parse`, `Signature.isRequestOnly` — whether a callable described by its parameters
  takes the request alone.
-/

namespace WebDispatch

open WebDispatch.Http (Response)

/-- What a callable returns. -/
inductive ViewOutput where
  | response (r : Response)
  | value (v : Value)
deriving Inhabited

/-- An object with methods; no name stands for the usual one. -/
abbrev ViewObject : Type := Option String → Handling ViewOutput

abbrev MappedView : Type := Resource → Handling ViewOutput

/-- A view as an application gives it. -/
inductive Callable where
  | function (run : Resource → Handling ViewOutput)
  | requestFunction (run : Handling ViewOutput)
  | method (target : ViewObject)
  /-- A class whose objects are made from the request. -/
  | ofRequest (make : Request → Except Error ViewObject)
  /-- A class whose objects are made from the context and the request. -/
  | ofContext (make : Resource → Request → Except Error ViewObject)
deriving Inhabited

namespace Callable

def shape : Callable → String
  | function _ => "function"
  | requestFunction _ => "request-only function"
  | method _ => "bound method"
  | ofRequest _ | ofContext _ => "constructor"

def description (c : Callable) : String := "<ViewCallable " ++ c.shape ++ ">"

def isRequestOnly : Callable → Bool
  | requestFunction _ | ofRequest _ => true
  | function _ | method _ | ofContext _ => false

def callMade (made : Except Error ViewObject) (attr : Option String) : Handling ViewOutput := do
  let object ← Handling.ofExcept made
  Handling.modifyRequest fun r => { r with hasInstance := true }
  object attr

/-- A callable as a function of the context. A method can be chosen only where there are any. -/
def mapped (c : Callable) (attr : Option String) : Except Error MappedView :=
  let withoutAttr (run : MappedView) : Except Error MappedView :=
    match attr with
    | some a =>
      .error (.configuration ("attr " ++ Text.quoted a ++ " cannot be used with a " ++ c.shape
        ++ " view"))
    | none => .ok run
  match c with
  | function run => withoutAttr run
  | requestFunction run => withoutAttr fun _ => run
  | method target => .ok fun _ => target attr
  | ofRequest make => .ok fun _ => do callMade (make (← Handling.request)) attr
  | ofContext make => .ok fun context => do callMade (make context (← Handling.request)) attr

end Callable

structure Parameter where
  name : String
  hasDefault : Bool := false
deriving DecidableEq, Repr, Inhabited

abbrev Signature := List Parameter

namespace Signature

/-- A parameter as written, a default value behind an equals sign. -/
def parameter (s : String) : Parameter :=
  match Text.cut? '=' s with
  | some (name, _) => ⟨Text.trim name, true⟩
  | none => ⟨s, false⟩

/-- Parameters as written, between commas. -/
def parse (s : String) : Signature :=
  ((((Text.splitOn ',' s).map Text.trim).filter (· ≠ "")).map parameter)

/-- Whether a callable takes the request alone: it has a single parameter, or the first is named
`request` and the others have defaults. -/
def isRequestOnly : Signature → Bool
  | [] => false
  | [_] => true
  | first :: rest => first.name = "request" && rest.all Parameter.hasDefault

/-- A callable described by its parameters; it gets the context if it takes one. -/
def callable (s : Signature) (run : Option Resource → Handling ViewOutput) : Callable :=
  if s.isRequestOnly then .requestFunction (run none) else .function fun context => run (some context)

end Signature

end WebDispatch
