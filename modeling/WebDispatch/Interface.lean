/-!
# Interfaces

What an object provides, and what views and routes are registered under. An interface stands
either for a type of the program or for a name given at run time; one of each kind are never
equal, whatever their names.

* `RequestType` — what a request provides: the general interface, or the one of a route;
* `RequestType.order` — the interfaces under which ordinary views are looked up;
* `RequestType.combined` — those under which exception views are.
-/

namespace WebDispatch

/-- A registration key that says what something provides. -/
inductive Interface where
  /-- Stands for a type. -/
  | type (name : String)
  /-- Stands for a name given at run time. -/
  | named (name : String)
deriving DecidableEq, Repr, Inhabited

namespace Interface

def name : Interface → String
  | .type n => n
  | .named n => n

/-- The last part of a name whose parts stand between pairs of colons. -/
def shortName (i : Interface) : String :=
  String.ofList (i.name.toList.reverse.takeWhile (· ≠ ':')).reverse

def description (i : Interface) : String := "<Interface " ++ i.name ++ ">"

def builtin (name : String) : Interface := .type ("cornice_core::interfaces::" ++ name)

/-- What every object provides. -/
def any : Interface := builtin "IInterface"

/-- What every request provides that no route has claimed. -/
def request : Interface := builtin "IRequest"

def viewClassifier : Interface := builtin "IViewClassifier"

def exceptionViewClassifier : Interface := builtin "IExceptionViewClassifier"

def exception : Interface := builtin "IException"

/-- What errors provide that stand for a status code. -/
def httpException : Interface := builtin "IHttpException"

def notFound : Interface := builtin "INotFound"

def forbidden : Interface := builtin "IForbidden"

def predicateMismatch : Interface := builtin "IPredicateMismatch"

def configurationError : Interface := builtin "IConfigurationError"

/-- What the root provides that is used where none is configured. -/
def defaultRoot : Interface := .type "cornice_core::traversal::DefaultRoot"

def ofRoute (route : String) : Interface := .named (route ++ "_IRequest")

end Interface

/-- What a request provides: its own interface and those that it extends. -/
structure RequestType where
  iface : Interface := Interface.request
  bases : List Interface := []
deriving DecidableEq, Repr, Inhabited

namespace RequestType

def ofRoute (route : String) (useGlobalViews : Bool) : RequestType :=
  { iface := .ofRoute route, bases := if useGlobalViews then [Interface.request] else [] }

/-- The interfaces of a request, the most specific first. -/
def order (t : RequestType) : List Interface := t.iface :: t.bases ++ [Interface.any]

/-- The interfaces of a request with the general one, which comes last but one if it is new. -/
def combined (t : RequestType) : List Interface :=
  if t.order.contains Interface.request then t.order
  else t.order.dropLast ++ [Interface.request] ++ t.order.getLast?.toList

end RequestType

end WebDispatch
