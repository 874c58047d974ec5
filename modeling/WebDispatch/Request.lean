import WebDispatch.Http.Accept
import WebDispatch.Http.Form
import WebDispatch.Http.Uri
import WebDispatch.Journal
import WebDispatch.Resource
import WebDispatch.Text.Percent
import WebDispatch.Value

/-!
# Requests

A request as it came, and what has been found out about it so far: the matched route and what it
captured, the resource it is for, the name of the view, and the error that is being handled.

* `Request.build`, `Request.blank` — requests from their parts, and from a path alone;
* `pathInfo`, `header?`, `params`, `accept` — the request as it came.
-/

namespace WebDispatch

open WebDispatch.Http (Headers Preference Response Target)
open WebDispatch.Text (Bytes)

abbrev Session := OrderedMap String Value

structure Request where
  method : String := "GET"
  target : Target := Target.slash
  headers : Headers := []
  body : Bytes := []
  /-- What the request provides; views are looked up under it. -/
  type : RequestType := {}
  /-- What the matched route captured. -/
  matchdict : Option MatchDict := none
  /-- The name of the matched route. -/
  route : Option String := none
  root : Option Resource := none
  context : Option Resource := none
  viewName : String := ""
  subpath : List String := []
  traversed : List String := []
  virtualRoot : Option Resource := none
  virtualRootPath : List String := []
  /-- The error that an exception view handles; it stays after that. -/
  exception : Option Error := none
  /-- Why the last decision on access was taken. -/
  accessReason : Option String := none
  /-- The name of a renderer that replaces the one of the view. -/
  renderer : Option String := none
  /-- The response of the inner view while its wrapper runs, and its body. -/
  wrapped : Option Response := none
  wrappedBody : Option Bytes := none
  /-- Whether a view has made an instance of its class. -/
  hasInstance : Bool := false
  /-- The response that views may prepare before theirs is known. -/
  prepared : Option Response := none
  session : Option Session := none
  journal : Journal := []
deriving Inhabited

namespace Request

/-- A `GET` request for a path; one that cannot be read stands for `/`. -/
def blank (path : String) : Request :=
  match Target.parse? path with
  | .ok t => { target := t }
  | .error _ => {}

/-- Adds header fields, stopping at the first that is none. -/
def addHeaders (h : Headers) (fields : List (String × String)) : Except Error Headers :=
  fields.foldlM
    (fun h (name, value) => (h.append name value).mapError fun e => .internal e.message) h

def build (method target : String) (fields : List (String × String)) (body : String) :
    Except Error Request := do
  let t ← (Target.parse? target).mapError fun e => Error.internal e.message
  let h ← addHeaders [] fields
  return { method := method, target := t, headers := h, body := Text.encode body }

def pathInfo (r : Request) : String := Text.percentDecode r.target.path

def query (r : Request) : String := r.target.query.getD ""

/-- The first readable value of a header field. -/
def header? (r : Request) (name : String) : Option String := r.headers.text? name

/-- Whether a script of a page sent the request. -/
def isXhr (r : Request) : Bool := r.header? "x-requested-with" = some "XMLHttpRequest"

def accept (r : Request) : Preference :=
  match r.header? "accept" with
  | some value => .parse value
  | none => .any

def queryParams (r : Request) : List (String × String) := Http.formParams (Text.encode r.query)

/-- The parameters of a body that holds those of a form. -/
def postParams (r : Request) : List (String × String) :=
  match r.header? "content-type" with
  | some type =>
    if Text.startsWith type "application/x-www-form-urlencoded" then Http.formParams r.body else []
  | none => []

/-- All parameters, those of the query first. -/
def params (r : Request) : List (String × String) := r.queryParams ++ r.postParams

def param? (r : Request) (name : String) : Option String :=
  (r.params.find? fun p => p.1 = name).map (·.2)

def matchText? (r : Request) (name : String) : Option String :=
  (r.matchdict.bind (·.get? name)).bind MatchValue.text?

def localeParam : String := "_LOCALE_"

def typeDescription (t : RequestType) : String :=
  Text.record "RequestType"
    [("iface", t.iface.description), ("bases", Text.listed (t.bases.map Interface.description))]

def description (r : Request) : String :=
  Text.openRecord "Request"
    [("method", r.method),
     ("uri", r.target.text),
     ("request_type", typeDescription r.type),
     ("matched_route", Text.quotedOptional r.route),
     ("view_name", Text.quoted r.viewName),
     ("subpath", Text.quotedList r.subpath),
     ("exception", Text.optional (r.exception.map Error.description))]

end Request

end WebDispatch
