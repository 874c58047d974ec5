import WebDispatch.Predicate.Basic
import WebDispatch.Text.Digest

/-!
# Predicate options

The conditions of a view or a route as they are declared. They are compiled in a fixed order of
categories into predicates, a rank and an identity.

* `PredicateOptions.compile` — the predicates, or what is wrong with an option;
* `PredicateSet.order` — the rank among competing sets, the lower the sooner: it falls with the
  number of predicates, and with the weight of their categories among sets of one size;
* `PredicateSet.identity`, `phash` — the values of the options as text, and its digest: views that
  have it in common replace each other.
-/

namespace WebDispatch

/-- The conditions of a view or a route. -/
structure PredicateOptions where
  xhr : Bool := false
  requestMethod : Option (List String) := none
  pathInfo : Option String := none
  /-- A name, or `name=value`. -/
  requestParam : Option String := none
  /-- A name, or `name:expression`. -/
  header : Option String := none
  accept : Option String := none
  /-- Each `name=value`. -/
  matchParam : Option (List String) := none
  containment : Option Interface := none
  requestType : Option Interface := none
  custom : List CustomPredicate := []
  /-- For routes: the pattern that generates the path to traverse. -/
  traverse : Option String := none
deriving Inhabited

/-- What a predicate looks at, in the order in which predicates are asked. -/
inductive PredicateCategory where
  | xhr
  | requestMethod
  | pathInfo
  | requestParam
  | header
  | accept
  | containment
  | requestType
  | matchParam
  | custom
  | traverse
deriving DecidableEq, Repr

/-- How much a category counts for the rank; the path to traverse is no condition. -/
def PredicateCategory.weight : PredicateCategory → Nat
  | xhr => 1 <<< 1
  | requestMethod => 1 <<< 2
  | pathInfo => 1 <<< 3
  | requestParam => 1 <<< 4
  | header => 1 <<< 5
  | accept => 1 <<< 6
  | containment => 1 <<< 7
  | requestType => 1 <<< 8
  | matchParam => 1 <<< 9
  | custom => 1 <<< 10
  | traverse => 0

/-- The predicates of one category and the text that identifies their values. -/
structure PredicateGroup where
  category : PredicateCategory
  predicates : List Predicate
  identity : String

structure PredicateSet where
  order : Nat
  predicates : List Predicate
  identity : String
deriving Inhabited

namespace PredicateSet

/-- The rank of no predicates, which is the highest. -/
def lastOrder : Nat := 1 <<< 30

def none : PredicateSet := ⟨lastOrder, [], ""⟩

/-- The digest that tells sets apart. -/
def phash (s : PredicateSet) : String := Text.hexDigest s.identity

def description (s : PredicateSet) : String :=
  Text.record "PredicateSet"
    [("order", toString s.order), ("predicates", Text.listed (s.predicates.map Predicate.description)),
     ("phash", Text.quoted s.phash)]

def emptyPhash : String := "e3b0c44298fc1c149afbf4c8996fb92427ae41e4649b934ca495991b7852b855"

/-- The sum of the weights of the categories. -/
def score (groups : List PredicateGroup) : Nat :=
  groups.foldr (fun g total => g.category.weight + total) 0

/-- The rank of a number of predicates of a score. -/
def rank (score count : Nat) : Nat := (lastOrder - score) / (count + 1)

def ofGroups (groups : List PredicateGroup) : PredicateSet :=
  let predicates := groups.flatMap PredicateGroup.predicates
  { order := rank (score groups) predicates.length
    predicates := predicates
    identity := String.join (groups.map PredicateGroup.identity) }

end PredicateSet

namespace PredicateOptions

def expression (option source : String) : Except Error Expression :=
  match Regex.parse? source with
  | some r => .ok ⟨source, r⟩
  | none =>
    .error (.configuration (option ++ " regex " ++ Text.quoted source ++ " is invalid: <regex>"))

/-- Methods with `HEAD` wherever there is `GET`. -/
def withHead (methods : List String) : List String :=
  if methods.contains "GET" && !methods.contains "HEAD" then methods ++ ["HEAD"] else methods

def nameValue (sep : Char) (s : String) : String × Option String :=
  match Text.cut? sep s with
  | some (name, value) => (name, some value)
  | none => (s, none)

def xhrGroup (o : PredicateOptions) : Except Error (Option PredicateGroup) :=
  .ok (if o.xhr then some ⟨.xhr, [.xhr], "xhr:True"⟩ else none)

def methodGroup (o : PredicateOptions) : Except Error (Option PredicateGroup) :=
  .ok (o.requestMethod.map fun given =>
    let methods := withHead given
    ⟨.requestMethod, [.requestMethod methods],
      "request_method:" ++ Text.quotedList (methods.mergeSort Text.compareText)⟩)

def pathGroup (o : PredicateOptions) : Except Error (Option PredicateGroup) :=
  o.pathInfo.mapM fun source => do
    return ⟨.pathInfo, [.pathInfo (← expression "path_info" source)],
      "path_info:" ++ Text.quoted source⟩

def paramGroup (o : PredicateOptions) : Except Error (Option PredicateGroup) :=
  .ok (o.requestParam.map fun given =>
    let (rawName, rawValue) := nameValue '=' given
    let name := Text.trim rawName
    let value := rawValue.map Text.trim
    ⟨.requestParam, [.requestParam name value],
      "request_param:" ++ Text.quoted name ++ "=" ++ Text.quotedOptional value⟩)

def headerGroup (o : PredicateOptions) : Except Error (Option PredicateGroup) :=
  o.header.mapM fun given => do
    let (name, source) := nameValue ':' given
    let value ← source.mapM (expression "header")
    return ⟨.header, [.header name value],
      "header:" ++ Text.quoted name ++ "=" ++ Text.quotedOptional source⟩

def acceptGroup (o : PredicateOptions) : Except Error (Option PredicateGroup) :=
  o.accept.mapM fun offer =>
    if Text.hasChar offer '*' || (Http.MediaRange.parse? offer).isNone then
      .error (.configuration ("accept " ++ Text.quoted offer
        ++ " must be a concrete media type, not a media range"))
    else .ok ⟨.accept, [.accept offer], "accept:" ++ Text.quoted offer⟩

def containmentGroup (o : PredicateOptions) : Except Error (Option PredicateGroup) :=
  .ok (o.containment.map fun i => ⟨.containment, [.containment i], "containment:" ++ i.name⟩)

def typeGroup (o : PredicateOptions) : Except Error (Option PredicateGroup) :=
  .ok (o.requestType.map fun i => ⟨.requestType, [.requestType i], "request_type:" ++ i.name⟩)

/-- Whether one pair precedes another or equals it. -/
def comparePair (p q : String × String) : Bool :=
  decide (p.1 < q.1) || (p.1 = q.1 && decide (p.2 ≤ q.2))

def matchPair (given : String) : Except Error (String × String) :=
  match Text.cut? '=' given with
  | some (k, v) => .ok (Text.trim k, Text.trim v)
  | none => .error (.configuration ("match_param " ++ Text.quoted given ++ " must be key=value"))

def matchGroup (o : PredicateOptions) : Except Error (Option PredicateGroup) :=
  o.matchParam.mapM fun given => do
    let pairs := (← given.mapM matchPair).mergeSort comparePair
    return ⟨.matchParam, [.matchParam pairs],
      "match_param:" ++ Text.listed
        (pairs.map fun (k, v) => "(" ++ Text.quoted k ++ ", " ++ Text.quoted v ++ ")")⟩

def customIdentity : Nat → List CustomPredicate → String
  | _, [] => ""
  | n, p :: rest => "custom" ++ toString n ++ ":" ++ toString p.hash ++ customIdentity (n + 1) rest

def customGroup (o : PredicateOptions) : Except Error (Option PredicateGroup) :=
  .ok (if o.custom.isEmpty then none
    else some ⟨.custom, o.custom.map .custom, customIdentity 0 o.custom⟩)

/-- Compiles the pattern of the path to traverse, which identifies nothing. -/
def traverseGroup (o : PredicateOptions) : Except Error (Option PredicateGroup) :=
  o.traverse.mapM fun source => do
    return ⟨.traverse, [.traverse (← Pattern.compile source)], ""⟩

def groups (o : PredicateOptions) : Except Error (List PredicateGroup) := do
  let found ← [xhrGroup, methodGroup, pathGroup, paramGroup, headerGroup, acceptGroup,
    containmentGroup, typeGroup, matchGroup, customGroup, traverseGroup].mapM fun f => f o
  return found.filterMap id

def compile (o : PredicateOptions) : Except Error PredicateSet :=
  o.groups.map PredicateSet.ofGroups

def description (o : PredicateOptions) : String :=
  Text.record "PredicateOptions"
    [("xhr", Text.truth o.xhr),
     ("request_method", Text.optional (o.requestMethod.map Text.listed)),
     ("path_info", Text.quotedOptional o.pathInfo),
     ("request_param", Text.quotedOptional o.requestParam),
     ("header", Text.quotedOptional o.header),
     ("accept", Text.quotedOptional o.accept),
     ("match_param", Text.optional (o.matchParam.map Text.quotedList)),
     ("containment", Text.optional (o.containment.map Interface.description)),
     ("request_type", Text.optional (o.requestType.map Interface.description)),
     ("custom", Text.quotedList (o.custom.map CustomPredicate.text)),
     ("traverse", Text.quotedOptional o.traverse)]

end PredicateOptions

end WebDispatch
