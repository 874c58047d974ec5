import WebDispatch.Http.Date
import WebDispatch.Http.FileType
import WebDispatch.View.Callable

/-!
# Static files

Serves the files below a directory. The subpath of the request names the file; a subpath that
could lead elsewhere names none. For a directory its index is served, at an address that ends in
a slash.

* `FileTree` — files and directories with their contents;
* `StaticFiles.relative?` — the path below the directory that a subpath names;
* `StaticFiles.serve` — the answer to a request.
-/

namespace WebDispatch

open WebDispatch.Http (Response)
open WebDispatch.Text (Bytes)

/-- What is found at a path. -/
inductive FileStatus where
  | file (content : Bytes) (modified : Nat)
  | directory
  | missing
  /-- The path cannot be looked at, for a reason in the words of the system. -/
  | unreadable (reason : String)
deriving DecidableEq, Repr, Inhabited

/-- Files and directories, by the names on the way to them. -/
structure FileTree where
  files : List (List String × Bytes) := []
  directories : List (List String) := []
  /-- When the files were last changed, in seconds since the beginning of 1970. -/
  modified : Nat := 1000000000
deriving Repr, Inhabited

namespace FileTree

/-- The tree that named contents make up; a name that ends in a slash is that of a directory, and
of two files with one name the later stays. -/
def ofList (entries : List (String × String)) (modified : Nat) : FileTree :=
  let path (name : String) : List String := (Text.splitOn '/' name).filter (· ≠ "")
  { files := (entries.filter fun (name, _) => !Text.endsWith name "/").reverse.map
      fun (name, text) => (path name, Text.encode text)
    directories := (entries.filter fun (name, _) => Text.endsWith name "/").map
      fun (name, _) => path name
    modified := modified }

def content? (t : FileTree) (path : List String) : Option Bytes :=
  (t.files.find? fun f => f.1 = path).map (·.2)

def hasDirectory (t : FileTree) (path : List String) : Bool :=
  path.isEmpty || (t.directories.any fun d => path.isPrefixOf d)
    || (t.files.any fun f => path.isPrefixOf f.1 && f.1 ≠ path)

def notDirectory : String := "Not a directory (os error 20)"

def nameTooLong : String := "File name too long (os error 36)"

def nameLimit : Nat := 255

/-- What is found by following names from a path. -/
def statusFrom (t : FileTree) (path : List String) : List String → FileStatus
  | [] =>
    match t.content? path with
    | some bytes => .file bytes t.modified
    | none => if t.hasDirectory path then .directory else .missing
  | name :: rest =>
    if (t.content? path).isSome then .unreadable notDirectory
    else if !t.hasDirectory path then .missing
    else if nameLimit < name.utf8ByteSize then .unreadable nameTooLong
    else statusFrom t (path ++ [name]) rest

def directoryStatus (t : FileTree) (path : List String) : FileStatus :=
  match t.statusFrom [] path with
  | .file _ _ => .unreadable notDirectory
  | s => s

end FileTree

structure StaticFiles where
  /-- The path of the directory, for messages. -/
  root : String
  /-- What is found below the directory; no names stand for the directory itself. -/
  status : List String → FileStatus
  /-- For how many seconds clients may keep a file. -/
  maxAge : Option Nat := some 3600

namespace StaticFiles

def ofTree (t : FileTree) (root : String) (base : List String) (maxAge : Option Nat) :
    StaticFiles :=
  { root := root
    status := fun
      | [] => t.directoryStatus base
      | names => t.statusFrom [] (base ++ names)
    maxAge := maxAge }

def indexName : String := "index.html"

def isPlainName (s : String) : Bool :=
  s ≠ "" && s ≠ "." && s ≠ ".." && !Text.hasChar s '/' && !Text.hasChar s '\\'
    && !Text.hasChar s '\x00'

/-- The subpath of a request: the one that traversal left, or else the one the route captured. -/
def subpath (r : Request) : List String :=
  if r.subpath.isEmpty then
    ((r.matchdict.bind (·.get? "subpath")).bind MatchValue.segments?).getD []
  else r.subpath

def relative? (segments : List String) : Option (List String) :=
  if segments.all isPlainName then some segments else none

def pathText (s : StaticFiles) (names : List String) : String :=
  s.root ++ "/" ++ Text.joinWith "/" names

def failure (s : StaticFiles) (names : List String) : FileStatus → Error
  | .unreadable reason => .internal ("cannot read " ++ s.pathText names ++ ": " ++ reason)
  | _ => .notFound (s.pathText names)

def redirect (r : Request) : Response :=
  let query := match r.target.query with
    | some q => "?" ++ q
    | none => ""
  (Response.ofStatus 301).setHeader "location" (r.target.path ++ "/" ++ query)

def isKnown (r : Request) (modified : Nat) : Bool :=
  match (r.header? "if-modified-since").bind Http.Instant.read? with
  | some since => decide (modified ≤ since)
  | none => false

def fileResponse (s : StaticFiles) (now : Nat) (name : String) (content : Bytes)
    (modified : Nat) : Response :=
  let r : Response := { ({} : Response).setContentType (Http.fileType name) with body := content }
  let r := r.setHeader "last-modified" (Http.Instant.text modified)
  match s.maxAge with
  | none => r
  | some n =>
    (r.setHeader "cache-control" ("max-age=" ++ toString n)).setHeader "expires"
      (Http.Instant.text (now + n))

def serveFile (s : StaticFiles) (names : List String) : Handling Response := do
  let r ← Handling.request
  match s.status names with
  | .file content modified =>
    if isKnown r modified then return Response.ofStatus 304
    else
      let now := (← read).now
      Handling.report .trace "cornice::static" "serving static file"
      return s.fileResponse now (names.getLast?.getD "") content modified
  | status => throw (s.failure names status)

def serve (s : StaticFiles) : Handling Response := do
  let r ← Handling.request
  match relative? (subpath r) with
  | none =>
    throw (.notFound ("static path " ++ Text.quoted (Text.joinWith "/" (subpath r))
      ++ " is not allowed"))
  | some names =>
    match s.status names with
    | .directory =>
      if Text.endsWith r.target.path "/" then s.serveFile (names ++ [indexName])
      else return redirect r
    | _ => s.serveFile names

def callable (s : StaticFiles) : Callable := .function fun _ => return .response (← s.serve)

end StaticFiles

end WebDispatch
